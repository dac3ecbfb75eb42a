import Warden.Declaration
import Warden.Proofs.Table
/-!
# Building a schema

A build checks the type name, declares the actions in step order, builds the guard table from
the bindings in registration order and, in a strict build, refuses the first diagnostic. Only
that last step reads the options: a build is the assembled schema (`Plan.assemble`) passed
through the strict check (`build_eq_assemble`). Everything below is stated over every plan,
so over every order in which a builder's steps were given, since a plan keeps the actions and
the bindings apart and the table is built only once all actions are declared.

Main statements:

* `guard_resolution`: the guard of a name is that of its last binding when the name is
  declared, else the effective fallback; every entry is labelled with the upper case of its key;
  for a declaration, the same law read off its guard declarations;
* `diagnostics_build`: the diagnostics are the repeated steps, in step order, then the verdict
  of each binding against the bindings before it; with the count of repeated steps and the
  condition for no diagnostic at all;
* `strict_build_refines`: a strict build fails as the lenient one does, returns the lenient
  schema when it has no diagnostic, and otherwise refuses its first diagnostic.
-/

namespace Warden

open Binding

namespace Plan

/-! ### The order of a builder's steps -/

/-- A binding and an action may be given in either order: the plan keeps them apart. -/
theorem bind_item {γ : Type} (p : Plan γ) (b : Binding γ) (n : String) :
    (p.bind b).item n = (p.item n).bind b := rfl

/-- A binding and a global action may be given in either order. -/
theorem bind_global {γ : Type} (p : Plan γ) (b : Binding γ) (n : String) :
    (p.bind b).global n = (p.global n).bind b := rfl

variable {γ : Type} [GuardName γ]

/-! ### The assembled schema -/

/-- **The schema a plan describes**, before a strict build looks at its diagnostics. -/
def assemble (p : Plan γ) : Except SchemaError (Schema γ) := do
  checkTypeName p.typeName
  let (catalog, dups) ← declare p.actions {} []
  let (table, notes) := Table.build catalog p.bindings
  pure ⟨p.typeName, catalog, p.customItem, p.customGlobal, table, dups ++ notes⟩

/-- **A build is the assembled schema passed through the strict check.** -/
theorem build_eq_assemble (p : Plan γ) :
    p.build = p.assemble.bind fun s => (checkStrict p.options s.diagnostics).map fun _ => s := by
  unfold build assemble
  cases checkTypeName p.typeName with
  | error e => rfl
  | ok u =>
    cases declare p.actions {} [] with
    | error e => rfl
    | ok r =>
      obtain ⟨c, dups⟩ := r
      -- both sides now wait on the same strict check of the same diagnostics
      change (checkStrict p.options (dups ++ (Table.build c p.bindings).2)).bind _ =
        Except.map _ (checkStrict p.options (dups ++ (Table.build c p.bindings).2))
      cases checkStrict p.options (dups ++ (Table.build c p.bindings).2) <;> rfl

/-- The assembled schema does not read the options. -/
theorem assemble_options (p : Plan γ) (o : Options) :
    ({ p with options := o } : Plan γ).assemble = p.assemble := rfl

/-- **What an assembled schema is**: the catalog of the declared steps, their repeated steps,
and the table of the bindings over that catalog. -/
theorem assemble_eq_ok {p : Plan γ} {s : Schema γ} (h : p.assemble = .ok s) :
    ∃ c dups, declare p.actions {} [] = .ok (c, dups) ∧
      s = ⟨p.typeName, c, p.customItem, p.customGlobal, (Table.build c p.bindings).1,
        dups ++ (Table.build c p.bindings).2⟩ := by
  unfold assemble at h
  cases hn : checkTypeName p.typeName with
  | error e => rw [hn] at h; cases h
  | ok u =>
    cases hd : declare p.actions {} [] with
    | error e => rw [hn, hd] at h; cases h
    | ok r =>
      obtain ⟨c, dups⟩ := r
      rw [hn, hd] at h
      exact ⟨c, dups, rfl, (Except.ok.inj h).symm⟩

/-- A lenient strict check passes everything. -/
theorem checkStrict_lenient (ds : List Diagnostic) : checkStrict ⟨false⟩ ds = .ok () := by
  cases ds <;> rfl

/-- A strict check refuses the first diagnostic. -/
theorem checkStrict_strict (d : Diagnostic) (ds : List Diagnostic) :
    checkStrict ⟨true⟩ (d :: ds) = .error (.strict d.message) := rfl

/-- A successful build is its assembled schema. -/
theorem assemble_of_build_eq_ok {p : Plan γ} {s : Schema γ} (h : p.build = .ok s) :
    p.assemble = .ok s := by
  rw [build_eq_assemble] at h
  cases ha : p.assemble with
  | error e => rw [ha] at h; cases h
  | ok s' =>
    rw [ha] at h
    cases hs : checkStrict p.options s'.diagnostics with
    | error e => simp [hs, Except.bind, Except.map] at h
    | ok u =>
      simp only [hs, Except.bind, Except.map, Except.ok.injEq] at h
      rw [h]

/-- **What a built schema is**: a catalog recording exactly the declared steps, and the table
and diagnostics of the bindings over it. -/
theorem build_eq_ok {p : Plan γ} {s : Schema γ} (h : p.build = .ok s) :
    ∃ c dups, Records p.actions c dups ∧ s.catalog = c ∧ s.table = (Table.build c p.bindings).1 ∧
      s.diagnostics = dups ++ (Table.build c p.bindings).2 := by
  obtain ⟨c, dups, hd, rfl⟩ := assemble_eq_ok (assemble_of_build_eq_ok h)
  exact ⟨c, dups, records_of_declare hd, rfl, rfl, rfl⟩

/-! ### Guard resolution -/

/-- **The entry a built schema gives a name**: a declared name its own entry, with the guard of
its last binding or else the effective fallback; any other name the custom entry. -/
theorem guardFor_build {p : Plan γ} {s : Schema γ} (h : p.build = .ok s) (x : String) :
    s.guardFor x =
      if x ∈ p.actions.map Prod.snd then
        Table.entryOf x ((lastFor p.bindings (some x)).getD (fallbackOf p.bindings))
      else Table.entryOf customKey (fallbackOf p.bindings) := by
  obtain ⟨c, dups, hr, -, ht, -⟩ := build_eq_ok h
  rw [Schema.guardFor, ht, Table.resolve_build]
  -- the catalog's names are the declared names, so the two conditions agree
  by_cases hx : x ∈ p.actions.map Prod.snd
  · rw [if_pos ((hr.mem_names_iff x).2 hx), if_pos hx]
  · rw [if_neg (fun hn => hx ((hr.mem_names_iff x).1 hn)), if_neg hx]

/-- Every entry of a built schema's table is labelled with the upper case of its key. -/
theorem label_eq_upper_of_build {p : Plan γ} {s : Schema γ} (h : p.build = .ok s) {k : String}
    {e : Entry γ} (he : (k, e) ∈ s.table.toList) : e.label = Text.upper k := by
  obtain ⟨c, dups, -, -, ht, -⟩ := build_eq_ok h
  rw [ht] at he
  exact Table.label_eq_upper_of_mem_build c p.bindings he

end Plan

/-! ### Declarations -/

namespace GuardDecl

/-- A guard declaration binds its guard as the fallback exactly when it guards no action. -/
theorem lastFor_bindings_none (g : GuardDecl) :
    lastFor g.bindings none = if g.guarded = [] then some g.guard else none := by
  unfold bindings
  split
  · next h => simp [h, lastFor]
  · next h =>
    rw [if_neg h, lastFor_eq_none_iff]
    simp

/-- A guard declaration binds its guard to exactly its guarded actions. -/
theorem lastFor_bindings_some (g : GuardDecl) (x : String) :
    lastFor g.bindings (some x) = if x ∈ g.guarded then some g.guard else none := by
  unfold bindings
  split
  · next h => simp [h, lastFor]
  · next h =>
    by_cases hx : x ∈ g.guarded
    · -- every binding for `x` carries the declaration's guard, and there is one
      have hne : (g.guarded.filter fun a => a = x) ≠ [] := by
        simpa [List.filter_eq_nil_iff] using hx
      simp only [lastFor, List.filter_map, Function.comp_def, Option.some.injEq, hx,
        ↓reduceIte, List.getLast?_map]
      obtain ⟨a, ha⟩ := Option.isSome_iff_exists.1 (List.getLast?_isSome.2 hne)
      rw [ha]
      rfl
    · rw [if_neg hx, lastFor_eq_none_iff]
      simp only [List.map_map, Function.comp_def, List.mem_map, Option.some.injEq, not_exists,
        not_and]
      intro a ha hax
      exact hx (hax ▸ ha)

end GuardDecl

namespace Declaration

/-- The effective fallback of a declaration: its last guard without guarded actions, or the
pass-through guard. -/
def fallbackGuard (d : Declaration) : String :=
  ((d.guards.filter fun g => g.guarded = []).getLast?.map GuardDecl.guard).getD passThroughName

/-- The guard of the last guard declaration that guards `x`. -/
def lastGuarding (d : Declaration) (x : String) : Option String :=
  (d.guards.filter fun g => x ∈ g.guarded).getLast?.map GuardDecl.guard

/-- The last fallback binding of a declaration's guards is its last guard without actions. -/
theorem lastFor_flatMap_none (gs : List GuardDecl) :
    lastFor (gs.flatMap GuardDecl.bindings) none =
      (gs.filter fun g => g.guarded = []).getLast?.map GuardDecl.guard := by
  induction gs using List.reverseRecOn with
  | nil => rfl
  | append_singleton gs g ih =>
    rw [List.flatMap_append, lastFor_append, ih, List.flatMap_singleton,
      GuardDecl.lastFor_bindings_none, List.filter_append]
    by_cases h : g.guarded = [] <;> simp [h]

/-- The last binding of a declaration's guards for `x` is its last guard that guards `x`. -/
theorem lastFor_flatMap_some (gs : List GuardDecl) (x : String) :
    lastFor (gs.flatMap GuardDecl.bindings) (some x) =
      (gs.filter fun g => x ∈ g.guarded).getLast?.map GuardDecl.guard := by
  induction gs using List.reverseRecOn with
  | nil => rfl
  | append_singleton gs g ih =>
    rw [List.flatMap_append, lastFor_append, ih, List.flatMap_singleton,
      GuardDecl.lastFor_bindings_some, List.filter_append]
    by_cases h : x ∈ g.guarded <;> simp [h]

/-- **Guard resolution for a declaration**: a declared name gets the guard of the last guard
declaration that guards it, or else the effective fallback; any other name the fallback. -/
theorem guardFor_guard {d : Declaration} {o : Options} {s : Schema String}
    (h : d.build o = .ok s) (x : String) :
    (s.guardFor x).guard =
      if x ∈ d.items ++ d.globals then (d.lastGuarding x).getD d.fallbackGuard
      else d.fallbackGuard := by
  have hx : x ∈ (d.plan o).actions.map Prod.snd ↔ x ∈ d.items ++ d.globals := by
    simp [plan, List.map_append, List.map_map, Function.comp_def]
  have hfb : fallbackOf (d.plan o).bindings = d.fallbackGuard := by
    rw [fallbackOf, plan, lastFor_flatMap_none]
    rfl
  rw [Plan.guardFor_build h, hfb]
  by_cases hmem : x ∈ d.items ++ d.globals
  · rw [if_pos (hx.2 hmem), if_pos hmem, plan, lastFor_flatMap_some]
    rfl
  · rw [if_neg (fun h' => hmem (hx.1 h')), if_neg hmem]
    rfl

end Declaration

/-! ### Guard resolution, diagnostics and strictness over every build -/

/-- **Guard resolution.** Over every successful build, whatever the options: a declared name
gets the guard of its last binding, or else the effective fallback, and any other name gets the
effective fallback, so a binding to an undeclared name has no effect and an explicit binding
wins over a fallback registered after it; a binding given before its action still applies,
since bindings and actions may be given in either order; every entry of the table is labelled with the upper case of its key, the custom entry with
`__CUSTOM`; and a declaration's build resolves a declared name to its last guard declaration
that guards it, or else to its last guard declaration without actions, or else to the
pass-through guard. -/
theorem guard_resolution {γ : Type} [GuardName γ] :
    (∀ (p : Plan γ) (s : Schema γ), p.build = .ok s → ∀ x, (s.guardFor x).guard =
        if x ∈ p.actions.map Prod.snd then (lastFor p.bindings (some x)).getD (fallbackOf p.bindings)
        else fallbackOf p.bindings) ∧
    (∀ (p : Plan γ) (b : Binding γ) (n : String),
        (p.bind b).item n = (p.item n).bind b ∧ (p.bind b).global n = (p.global n).bind b) ∧
    (∀ (p : Plan γ) (s : Schema γ), p.build = .ok s →
        ∀ k e, (k, e) ∈ s.table.toList → e.label = Text.upper k) ∧
    Text.upper customKey = "__CUSTOM" ∧
    (∀ (d : Declaration) (o : Options) (s : Schema String), d.build o = .ok s → ∀ x,
        (s.guardFor x).guard =
          if x ∈ d.items ++ d.globals then (d.lastGuarding x).getD d.fallbackGuard
          else d.fallbackGuard) := by
  refine ⟨?_, fun p b n => ⟨Plan.bind_item p b n, Plan.bind_global p b n⟩, ?_, by decide +kernel,
    fun d o s h x => Declaration.guardFor_guard h x⟩
  · intro p s h x
    rw [Plan.guardFor_build h x]
    split <;> rfl
  · intro p s h k e he
    exact Plan.label_eq_upper_of_build h he

/-- A delete binding given before the fallback wins over it, and an undeclared name gets the
fallback. -/
theorem guard_resolution_delete_before_fallback :
    ({ typeName := "repositories"
       actions := [(.item, "read"), (.item, "delete")]
       bindings := [⟨some "delete", "LockGuard"⟩, ⟨none, "AuditGuard"⟩] } : Plan String).build =
      .ok ⟨"repositories", ⟨[⟨"read", "READ"⟩, ⟨"delete", "DELETE"⟩], []⟩, false, false,
        ⟨[("read", ⟨"READ", "AuditGuard"⟩), ("delete", ⟨"DELETE", "LockGuard"⟩)],
          ⟨"__CUSTOM", "AuditGuard"⟩⟩, []⟩ ∧
    (Schema.guardFor ⟨"repositories", ⟨[⟨"read", "READ"⟩, ⟨"delete", "DELETE"⟩], []⟩, false, false,
        ⟨[("read", ⟨"READ", "AuditGuard"⟩), ("delete", ⟨"DELETE", "LockGuard"⟩)],
          ⟨"__CUSTOM", "AuditGuard"⟩⟩, []⟩ "delete").guard = "LockGuard" := by
  have hb : ({ typeName := "repositories"
               actions := [(.item, "read"), (.item, "delete")]
               bindings := [⟨some "delete", "LockGuard"⟩, ⟨none, "AuditGuard"⟩] } :
      Plan String).build =
      .ok ⟨"repositories", ⟨[⟨"read", "READ"⟩, ⟨"delete", "DELETE"⟩], []⟩, false, false,
        ⟨[("read", ⟨"READ", "AuditGuard"⟩), ("delete", ⟨"DELETE", "LockGuard"⟩)],
          ⟨"__CUSTOM", "AuditGuard"⟩⟩, []⟩ := rfl
  refine ⟨hb, ?_⟩
  rw [guard_resolution.1 _ _ hb "delete"]
  decide

/-- **The diagnostics of a build.** Over every successful build: first one report for each
declaration step that repeats an earlier step of the same scope, in step order; then, in
registration order, the verdict of each binding against the bindings before it (a fallback
after a fallback names the most recent one, a binding to an undeclared name is unmatched, a
binding to a declared name bound before names its most recent binding). So the repeated steps
are counted per scope as steps less distinct names, and nothing is reported exactly when no
step repeats, no two bindings share an action and every binding names a declared action. -/
theorem diagnostics_build {γ : Type} [GuardName γ] {p : Plan γ} {s : Schema γ}
    (h : p.build = .ok s) :
    s.diagnostics =
        judged actionNote p.actions ++ judged (bindingNote (p.actions.map Prod.snd)) p.bindings ∧
    (s.diagnostics.filter Diagnostic.isDuplicateAction).length =
        ((namesIn p.actions .item).length - (namesIn p.actions .item).toFinset.card) +
          ((namesIn p.actions .global).length - (namesIn p.actions .global).toFinset.card) ∧
    (s.diagnostics = [] ↔ p.actions.Nodup ∧ (p.bindings.map Binding.action).Nodup ∧
        ∀ b ∈ p.bindings, ∀ a ∈ b.action, a ∈ p.actions.map Prod.snd) := by
  obtain ⟨c, dups, hr, -, -, hd⟩ := Plan.build_eq_ok h
  have hspec : s.diagnostics =
      judged actionNote p.actions ++ judged (bindingNote (p.actions.map Prod.snd)) p.bindings := by
    rw [hd, hr.notes, Table.notes_build, bindingNote_congr hr.mem_names_iff]
  refine ⟨hspec, ?_, ?_⟩
  · rw [hspec, List.filter_append, filter_judged_actionNote, filter_judged_bindingNote,
      List.append_nil]
    -- the reports and the distinct names of both scopes count the steps
    have hcount := length_judged_actionNote p.actions
    have hlen := length_namesIn p.actions
    have hi := List.toFinset_card_le (namesIn p.actions .item)
    have hg := List.toFinset_card_le (namesIn p.actions .global)
    omega
  · rw [hspec, List.append_eq_nil_iff, judged_actionNote_eq_nil_iff,
      judged_bindingNote_eq_nil_iff]

/-- A repeated item, a guard replaced by a later one and a guard bound to an undeclared name
give three diagnostics, one of them a repeated step. -/
theorem diagnostics_build_repeated_read :
    ({ typeName := "repositories"
       actions := [(.item, "read"), (.item, "delete"), (.item, "read")]
       bindings := [⟨some "delete", "A"⟩, ⟨some "delete", "B"⟩, ⟨some "fork", "C"⟩] } :
      Plan String).build =
      .ok ⟨"repositories", ⟨[⟨"read", "READ"⟩, ⟨"delete", "DELETE"⟩], []⟩, false, false,
        ⟨[("read", ⟨"READ", "PassThroughGuard"⟩), ("delete", ⟨"DELETE", "B"⟩)],
          ⟨"__CUSTOM", "PassThroughGuard"⟩⟩,
        [.duplicateAction .item "read", .duplicateGuard "delete" "A" "B",
          .unmatchedGuard "fork" "C"]⟩ ∧
    ([Diagnostic.duplicateAction .item "read", .duplicateGuard "delete" "A" "B",
        .unmatchedGuard "fork" "C"].filter Diagnostic.isDuplicateAction).length = 1 := by
  have hb : ({ typeName := "repositories"
               actions := [(.item, "read"), (.item, "delete"), (.item, "read")]
               bindings := [⟨some "delete", "A"⟩, ⟨some "delete", "B"⟩, ⟨some "fork", "C"⟩] } :
      Plan String).build =
      .ok ⟨"repositories", ⟨[⟨"read", "READ"⟩, ⟨"delete", "DELETE"⟩], []⟩, false, false,
        ⟨[("read", ⟨"READ", "PassThroughGuard"⟩), ("delete", ⟨"DELETE", "B"⟩)],
          ⟨"__CUSTOM", "PassThroughGuard"⟩⟩,
        [.duplicateAction .item "read", .duplicateGuard "delete" "A" "B",
          .unmatchedGuard "fork" "C"]⟩ := rfl
  refine ⟨hb, ?_⟩
  rw [(diagnostics_build hb).2.1]
  decide

namespace Plan

variable {γ : Type} [GuardName γ]

/-- A lenient build is the assembled schema. -/
theorem build_lenient (p : Plan γ) : ({ p with options := ⟨false⟩ } : Plan γ).build = p.assemble := by
  rw [build_eq_assemble, assemble_options]
  cases p.assemble with
  | error e => rfl
  | ok s => simp only [Except.bind, checkStrict_lenient, Except.map]

/-- A strict build is the assembled schema when it has no diagnostic, and otherwise the refusal
of its first diagnostic. -/
theorem build_strict (p : Plan γ) : ({ p with options := ⟨true⟩ } : Plan γ).build =
    p.assemble.bind fun s => match s.diagnostics with
      | [] => .ok s
      | d :: _ => .error (.strict d.message) := by
  rw [build_eq_assemble, assemble_options]
  cases p.assemble with
  | error e => rfl
  | ok s =>
    simp only [Except.bind]
    cases s.diagnostics with
    | nil => rfl
    | cons d ds => rw [checkStrict_strict]; rfl

end Plan

/-- **Strict and lenient builds agree.** A strict build fails with the lenient build's error;
when the lenient schema has no diagnostic the strict build returns that very schema; otherwise it
refuses with the message of the first diagnostic. So a strict build that succeeds returns what
the lenient build returns. -/
theorem strict_build_refines {γ : Type} [GuardName γ] (p : Plan γ) :
    (∀ e, ({ p with options := ⟨false⟩ } : Plan γ).build = .error e →
        ({ p with options := ⟨true⟩ } : Plan γ).build = .error e) ∧
    (∀ s, ({ p with options := ⟨false⟩ } : Plan γ).build = .ok s → s.diagnostics = [] →
        ({ p with options := ⟨true⟩ } : Plan γ).build = .ok s) ∧
    (∀ s d ds, ({ p with options := ⟨false⟩ } : Plan γ).build = .ok s → s.diagnostics = d :: ds →
        ({ p with options := ⟨true⟩ } : Plan γ).build = .error (.strict d.message)) ∧
    (∀ s, ({ p with options := ⟨true⟩ } : Plan γ).build = .ok s →
        ({ p with options := ⟨false⟩ } : Plan γ).build = .ok s) := by
  rw [Plan.build_lenient, Plan.build_strict]
  refine ⟨?_, ?_, ?_, ?_⟩
  · intro e he
    rw [he]
    rfl
  · intro s hs hd
    rw [hs]
    simp only [Except.bind, hd]
  · intro s d ds hs hd
    rw [hs]
    simp only [Except.bind, hd]
  · intro s hs
    cases ha : p.assemble with
    | error e => rw [ha] at hs; cases hs
    | ok s' =>
      rw [ha] at hs
      simp only [Except.bind] at hs
      -- a strict success is the lenient schema itself
      split at hs
      · exact hs
      · cases hs

/-- Two guards bound to one action: the lenient build keeps the second and reports it, and the
strict build refuses with that report. -/
theorem strict_build_refines_rebound_delete :
    ({ typeName := "repositories"
       actions := [(.item, "delete")]
       bindings := [⟨some "delete", "A"⟩, ⟨some "delete", "B"⟩]
       options := ⟨false⟩ } : Plan String).build =
      .ok ⟨"repositories", ⟨[⟨"delete", "DELETE"⟩], []⟩, false, false,
        ⟨[("delete", ⟨"DELETE", "B"⟩)], ⟨"__CUSTOM", "PassThroughGuard"⟩⟩,
        [.duplicateGuard "delete" "A" "B"]⟩ ∧
    ({ typeName := "repositories"
       actions := [(.item, "delete")]
       bindings := [⟨some "delete", "A"⟩, ⟨some "delete", "B"⟩]
       options := ⟨true⟩ } : Plan String).build =
      .error (.strict "guard 'B' replaces guard 'A' for action 'delete'") := by
  have hb : ({ typeName := "repositories"
               actions := [(.item, "delete")]
               bindings := [⟨some "delete", "A"⟩, ⟨some "delete", "B"⟩]
               options := ⟨false⟩ } : Plan String).build =
      .ok ⟨"repositories", ⟨[⟨"delete", "DELETE"⟩], []⟩, false, false,
        ⟨[("delete", ⟨"DELETE", "B"⟩)], ⟨"__CUSTOM", "PassThroughGuard"⟩⟩,
        [.duplicateGuard "delete" "A" "B"]⟩ := rfl
  exact ⟨hb, (strict_build_refines ({ typeName := "repositories"
                                      actions := [(.item, "delete")]
                                      bindings := [⟨some "delete", "A"⟩, ⟨some "delete", "B"⟩] } :
    Plan String)).2.2.1 _ _ [] hb rfl⟩

end Warden
