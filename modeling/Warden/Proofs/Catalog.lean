import Warden.Schema
import Warden.Proofs.Lists
/-!
# Runs of action declarations

A catalog is only ever changed by declaring one action at a time. This file says once what an
accepted declaration does (`add_eq_ok`, `find?_of_add_eq_ok`) and derives from it two
invariants:

* every name of a catalog reached from the empty one passes `checkName`, so the key
  `__custom` reserved for custom actions is never a catalog name (`customKey_not_mem_names`);
* after declaring the steps of a plan in order, the catalog holds exactly the declared
  (scope, name) pairs and the diagnostics are one `duplicateAction` for each step that repeats
  an earlier step (`records_of_declare`).

From the second come the two counts that a build's report rests on: a repeated step is reported
once per repetition (`length_judged_actionNote`), and nothing is reported exactly when no step
repeats (`judged_actionNote_eq_nil_iff`).
-/

namespace Warden

namespace Catalog

/-! ### One declaration -/

@[simp] theorem inScope_setScope_self (c : Catalog) (s : Scope) (xs : List Action) :
    (c.setScope s xs).inScope s = xs := by
  cases s <;> rfl

theorem inScope_setScope_of_ne (c : Catalog) {s s' : Scope} (h : s' ≠ s) (xs : List Action) :
    (c.setScope s xs).inScope s' = c.inScope s' := by
  cases s <;> cases s' <;> simp_all [setScope, inScope]

/-- **What an accepted declaration does**: the name passes `checkName`, the action handed back
is the one the scope had under that name, and the scope gets the new action in its place. -/
theorem add_eq_ok {c c' : Catalog} {s : Scope} {n : String} {old : Option Action}
    (h : c.add s n = .ok (old, c')) :
    checkName n = .ok () ∧ old = c.find? s n ∧
      c' = c.setScope s (Keyed.put Action.name ⟨n, Text.upper n⟩ (c.inScope s)).2 := by
  unfold add Action.make at h
  cases hc : checkName n with
  | error e => simp [hc, Except.map, bind, Except.bind] at h
  | ok u =>
    simp only [hc, Except.map, bind, Except.bind, pure, Except.pure, Except.ok.injEq,
      Prod.mk.injEq] at h
    obtain ⟨hold, hc'⟩ := h
    refine ⟨rfl, ?_, hc'.symm⟩
    rw [← hold, Keyed.put_fst]
    rfl

/-- After an accepted declaration the declared pair finds the new action and every other pair
finds what it found before. -/
theorem find?_of_add_eq_ok {c c' : Catalog} {s : Scope} {n : String} {old : Option Action}
    (h : c.add s n = .ok (old, c')) (s' : Scope) (m : String) :
    c'.find? s' m = if s' = s ∧ n = m then some ⟨n, Text.upper n⟩ else c.find? s' m := by
  obtain ⟨-, -, rfl⟩ := add_eq_ok h
  by_cases hs : s' = s
  · subst hs
    simp only [find?, inScope_setScope_self, Keyed.find?_put, true_and]
  · simp only [find?, inScope_setScope_of_ne c hs, hs, false_and, ↓reduceIte]

/-- A name of the catalog is one that some scope finds. -/
theorem mem_names_iff (c : Catalog) (m : String) :
    m ∈ c.names ↔ (c.find? .item m).isSome ∨ (c.find? .global m).isSome := by
  simp only [names, List.mem_append, find?, Keyed.isSome_find?_iff, Keyed.keys, inScope]

/-- `contains` is membership among the catalog's names. -/
theorem contains_iff_mem_names (c : Catalog) (m : String) : c.contains m = true ↔ m ∈ c.names := by
  rw [mem_names_iff, contains, Bool.or_eq_true]

/-! ### Catalogs reached by declarations -/

/-- **The catalogs that declarations produce**, one at a time from the empty catalog. A refused
declaration leaves its catalog as it was, so it needs no rule. -/
inductive Reachable : Catalog → Prop
  | empty : Reachable {}
  | add {c c' : Catalog} {s : Scope} {n : String} {old : Option Action} :
      Reachable c → c.add s n = .ok (old, c') → Reachable c'

/-- A declaration adds at most its own name to the names of a catalog. -/
theorem mem_names_of_add_eq_ok {c c' : Catalog} {s : Scope} {n : String} {old : Option Action}
    (h : c.add s n = .ok (old, c')) {m : String} (hm : m ∈ c'.names) : m ∈ c.names ∨ m = n := by
  rw [mem_names_iff, find?_of_add_eq_ok h, find?_of_add_eq_ok h] at hm
  by_cases hnm : n = m
  · exact Or.inr hnm.symm
  · left
    simpa [mem_names_iff, hnm] using hm

/-- **Every name of a reachable catalog passes `checkName`.** -/
theorem checkName_of_mem_names {c : Catalog} (hc : c.Reachable) {m : String} (hm : m ∈ c.names) :
    checkName m = .ok () := by
  induction hc with
  | empty => simp [names] at hm
  | add _ hadd ih =>
    rcases mem_names_of_add_eq_ok hadd hm with hold | rfl
    · exact ih hold
    · exact (add_eq_ok hadd).1

/-- The reserved key of custom actions is never the name of a reachable catalog's action. -/
theorem customKey_not_mem_names {c : Catalog} (hc : c.Reachable) : customKey ∉ c.names := by
  intro hm
  have hok := (checkName_eq_ok_iff customKey).1 (checkName_of_mem_names hc hm)
  exact hok.2.2.2 rfl

end Catalog

/-! ### Declaring the steps of a plan -/

/-- **The diagnostic of a declaration step** given the steps before it: a step that repeats an
earlier one, scope and name alike, is reported. -/
def actionNote (earlier : List (Scope × String)) (step : Scope × String) : Option Diagnostic :=
  if step ∈ earlier then some (.duplicateAction step.1 step.2) else none

/-- **What declaring the steps `seen` in order leaves**: the catalog finds exactly the declared
pairs, the diagnostics report each repeated step, and the catalog is reachable. -/
structure Records (seen : List (Scope × String)) (c : Catalog) (ds : List Diagnostic) : Prop where
  declared : ∀ s m, (c.find? s m).isSome ↔ (s, m) ∈ seen
  notes : ds = judged actionNote seen
  reachable : c.Reachable

namespace Records

theorem empty : Records [] {} [] :=
  ⟨fun s m => by cases s <;> simp [Catalog.find?, Catalog.inScope, Keyed.find?], rfl, .empty⟩

/-- The names of the catalog are the declared names. -/
theorem mem_names_iff {seen : List (Scope × String)} {c : Catalog} {ds : List Diagnostic}
    (hr : Records seen c ds) (m : String) : m ∈ c.names ↔ m ∈ seen.map Prod.snd := by
  rw [Catalog.mem_names_iff, hr.declared, hr.declared]
  constructor
  · rintro (h | h) <;> exact List.mem_map.2 ⟨_, h, rfl⟩
  · rintro hm
    obtain ⟨⟨s, m'⟩, hmem, rfl⟩ := List.mem_map.1 hm
    cases s
    · exact Or.inl hmem
    · exact Or.inr hmem

/-- **One accepted declaration** extends the record by its step; the handed-back action, which
is there exactly when the step repeats, adds the step's diagnostic. -/
theorem add {seen : List (Scope × String)} {c c' : Catalog} {ds : List Diagnostic} {s : Scope}
    {n : String} {old : Option Action} (hr : Records seen c ds) (h : c.add s n = .ok (old, c')) :
    Records (seen ++ [(s, n)]) c' (ds ++ (old.map fun _ => Diagnostic.duplicateAction s n).toList) := by
  obtain ⟨-, hold, -⟩ := Catalog.add_eq_ok h
  refine ⟨?_, ?_, .add hr.reachable h⟩
  · intro s' m
    rw [Catalog.find?_of_add_eq_ok h]
    by_cases hsm : s' = s ∧ n = m
    · obtain ⟨rfl, rfl⟩ := hsm
      simp
    · rw [if_neg hsm, hr.declared]
      simp only [List.mem_append, List.mem_singleton, Prod.mk.injEq]
      constructor
      · exact Or.inl
      · rintro (h' | ⟨rfl, rfl⟩)
        · exact h'
        · exact absurd ⟨rfl, rfl⟩ hsm
  · rw [judged_concat, hr.notes]
    congr 1
    -- the step is reported exactly when the catalog already had it
    have hiff : old.isSome ↔ (s, n) ∈ seen := by rw [hold]; exact hr.declared s n
    cases old with
    | none =>
      have hnot : (s, n) ∉ seen := fun hm => by simpa using hiff.2 hm
      simp [actionNote, hnot]
    | some a =>
      have hin : (s, n) ∈ seen := hiff.1 rfl
      simp [actionNote, hin]

end Records

/-- **The run of declarations**: declaring the steps in order from a recorded state reaches the
record of all the steps. -/
theorem Records.declare {acts seen : List (Scope × String)} {c c' : Catalog}
    {ds ds' : List Diagnostic} (hr : Records seen c ds)
    (h : Plan.declare acts c ds = .ok (c', ds')) : Records (seen ++ acts) c' ds' := by
  induction acts generalizing seen c ds with
  | nil =>
    simp only [Plan.declare, Except.ok.injEq, Prod.mk.injEq] at h
    obtain ⟨rfl, rfl⟩ := h
    simpa using hr
  | cons step rest ih =>
    obtain ⟨s, n⟩ := step
    have hstep : seen ++ (s, n) :: rest = seen ++ [(s, n)] ++ rest := by simp
    rw [hstep]
    unfold Plan.declare at h
    cases hadd : c.add s n with
    | error e => rw [hadd] at h; cases h
    | ok r =>
      obtain ⟨old, c₁⟩ := r
      have hr₁ := hr.add hadd
      rw [hadd] at h
      -- both branches of the run continue from the extended record
      cases old <;> exact ih (by simpa using hr₁) h

/-- Declaring the steps of a plan from the empty catalog records exactly those steps. -/
theorem records_of_declare {acts : List (Scope × String)} {c : Catalog} {ds : List Diagnostic}
    (h : Plan.declare acts {} [] = .ok (c, ds)) : Records acts c ds := by
  simpa using Records.empty.declare h

/-! ### Counting repeated steps -/

/-- The names declared in one scope, in step order. -/
def namesIn (acts : List (Scope × String)) (s : Scope) : List String :=
  (acts.filter fun a => a.1 = s).map Prod.snd

theorem mem_namesIn {acts : List (Scope × String)} {s : Scope} {n : String} :
    n ∈ namesIn acts s ↔ (s, n) ∈ acts := by
  simp [namesIn, and_comm]

/-- **Each repetition is reported once**: the reports and the distinct names of the two
scopes together count the steps. -/
theorem length_judged_actionNote (acts : List (Scope × String)) :
    (judged actionNote acts).length + (namesIn acts .item).toFinset.card +
      (namesIn acts .global).toFinset.card = acts.length := by
  induction acts using List.reverseRecOn with
  | nil => simp [namesIn]
  | append_singleton acts step ih =>
    obtain ⟨s, n⟩ := step
    have hnames : ∀ s', namesIn (acts ++ [(s, n)]) s' =
        namesIn acts s' ++ if s = s' then [n] else [] := by
      intro s'
      by_cases h : s = s' <;> simp [namesIn, h]
    rw [judged_concat, hnames, hnames, List.length_append, List.length_append]
    by_cases hin : (s, n) ∈ acts
    · -- a repetition adds a report and no new name
      have hn : n ∈ namesIn acts s := mem_namesIn.2 hin
      cases s <;> simp [actionNote, hin, List.toFinset_append, Finset.insert_eq_of_mem,
        List.mem_toFinset.2 hn] <;> omega
    · -- a first declaration adds a new name and no report
      have hn : n ∉ namesIn acts s := fun h => hin (mem_namesIn.1 h)
      cases s <;> simp [actionNote, hin, List.toFinset_append, Finset.card_insert_of_notMem,
        List.mem_toFinset, hn] <;> omega

/-- The steps are the item steps and the global steps. -/
theorem length_namesIn (acts : List (Scope × String)) :
    (namesIn acts .item).length + (namesIn acts .global).length = acts.length := by
  induction acts with
  | nil => rfl
  | cons step rest ih =>
    obtain ⟨s, n⟩ := step
    cases s <;> simp [namesIn] at ih ⊢ <;> omega

/-- Whether a diagnostic reports a repeated declaration step. -/
def Diagnostic.isDuplicateAction : Diagnostic → Bool
  | .duplicateAction _ _ => true
  | _ => false

/-- Every report of the declaration steps is a repeated step. -/
theorem filter_judged_actionNote (acts : List (Scope × String)) :
    (judged actionNote acts).filter Diagnostic.isDuplicateAction = judged actionNote acts := by
  rw [List.filter_eq_self]
  intro d hd
  obtain ⟨pre, step, hs⟩ := exists_of_mem_judged hd
  unfold actionNote at hs
  split at hs
  · cases hs
    rfl
  · cases hs

/-- Nothing is reported exactly when no step repeats. -/
theorem judged_actionNote_eq_nil_iff (acts : List (Scope × String)) :
    judged actionNote acts = [] ↔ acts.Nodup := by
  induction acts using List.reverseRecOn with
  | nil => simp
  | append_singleton acts step ih =>
    have hnote : (actionNote acts step).toList = [] ↔ step ∉ acts := by
      by_cases hin : step ∈ acts <;> simp [actionNote, hin]
    rw [judged_concat, List.append_eq_nil_iff, ih, hnote, ← List.concat_eq_append,
      List.nodup_concat, and_comm]

end Warden
