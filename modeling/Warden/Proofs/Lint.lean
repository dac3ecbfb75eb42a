import Warden.Proofs.Surface
/-!
# What lint reports

Lint walks the entries of a schema's guard table in order, the custom entry apart, asks the
guard of each entry for its hooks for the entry's key, and reports each form of those hooks that
is set on one side only, naming the side that is set.

In a built table the entries are the distinct catalog names, each with the entry that
`guardFor` resolves it to (`entries_of_build`). So lint reports, name after name in table order,
the one-sided forms of the hooks that the name's own guard installs for it. A form is one-sided
exactly when one of its two hooks is set (`asymmetries_eq_oneSidedForms`), so lint reports
nothing exactly when, for every catalog name, each form's hooks are set on both sides or on
neither.

Main statement: `lint_reports_one_sided_forms`.
-/

namespace Warden

/-- The side that is set, of a form whose hooks are set on one side only. -/
def Side.ofSet (set : Bool × Bool) : Side :=
  if set.1 then .failFast else .boolean

theorem Form.mem_all (f : Form) : f ∈ Form.all := by
  cases f <;> simp [Form.all]

namespace Hooks

variable {m : Type → Type} {α : Type}

/-- **The one-sided forms, read off the flags**: the forms, in the order global, id, item, whose
fail-fast and boolean hooks are neither both set nor both unset, each with the side that is
set. -/
def oneSidedForms (h : Hooks m α) : List OneSided :=
  (Form.all.filter fun f => (h.overrides f).1 != (h.overrides f).2).map
    fun f => ⟨f, Side.ofSet (h.overrides f)⟩

theorem oneSided_eq (h : Hooks m α) (f : Form) :
    h.oneSided f =
      if (h.overrides f).1 != (h.overrides f).2 then some ⟨f, Side.ofSet (h.overrides f)⟩
      else none := by
  unfold oneSided
  -- the classification is a match on the two flags of the form
  rcases h.overrides f with ⟨_ | _, _ | _⟩ <;> rfl

/-- **The asymmetries of hooks are their one-sided forms.** -/
theorem asymmetries_eq_oneSidedForms (h : Hooks m α) : h.asymmetries = h.oneSidedForms := by
  rw [asymmetries, oneSidedForms, ← List.filterMap_eq_map, List.filterMap_filter]
  congr 1
  funext f
  rw [oneSided_eq]
  rfl

/-- Hooks have no one-sided form exactly when each form is set on both sides or on neither. -/
theorem oneSidedForms_eq_nil_iff (h : Hooks m α) :
    h.oneSidedForms = [] ↔ ∀ f, (h.overrides f).1 = (h.overrides f).2 := by
  simp only [oneSidedForms, List.map_eq_nil_iff, List.filter_eq_nil_iff, bne_iff_ne, ne_eq,
    Decidable.not_not]
  exact ⟨fun hf f => hf f (Form.mem_all f), fun hf f _ => hf f⟩

end Hooks

/-- **The findings of one catalog name**: each one-sided form of the hooks its guard installs,
under the name and the guard's name. -/
def Lint.findings {m : Type → Type} {α : Type} (action guard : String) (h : Hooks m α) :
    List Lint :=
  h.oneSidedForms.map fun o => ⟨action, guard, o⟩

/-! ### Built tables -/

namespace Table

variable {γ : Type} [GuardName γ]

/-- **Each entry of a built table is the entry its key resolves to.** -/
theorem entries_eq_map_resolve (c : Catalog) (bs : List (Binding γ)) :
    (build c bs).1.entries = c.names.eraseDups.map fun n => (n, (build c bs).1.resolve n) := by
  rw [entries_build, ← Keyed.firsts_eq_eraseDups]
  apply List.map_congr_left
  intro n hn
  rw [resolve_build, if_pos (Keyed.mem_firsts.1 hn)]

end Table

/-- The table of a built schema lists its distinct catalog names, each with the entry that
`guardFor` gives it. -/
theorem Plan.entries_of_build {γ : Type} [GuardName γ] {p : Plan γ} {M : Schema γ}
    (h : p.build = .ok M) :
    M.table.entries = M.catalog.names.eraseDups.map fun n => (n, M.guardFor n) := by
  obtain ⟨c, dups, -, hc, ht, -⟩ := build_eq_ok h
  unfold Schema.guardFor
  rw [ht, hc, Table.entries_eq_map_resolve]

/-- A traversal whose steps give their values at once gives the list of those values at once. -/
theorem mapM_eq_pure_of_forall_mem {m : Type → Type} [Monad m] [LawfulMonad m] {β γ : Type}
    {f : β → m γ} {g : β → γ} :
    ∀ {l : List β}, (∀ x ∈ l, f x = pure (g x)) → l.mapM f = pure (l.map g)
  | [], _ => rfl
  | x :: l, h => by
    rw [List.mapM_cons, h x List.mem_cons_self,
      mapM_eq_pure_of_forall_mem fun y hy => h y (List.mem_cons_of_mem x hy)]
    simp

namespace Surface

variable {m : Type → Type} [Monad m] [LawfulMonad m] {α : Type}

/-- The findings of one table entry are the one-sided forms of the hooks its guard installs for
its key. -/
theorem lintEntry_eq (key : String) (e : Entry (Guard m α)) :
    lintEntry key e = Lint.findings key e.guard.name <$> e.guard.hooksFor key := by
  rw [lintEntry, bind_pure_comp]
  congr 1
  funext h
  rw [Lint.findings, Hooks.asymmetries_eq_oneSidedForms]

variable {p : Plan (Guard m α)} {M : Schema (Guard m α)}

/-- **Lint of a built schema**: the findings of each distinct catalog name, in table order, for
the hooks its own guard installs for it. -/
theorem lint_of_build (hb : p.build = .ok M) :
    (⟨M⟩ : Surface m α).lint =
      List.flatten <$> M.catalog.names.eraseDups.mapM fun n =>
        Lint.findings n (M.guardFor n).guard.name <$> (M.guardFor n).guard.hooksFor n := by
  rw [lint, bind_pure_comp, Plan.entries_of_build hb, List.mapM_map]
  congr 2
  funext n
  exact lintEntry_eq n (M.guardFor n)

/-- When the guard of every catalog name gives its hooks at once, lint reports at once, and
reports nothing exactly when every catalog name's hooks are set on both sides or on neither in
each form. -/
theorem lint_of_pure_hooks (hb : p.build = .ok M) (H : String → Hooks m α)
    (hH : ∀ n ∈ M.catalog.names, (M.guardFor n).guard.hooksFor n = pure (H n)) :
    (⟨M⟩ : Surface m α).lint =
      pure (M.catalog.names.eraseDups.flatMap fun n =>
        Lint.findings n (M.guardFor n).guard.name (H n)) ∧
    ((M.catalog.names.eraseDups.flatMap fun n =>
        Lint.findings n (M.guardFor n).guard.name (H n)) = [] ↔
      ∀ n ∈ M.catalog.names, ∀ f, ((H n).overrides f).1 = ((H n).overrides f).2) := by
  refine ⟨?_, ?_⟩
  · rw [lint_of_build hb, mapM_eq_pure_of_forall_mem (g := fun n =>
      Lint.findings n (M.guardFor n).guard.name (H n)), map_pure, List.flatMap_def]
    intro n hn
    rw [hH n (List.mem_eraseDups.1 hn), map_pure]
  · simp only [List.flatMap_eq_nil_iff, List.mem_eraseDups, Lint.findings, List.map_eq_nil_iff,
      Hooks.oneSidedForms_eq_nil_iff]

end Surface

/-- **Lint reports exactly the one-sided forms of the catalog's guards.** For every schema built
from a plan, in any monad: the table lists the distinct catalog names in order and then the
custom key; lint asks the guard that `guardFor` gives each distinct catalog name, in that order,
for its hooks for the name, and reports for each form, in the order global, id, item, whose hooks
are set on one side only, one finding naming the action, the guard and the form with the side
that is set; the custom entry is never linted. When every such guard gives its hooks at once,
lint reports at once, and reports nothing exactly when every catalog name's hooks are set on both
sides or on neither in each form. -/
theorem lint_reports_one_sided_forms {m : Type → Type} [Monad m] [LawfulMonad m] {α : Type}
    {p : Plan (Guard m α)} {M : Schema (Guard m α)} (hb : p.build = .ok M) :
    M.table.keys = M.catalog.names.eraseDups ++ [customKey] ∧
    (⟨M⟩ : Surface m α).lint =
      List.flatten <$> M.catalog.names.eraseDups.mapM (fun n =>
        (fun h => ((Form.all.filter fun f => (h.overrides f).1 != (h.overrides f).2).map fun f =>
            (⟨n, (M.guardFor n).guard.name, ⟨f, Side.ofSet (h.overrides f)⟩⟩ : Lint))) <$>
          (M.guardFor n).guard.hooksFor n) ∧
    ∀ H : String → Hooks m α,
      (∀ n ∈ M.catalog.names, (M.guardFor n).guard.hooksFor n = pure (H n)) →
      ∃ found, (⟨M⟩ : Surface m α).lint = pure found ∧
        (found = [] ↔ ∀ n ∈ M.catalog.names, ∀ f, ((H n).overrides f).1 = ((H n).overrides f).2) := by
  obtain ⟨c, dups, -, hc, ht, -⟩ := Plan.build_eq_ok hb
  refine ⟨by rw [ht, hc, Table.keys_build], ?_, fun H hH => ?_⟩
  · rw [Surface.lint_of_build hb]
    congr 2
    funext n
    congr 1
    funext h
    exact List.map_map
  · obtain ⟨hl, hnil⟩ := Surface.lint_of_pure_hooks hb H hH
    exact ⟨_, hl, hnil⟩

/-- A schema of `repo` whose one global action `create` is guarded by `NoCreate`, a guard that
closes creating on the fail-fast side only. -/
def noCreatePlan : Plan (Guard Id Repository) :=
  (({ typeName := "repo" } : Plan (Guard Id Repository)).global "create").bind
    ⟨some "create", ⟨"NoCreate", fun _ =>
      pure { decide := some fun _ _ => pure (.error (.denied "repo:create" "closed")) }⟩⟩

/-- Lint reports `NoCreate` once, for its fail-fast global hook on `create`. -/
theorem lint_reports_one_sided_forms_no_create :
    ∃ M, noCreatePlan.build = .ok M ∧
      Id.run (⟨M⟩ : Surface Id Repository).lint = [⟨"create", "NoCreate", ⟨.global, .failFast⟩⟩] := by
  refine ⟨_, rfl, ?_⟩
  rw [(lint_reports_one_sided_forms (p := noCreatePlan) rfl).2.1]
  rfl

end Warden
