import Warden.Repository
import Warden.Proofs.Build
/-!
# What a surface hands out

The surface of a built schema hands out four kinds of checks. A global check is handed out for
an action the plan declared in the global scope, an item check for one it declared in the item
scope; a name declared only in the other scope is an unknown action, like any other name. A
custom check is refused first when custom actions of its scope are off, then when the name is
refused by `checkName`. No accessor has an effect before its test passes.

Every check that is handed out carries the permission `type:action` and the hooks that the guard
of the action's entry gives for the action: a declared name's own entry, whichever scope it was
declared in and whichever accessor asks, and the custom entry for any other name. Its fail-fast
and boolean answers are the hooks of its target run on the subject's own answers to the check's
permission string; an item check bound to an id or an object asks for `type:action:id`.

Main statement: `surface_routing`.
-/

namespace Warden

namespace Surface

variable {m : Type → Type} [Monad m] {α : Type}

/-! ### Accessors -/

@[simp] theorem after_error {β : Type} (e : SchemaError) (give : m β) :
    after (.error e) give = pure (.error e) := rfl

@[simp] theorem after_ok {β : Type} (give : m β) : after (.ok ()) give = Except.ok <$> give := rfl

variable [LawfulMonad m]

/-- A global check carries the permission `type:action`, the subject, and the hooks that the guard
of the action gives. -/
theorem declaredGlobal_eq (S : Surface m α) (subj : Subject m) (a : String) :
    S.declaredGlobal subj a =
      (fun h => ⟨Permission.of S.typeName a, subj, h, .whole⟩) <$> S.hooksFor a := by
  rw [declaredGlobal, bind_pure_comp]

/-- An item check carries the permission `type:action`, the subject, and the hooks that the guard
of the action gives. -/
theorem declaredItem_eq (S : Surface m α) (subj : Subject m) (a : String) :
    S.declaredItem subj a = (fun h => ⟨Permission.of S.typeName a, subj, h⟩) <$> S.hooksFor a := by
  rw [declaredItem, bind_pure_comp]

end Surface

/-! ### Surfaces of built schemas -/

namespace Plan

variable {γ : Type} [GuardName γ] {p : Plan γ} {s : Schema γ}

/-- A built schema keeps the type name and the custom flags of its plan. -/
theorem fields_of_build (h : p.build = .ok s) :
    s.typeName = p.typeName ∧ s.customItem = p.customItem ∧ s.customGlobal = p.customGlobal := by
  obtain ⟨c, dups, -, rfl⟩ := assemble_eq_ok (assemble_of_build_eq_ok h)
  exact ⟨rfl, rfl, rfl⟩

/-- A built schema finds an action in a scope exactly when the plan declared it there. -/
theorem isSome_find?_of_build (h : p.build = .ok s) (sc : Scope) (a : String) :
    (s.catalog.find? sc a).isSome ↔ (sc, a) ∈ p.actions := by
  obtain ⟨c, dups, hr, hc, -, -⟩ := build_eq_ok h
  rw [hc]
  exact hr.declared sc a

/-- **The entry a built schema routes a name to**: a declared name, of either scope, its own
table entry, and any other name the custom entry. -/
theorem guardFor_of_build (h : p.build = .ok s) (a : String) :
    (a ∈ p.actions.map Prod.snd → s.table.get? a = some (s.guardFor a)) ∧
    (a ∉ p.actions.map Prod.snd → s.guardFor a = s.table.custom) := by
  obtain ⟨c, dups, hr, -, ht, -⟩ := build_eq_ok h
  rw [Schema.guardFor, ht, Table.resolve_build, ← hr.mem_names_iff]
  refine ⟨fun ha => ?_, fun ha => ?_⟩
  · -- a catalog name is never the custom key, so `get?` finds its own entry
    have hk : a ≠ customKey := fun hk => Catalog.customKey_not_mem_names hr.reachable (hk ▸ ha)
    rw [Table.get?_build, if_neg hk, if_pos ha, if_pos ha]
  · rw [if_neg ha, Table.custom_build]

end Plan

namespace Surface

variable {m : Type → Type} [Monad m] {α : Type} {p : Plan (Guard m α)} {M : Schema (Guard m α)}

theorem typeName_of_build (h : p.build = .ok M) : (⟨M⟩ : Surface m α).typeName = p.typeName :=
  (Plan.fields_of_build h).1

/-- **A declared accessor's test**: an action the plan declared in the scope passes, and any other
name is an unknown action of the type. -/
theorem vet_of_build (h : p.build = .ok M) (sc : Scope) (a : String) :
    (⟨M⟩ : Surface m α).vet sc a =
      if (sc, a) ∈ p.actions then .ok () else .error (.unknownAction p.typeName a) := by
  have hfind := Plan.isSome_find?_of_build h sc a
  rw [vet, typeName_of_build h]
  by_cases ha : (sc, a) ∈ p.actions
  · rw [if_pos (hfind.2 ha), if_pos ha]
  · rw [if_neg (fun h' => ha (hfind.1 h')), if_neg ha]

variable [LawfulMonad m]

/-- What the global accessor of a built schema hands out. -/
theorem global_of_build (h : p.build = .ok M) (subj : Subject m) (a : String) :
    (⟨M⟩ : Surface m α).global subj a =
      after (if (.global, a) ∈ p.actions then .ok () else .error (.unknownAction p.typeName a))
        ((fun k => ⟨Permission.of p.typeName a, subj, k, .whole⟩) <$>
          (M.guardFor a).guard.hooksFor a) := by
  rw [global, vet_of_build h, declaredGlobal_eq, typeName_of_build h]
  rfl

/-- What the item accessor of a built schema hands out. -/
theorem item_of_build (h : p.build = .ok M) (subj : Subject m) (a : String) :
    (⟨M⟩ : Surface m α).item subj a =
      after (if (.item, a) ∈ p.actions then .ok () else .error (.unknownAction p.typeName a))
        ((fun k => ⟨Permission.of p.typeName a, subj, k⟩) <$> (M.guardFor a).guard.hooksFor a) := by
  rw [item, vet_of_build h, declaredItem_eq, typeName_of_build h]
  rfl

/-- What the custom accessor of a built schema hands out: the flag is tested before the name. -/
theorem custom_of_build (h : p.build = .ok M) (subj : Subject m) (a : String) :
    (⟨M⟩ : Surface m α).custom subj a =
      after (if p.customGlobal then checkName a else .error (.customDisabled p.typeName .global))
        ((fun k => ⟨Permission.of p.typeName a, subj, k, .whole⟩) <$>
          (M.guardFor a).guard.hooksFor a) := by
  obtain ⟨ht, -, hg⟩ := Plan.fields_of_build h
  rw [custom, vetCustom, declaredGlobal_eq, typeName, ht]
  simp only [Schema.allowsCustom, hg]
  rfl

/-- What the custom item accessor of a built schema hands out: the flag is tested before the
name. -/
theorem customItem_of_build (h : p.build = .ok M) (subj : Subject m) (a : String) :
    (⟨M⟩ : Surface m α).customItem subj a =
      after (if p.customItem then checkName a else .error (.customDisabled p.typeName .item))
        ((fun k => ⟨Permission.of p.typeName a, subj, k⟩) <$> (M.guardFor a).guard.hooksFor a) := by
  obtain ⟨ht, hi, -⟩ := Plan.fields_of_build h
  rw [customItem, vetCustom, declaredItem_eq, typeName, ht]
  simp only [Schema.allowsCustom, hi]
  rfl

end Surface

/-! ### Admission and routing -/

/-- **Admission and routing of a built schema's surface.** The global accessor hands out a check
for an action exactly when the plan declared it in the global scope, the item accessor exactly
when the plan declared it in the item scope, and otherwise each names the action as unknown to
the type; the custom accessors refuse first when custom actions of their scope are off, then with
the error of a refused name. Every check handed out carries the permission `type:action`, the
subject, and the hooks that the guard of the action's entry gives for the action: a declared
name's own entry, of either scope, and the custom entry for any other name. A global check runs
the global hooks on the subject's answers to `type:action`; an item check bound to an id or an
object runs the id or item hooks on the subject's answers to `type:action:id`, an object counting
by its permission id. -/
theorem surface_routing {m : Type → Type} [Monad m] [LawfulMonad m] {α : Type} [Identified α]
    {p : Plan (Guard m α)} {M : Schema (Guard m α)} (hb : p.build = .ok M)
    (subj : Subject m) (a : String) :
    let S : Surface m α := ⟨M⟩
    let perm := Permission.of p.typeName a
    let hooks := (M.guardFor a).guard.hooksFor a
    let whole := fun k => (⟨perm, subj, k, .whole⟩ : Check m α)
    let items := fun k => (⟨perm, subj, k⟩ : ItemCheck m α)
    S.global subj a = Surface.after
        (if (.global, a) ∈ p.actions then .ok () else .error (.unknownAction p.typeName a))
        (whole <$> hooks) ∧
    S.item subj a = Surface.after
        (if (.item, a) ∈ p.actions then .ok () else .error (.unknownAction p.typeName a))
        (items <$> hooks) ∧
    S.custom subj a = Surface.after
        (if p.customGlobal then checkName a else .error (.customDisabled p.typeName .global))
        (whole <$> hooks) ∧
    S.customItem subj a = Surface.after
        (if p.customItem then checkName a else .error (.customDisabled p.typeName .item))
        (items <$> hooks) ∧
    (a ∈ p.actions.map Prod.snd → M.table.get? a = some (M.guardFor a)) ∧
    (a ∉ p.actions.map Prod.snd → M.guardFor a = M.table.custom) ∧
    (∀ k, (whole k).run = k.runDecide subj (subj.require perm) ∧
      (whole k).allowed = k.runTest subj (subj.permits perm)) ∧
    (∀ k i, ((items k).forId i).permission = perm.withId (some i) ∧
      ((items k).forId i).run = k.runDecideId subj i (subj.require (perm.withId (some i))) ∧
      ((items k).forId i).allowed = k.runTestId subj i (subj.permits (perm.withId (some i)))) ∧
    (∀ k x, ((items k).forItem x).permission = perm.withId (some (permissionId x)) ∧
      ((items k).forItem x).run =
        k.runDecideItem subj x (subj.require (perm.withId (some (permissionId x)))) ∧
      ((items k).forItem x).allowed =
        k.runTestItem subj x (subj.permits (perm.withId (some (permissionId x))))) :=
  ⟨Surface.global_of_build hb subj a, Surface.item_of_build hb subj a,
    Surface.custom_of_build hb subj a, Surface.customItem_of_build hb subj a,
    (Plan.guardFor_of_build hb a).1, (Plan.guardFor_of_build hb a).2,
    fun _ => ⟨rfl, rfl⟩, fun _ _ => ⟨rfl, rfl, rfl⟩, fun _ _ => ⟨rfl, rfl, rfl⟩⟩

/-- The repository schema refuses the item accessor for `create`, a global action, and routes
`delete` to the protected repository guard. -/
theorem surface_routing_repositories :
    ∃ M, (repositoryPlan : Plan (Guard Id Repository)).build = .ok M ∧
      (⟨M⟩ : Surface Id Repository).item (Principal.subject {}) "create" =
        pure (.error (.unknownAction "repositories" "create")) ∧
      (M.guardFor "delete").guard.name = "ProtectedRepositoryGuard" := by
  refine ⟨_, rfl, ?_, rfl⟩
  rw [(surface_routing (p := repositoryPlan) rfl (Principal.subject {}) "create").2.1]
  rfl

end Warden
