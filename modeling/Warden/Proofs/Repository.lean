import Warden.Proofs.Lint
import Warden.Proofs.ItemChecks
/-!
# The protected repository

The repository schema binds the protected repository guard to `delete` and nothing else, so
every other name, declared or custom, is guarded by the pass-through guard. The protected guard
sets only the two id hooks, and both stop at the protected id: the boolean one answers no
without asking the subject, the fail-fast one refuses with the reason `repository is protected`
on the permission `repositories:<action>:mustNotBeDeleted`, which is the string the check itself
asks for. Every other id goes to the subject.

So of all the checks the repository permissions hand out, only deleting the protected repository
is decided by the guard: by id or by repository (whose permission id is its id), through `delete`
or through the custom item action `delete`, which hands out the same check. Every other check
asks the subject directly for its own permission string, and lint finds nothing, since the
protected guard sets its id hooks on both sides.

Main statement: `protected_repository_changes_one_decision`.
-/

namespace Warden

open Binding

variable {m : Type → Type} [Monad m]

/-! ### The repository schema -/

/-- The repository schema builds. -/
theorem repositoryPlan_build_ok :
    ∃ M, (repositoryPlan : Plan (Guard m Repository)).build = .ok M := by
  unfold Plan.build
  -- the type name has to be read off the plan before its checks can run on the text
  dsimp only [repositoryPlan, Plan.bind, Plan.item, Plan.global]
  exact ⟨_, rfl⟩

section Built

variable {M : Schema (Guard m Repository)} (hb : repositoryPlan.build = .ok M)
include hb

/-- **The guard of every name** of the repository schema: the protected repository guard for
`delete`, and the pass-through guard for every other name, declared or not. -/
theorem repository_guard (x : String) :
    (M.guardFor x).guard = if x = "delete" then protectedGuard else Guard.passThrough := by
  have hbind : (repositoryPlan : Plan (Guard m Repository)).bindings =
      [] ++ [⟨some "delete", protectedGuard⟩] := rfl
  have hdel : "delete" ∈ (repositoryPlan : Plan (Guard m Repository)).actions.map Prod.snd := by
    simp [repositoryPlan, Plan.bind, Plan.item, Plan.global]
  rw [Plan.guardFor_build hb, hbind]
  simp only [fallbackOf, lastFor_concat, lastFor_nil, Option.some_inj, reduceCtorEq, if_false,
    Option.getD_none]
  by_cases hx : x = "delete"
  · subst hx
    rw [if_pos hdel, if_pos rfl, if_pos rfl]
    rfl
  · rw [if_neg (Ne.symm hx), if_neg hx]
    split <;> rfl

/-- The hooks that the guard of a name installs for it: the protected hooks for `delete`, no
hooks for any other name. -/
theorem repository_hooksFor (x : String) :
    (M.guardFor x).guard.hooksFor x =
      pure (if x = "delete" then protectedHooks "delete" else Hooks.passThrough) := by
  rw [repository_guard hb]
  by_cases hx : x = "delete"
  · subst hx
    rfl
  · rw [if_neg hx, if_neg hx]
    rfl

/-- The repository permissions are the surface of the built schema. -/
theorem Repositories.make_of_build : Repositories.make = .ok (⟨⟨M⟩⟩ : Repositories m) := by
  rw [Repositories.make, hb]
  rfl

/-- Custom actions of both scopes are allowed, so a custom accessor tests the name alone. -/
theorem repository_vetCustom (sc : Scope) (a : String) :
    (⟨M⟩ : Surface m Repository).vetCustom sc a = checkName a := by
  have hi : M.customItem = true := (Plan.fields_of_build hb).2.1
  have hg : M.customGlobal = true := (Plan.fields_of_build hb).2.2
  cases sc <;> simp only [Surface.vetCustom, Schema.allowsCustom, hi, hg, if_true]

variable [LawfulMonad m]

/-- An item check of the repository surface asks for `repositories:action`, with the protected
hooks for `delete` and no hooks otherwise, and is handed out at once. -/
theorem repository_declaredItem (subj : Subject m) (x : String) :
    (⟨M⟩ : Surface m Repository).declaredItem subj x =
      pure ⟨Permission.of repositoriesType x, subj,
        if x = "delete" then protectedHooks "delete" else Hooks.passThrough⟩ := by
  rw [Surface.declaredItem_eq, Surface.typeName_of_build hb, Surface.hooksFor,
    repository_hooksFor hb, map_pure]
  rfl

/-- A global check of the repository surface asks for `repositories:action`, with the protected
hooks for `delete` and no hooks otherwise, and is handed out at once. -/
theorem repository_declaredGlobal (subj : Subject m) (x : String) :
    (⟨M⟩ : Surface m Repository).declaredGlobal subj x =
      pure ⟨Permission.of repositoriesType x, subj,
        if x = "delete" then protectedHooks "delete" else Hooks.passThrough, .whole⟩ := by
  rw [Surface.declaredGlobal_eq, Surface.typeName_of_build hb, Surface.hooksFor,
    repository_hooksFor hb, map_pure]
  rfl

/-- A custom item check for an accepted name is the declared item check of that name. -/
theorem repository_customItem (subj : Subject m) {a : String} (ha : checkName a = .ok ()) :
    (⟨M⟩ : Surface m Repository).customItem subj a =
      pure (.ok ⟨Permission.of repositoriesType a, subj,
        if a = "delete" then protectedHooks "delete" else Hooks.passThrough⟩) := by
  rw [Surface.customItem, repository_vetCustom hb, ha, Surface.after_ok,
    repository_declaredItem hb, map_pure]

/-- A custom global check for an accepted name is the declared global check of that name. -/
theorem repository_custom (subj : Subject m) {a : String} (ha : checkName a = .ok ()) :
    (⟨M⟩ : Surface m Repository).custom subj a =
      pure (.ok ⟨Permission.of repositoriesType a, subj,
        if a = "delete" then protectedHooks "delete" else Hooks.passThrough, .whole⟩) := by
  rw [Surface.custom, repository_vetCustom hb, ha, Surface.after_ok,
    repository_declaredGlobal hb, map_pure]

/-- **Lint finds nothing** in the repository schema: the protected hooks set the id form on both
sides and no other form, and every other name has no hooks. -/
theorem repository_lint : (⟨M⟩ : Surface m Repository).lint = pure [] := by
  obtain ⟨hl, hnil⟩ := Surface.lint_of_pure_hooks hb
    (fun n => if n = "delete" then protectedHooks "delete" else Hooks.passThrough)
    fun n _ => repository_hooksFor hb n
  rw [hl, hnil.2]
  intro n _ f
  by_cases hn : n = "delete"
  · rw [if_pos hn]
    cases f <;> rfl
  · rw [if_neg hn, Hooks.overrides_passThrough]

end Built

/-! ### The protected hooks -/

section Protected

variable (a : String) (subj : Subject m)

/-- The item check of an action guarded by the protected hooks. -/
def protectedCheck : ItemCheck m Repository :=
  ⟨Permission.of repositoriesType a, subj, protectedHooks a⟩

/-- The permission the protected hooks refuse is the one the check asks for at the protected
id. -/
theorem protectedCheck_denied_permission :
    ((protectedCheck a subj).forId protectedId).permission.text =
      repositoriesType ++ ":" ++ a ++ ":" ++ protectedId := rfl

/-- **The boolean answer for an id**: no at the protected id, without asking the subject, and
the subject's answer on `repositories:action:id` at every other id. -/
theorem protectedCheck_isPermitted (i : String) :
    (protectedCheck a subj).isPermitted i =
      if i = protectedId then pure false
      else subj.permits ((protectedCheck a subj).forId i).permission :=
  rfl

/-- **The fail-fast answer for an id**: refused by the guard at the protected id, naming the
check's own permission, and the subject's fail-fast answer at every other id. -/
theorem protectedCheck_check (i : String) :
    (protectedCheck a subj).check i =
      if i = protectedId then
        pure (.error (.denied ((protectedCheck a subj).forId protectedId).permission.text
          "repository is protected"))
      else subj.require ((protectedCheck a subj).forId i).permission :=
  -- the hook's text `repositories:<action>:mustNotBeDeleted` is the check's permission there
  rfl

/-- A repository is checked as its id, on the permission for its id. -/
theorem protectedCheck_item (x : Repository) :
    (protectedCheck a subj).isPermittedItem x = (protectedCheck a subj).isPermitted x.id ∧
    (protectedCheck a subj).checkItem x = (protectedCheck a subj).check x.id ∧
    ((protectedCheck a subj).forItem x).permission =
      ((protectedCheck a subj).forId x.id).permission :=
  -- the protected hooks set no item hook, so an item falls back to its permission id
  ⟨ItemCheck.isPermittedItem_of_testItem_none _ rfl x,
    ItemCheck.checkItem_of_decideItem_none _ rfl x, rfl⟩

/-- A global check guarded by the protected hooks asks the subject directly: the protected hooks
set no global hook. -/
theorem protected_global_delegates (perm : Permission) :
    (⟨perm, subj, protectedHooks a, .whole⟩ : Check m Repository).Delegates :=
  Check.delegates_of_overrides _ fun f hf => by
    simp only [Target.forms, List.mem_singleton] at hf
    subst hf
    rfl

/-- The permission of deleting, bound to an id. -/
theorem protectedCheck_delete_permission (i : String) :
    ((protectedCheck "delete" subj).forId i).permission = ⟨"repositories:delete:" ++ i⟩ := by
  show Permission.mk ((("repositories" ++ ":") ++ "delete") ++ ":" ++ i) = _
  rfl

/-- Every global check of the repository surface asks the subject directly: `delete`'s guard
sets no global hook, and no other name has hooks. -/
theorem repository_global_delegates (perm : Permission) (x : String) :
    (⟨perm, subj, if x = "delete" then protectedHooks "delete" else Hooks.passThrough, .whole⟩ :
      Check m Repository).Delegates := by
  split
  · exact protected_global_delegates "delete" subj perm
  · exact Check.delegates_of_passThrough perm subj .whole

end Protected

/-! ### One decision changed -/

/-- **The protected repository guard changes exactly one decision.** The repository permissions
build, in any monad, and lint finds nothing in them. For every subject, `delete` hands out at
once one item check, the same check as the custom item action `delete`: at the protected id
`mustNotBeDeleted` its boolean answer is no without asking the subject, and its fail-fast
answer is refused by the guard with the reason `repository is protected` on
`repositories:delete:mustNotBeDeleted`, the permission the check asks for there; at every other
id it gives the subject's answers on `repositories:delete:<id>`; and it checks a repository as
its id. Every other check asks the subject directly for its own permission string: reading,
modifying and creating, every custom global action with an accepted name (`delete` included),
and every custom item action with an accepted name other than `delete`. -/
theorem protected_repository_changes_one_decision {m : Type → Type} [Monad m] [LawfulMonad m] :
    ∃ R : Repositories m, Repositories.make = .ok R ∧ R.lint = pure [] ∧
      ∀ subj : Subject m,
        (∃ d, R.delete subj = pure d ∧ R.customItem subj "delete" = pure (.ok d) ∧
          (∀ i, d.isPermitted i =
            if i = protectedId then pure false else subj.permits ⟨"repositories:delete:" ++ i⟩) ∧
          (∀ i, d.check i =
            if i = protectedId then
              pure (.error (.denied "repositories:delete:mustNotBeDeleted"
                "repository is protected"))
            else subj.require ⟨"repositories:delete:" ++ i⟩) ∧
          (∀ x : Repository, d.isPermittedItem x = d.isPermitted x.id ∧
            d.checkItem x = d.check x.id ∧
            (d.forItem x).permission = ⟨"repositories:delete:" ++ x.id⟩) ∧
          (d.forId protectedId).permission = ⟨"repositories:delete:mustNotBeDeleted"⟩) ∧
        (∃ c, R.read subj = pure c ∧ c.subject = subj ∧ c.base = ⟨"repositories:read"⟩ ∧
          c.Delegates) ∧
        (∃ c, R.modify subj = pure c ∧ c.subject = subj ∧ c.base = ⟨"repositories:modify"⟩ ∧
          c.Delegates) ∧
        (∃ c, R.create subj = pure c ∧ c.subject = subj ∧
          c.permission = ⟨"repositories:create"⟩ ∧ c.Delegates) ∧
        (∀ a, checkName a = .ok () → ∃ c, R.custom subj a = pure (.ok c) ∧ c.subject = subj ∧
          c.permission = ⟨"repositories:" ++ a⟩ ∧ c.Delegates) ∧
        (∀ a, checkName a = .ok () → a ≠ "delete" → ∃ c,
          R.customItem subj a = pure (.ok c) ∧ c.subject = subj ∧
          c.base = ⟨"repositories:" ++ a⟩ ∧ c.Delegates) := by
  obtain ⟨M, hb⟩ := repositoryPlan_build_ok (m := m)
  refine ⟨⟨⟨M⟩⟩, Repositories.make_of_build hb, repository_lint hb, fun subj =>
    ⟨?_, ?_, ?_, ?_, fun a ha => ?_, fun a ha hd => ?_⟩⟩
  · -- deleting runs the protected hooks, by id and by repository
    have hperm := protectedCheck_delete_permission subj
    refine ⟨protectedCheck "delete" subj, repository_declaredItem hb subj "delete",
      repository_customItem hb subj rfl, fun i => ?_, fun i => ?_, fun x => ?_, hperm protectedId⟩
    · rw [protectedCheck_isPermitted, hperm]
    · rw [protectedCheck_check, hperm, hperm]
      rfl
    · obtain ⟨h1, h2, h3⟩ := protectedCheck_item "delete" subj x
      exact ⟨h1, h2, h3.trans (hperm x.id)⟩
  · exact ⟨_, repository_declaredItem hb subj "read", rfl, rfl,
      ItemCheck.delegates_of_passThrough _ _⟩
  · exact ⟨_, repository_declaredItem hb subj "modify", rfl, rfl,
      ItemCheck.delegates_of_passThrough _ _⟩
  · exact ⟨_, repository_declaredGlobal hb subj "create", rfl, rfl,
      repository_global_delegates subj _ "create"⟩
  · exact ⟨_, repository_custom hb subj ha, rfl, rfl, repository_global_delegates subj _ a⟩
  · refine ⟨_, repository_customItem hb subj ha, rfl, rfl, ?_⟩
    rw [if_neg hd]
    exact ItemCheck.delegates_of_passThrough _ _

/-- An administrator granted every repository permission is refused deleting the protected
repository and allowed deleting `1234`, while merging the protected repository, a custom item
action, is left to the grants. -/
theorem protected_repository_changes_one_decision_admin :
    ∃ R : Repositories Id, Repositories.make = .ok R ∧
      ∃ d, R.delete (⟨[⟨"repositories:*", [["repositories"], ["*"]]⟩]⟩ : Principal).subject =
          pure d ∧
        Id.run (d.isPermitted protectedId) = false ∧ Id.run (d.isPermitted "1234") = true ∧
        ∃ c, R.customItem (⟨[⟨"repositories:*", [["repositories"], ["*"]]⟩]⟩ : Principal).subject
            "merge" = pure (.ok c) ∧
          Id.run (c.isPermitted protectedId) = true := by
  obtain ⟨R, hR, -, hall⟩ := protected_repository_changes_one_decision (m := Id)
  obtain ⟨⟨d, hd, -, hperm, -⟩, -, -, -, -, hcustom⟩ :=
    hall (⟨[⟨"repositories:*", [["repositories"], ["*"]]⟩]⟩ : Principal).subject
  obtain ⟨c, hc, hs, hbase, hdel⟩ := hcustom "merge" rfl (by decide)
  refine ⟨R, hR, d, hd, by rw [hperm]; rfl, by rw [hperm]; decide, c, hc, ?_⟩
  rw [ItemCheck.isPermitted, (hdel protectedId ⟨protectedId⟩).1.2]
  simp only [ItemCheck.forId, ItemCheck.permissionFor, hs, hbase]
  decide

end Warden
