import Warden.Proofs.Delegation
/-!
# Item checks default to id checks

An item check answers for an id through the id hooks and for an object through the item hooks.
A missing item hook falls back to the id hook, or to its default, with the object's permission
id, and the permission string of an object is the item check's permission scoped to that id. So
an item check whose item hooks are unset answers for an object exactly as it answers for the
object's permission id, whatever its global and id hooks do: the two paths ask for the same
permission string, hand the same id to the id hooks and give them the same defaults.

Main statement: `item_checks_forward_to_id`.
-/

namespace Warden

namespace ItemCheck

variable {m : Type → Type} {α : Type} [Identified α]

/-- The permission string of an object is the permission for its permission id. -/
theorem itemPermission_eq_permissionFor (c : ItemCheck m α) (x : α) :
    c.itemPermission x = c.permissionFor (some (permissionId x)) := rfl

omit [Identified α] in
/-- The permission for an id is the item check's permission, the separator and the id; no id
counts as the empty id. -/
theorem permissionFor_text (c : ItemCheck m α) (id : Option String) :
    (c.permissionFor id).text = c.base.text ++ ":" ++ id.getD "" :=
  Permission.withId_text c.base id

/-- Bound to an object or to its permission id, an item check asks for the same permission. -/
theorem forItem_permission_eq_forId (c : ItemCheck m α) (x : α) :
    (c.forItem x).permission = (c.forId (permissionId x)).permission := rfl

/-- Without a fail-fast item hook, the fail-fast answer for an object is the one for its
permission id. -/
theorem checkItem_of_decideItem_none [Monad m] (c : ItemCheck m α)
    (h : c.hooks.decideItem = none) (x : α) : c.checkItem x = c.check (permissionId x) :=
  -- both run on the delegate of the same permission; the item dispatch then falls to the id hook
  Hooks.runDecideItem_of_none c.hooks h c.subject x _

/-- Without a boolean item hook, the boolean answer for an object is the one for its permission
id. -/
theorem isPermittedItem_of_testItem_none (c : ItemCheck m α) (h : c.hooks.testItem = none)
    (x : α) : c.isPermittedItem x = c.isPermitted (permissionId x) :=
  Hooks.runTestItem_of_none c.hooks h c.subject x _

end ItemCheck

/-- **Item checks default to id checks.** For every item check, whatever its permission, its
subject and its global and id hooks, in any monad: when neither item hook is set, its boolean and
fail-fast answers for an object are its answers for the object's permission id, and the
permission string of the object is the permission for that id, the item check's permission
followed by the separator and the permission id (empty for an object without an id). -/
theorem item_checks_forward_to_id {m : Type → Type} [Monad m] {α : Type} [Identified α]
    (c : ItemCheck m α) (h : c.hooks.overrides .item = (false, false)) (x : α) :
    c.isPermittedItem x = c.isPermitted (permissionId x) ∧
    c.checkItem x = c.check (permissionId x) ∧
    c.itemPermission x = c.permissionFor (some (permissionId x)) ∧
    (c.itemPermission x).text = c.base.text ++ ":" ++ permissionId x := by
  obtain ⟨hd, ht⟩ := Hooks.overrides_item_eq_iff.1 h
  exact ⟨c.isPermittedItem_of_testItem_none ht x, c.checkItem_of_decideItem_none hd x,
    c.itemPermission_eq_permissionFor x, c.permissionFor_text (some (permissionId x))⟩

/-- The protected repository guard sets only id hooks, so a principal allowed to read every
repository is still refused the protected repository as an object: its id hook vetoes the
permission id. -/
theorem item_checks_forward_to_id_protected :
    let c : ItemCheck Id Repository :=
      ⟨Permission.of repositoriesType "read",
        Principal.subject ⟨[⟨"repositories:read:*", [["repositories"], ["read"], ["*"]]⟩]⟩,
        protectedHooks "read"⟩
    (protectedHooks "read" : Hooks Id Repository).overrides .item = (false, false) ∧
      c.isPermittedItem ⟨protectedId⟩ = c.isPermitted protectedId ∧
      Id.run (c.isPermitted protectedId) = false ∧ Id.run (c.isPermitted "1234") = true := by
  intro c
  exact ⟨rfl, (item_checks_forward_to_id c rfl ⟨protectedId⟩).1, rfl, by decide⟩

end Warden
