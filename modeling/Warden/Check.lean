import Warden.Hooks
/-!
# Checks

A check joins a permission string, a subject and the hooks of a guard, and targets the whole
type, an id or an object. Its fail-fast form runs the fail-fast hook of its target with the
subject's fail-fast answer as the default; its boolean form runs the boolean hook with the
subject's boolean answer as the default. Both defaults ask about the check's own permission
string.

An item check is not yet bound to an id: it holds the permission of the action and binds to an
id, or to an object by its permission id, by scoping that permission.

Main statement: `forItem_permission` (binding to an object scopes to its permission id).
-/

namespace Warden

/-- **What a check is about.** -/
inductive Target (α : Type)
  | whole
  | id (id : String)
  | item (x : α)

/-- **A check**: a permission string, a subject, hooks and a target. -/
structure Check (m : Type → Type) (α : Type) where
  permission : Permission
  subject : Subject m
  hooks : Hooks m α
  target : Target α

namespace Check

variable {m : Type → Type} [Monad m] {α : Type} [Identified α]

/-- **The fail-fast answer of a check.** -/
def run (c : Check m α) : m Verdict :=
  let delegate := c.subject.require c.permission
  match c.target with
  | .whole => c.hooks.runDecide c.subject delegate
  | .id i => c.hooks.runDecideId c.subject i delegate
  | .item x => c.hooks.runDecideItem c.subject x delegate

/-- **The boolean answer of a check.** -/
def allowed (c : Check m α) : m Bool :=
  let probe := c.subject.permits c.permission
  match c.target with
  | .whole => c.hooks.runTest c.subject probe
  | .id i => c.hooks.runTestId c.subject i probe
  | .item x => c.hooks.runTestItem c.subject x probe

end Check

/-- **An item check**: the permission of an item action, a subject and hooks, to be bound to
an id or an object. -/
structure ItemCheck (m : Type → Type) (α : Type) where
  base : Permission
  subject : Subject m
  hooks : Hooks m α

namespace ItemCheck

variable {m : Type → Type} {α : Type}

/-- The permission string for an id; no id counts as the empty id. -/
def permissionFor (c : ItemCheck m α) (id : Option String) : Permission :=
  c.base.withId id

/-- Binds the check to an id. -/
def forId (c : ItemCheck m α) (id : String) : Check m α :=
  ⟨c.permissionFor (some id), c.subject, c.hooks, .id id⟩

/-- Binds the check to an object. -/
def forItem [Identified α] (c : ItemCheck m α) (x : α) : Check m α :=
  ⟨c.permissionFor (some (permissionId x)), c.subject, c.hooks, .item x⟩

/-- The permission string for an object, scoped to its permission id. -/
def itemPermission [Identified α] (c : ItemCheck m α) (x : α) : Permission :=
  c.base.withId (some (permissionId x))

theorem forItem_permission [Identified α] (c : ItemCheck m α) (x : α) :
    (c.forItem x).permission = c.base.withId (some (permissionId x)) := rfl

variable [Monad m] [Identified α]

/-- **The fail-fast answer for an id.** -/
def check (c : ItemCheck m α) (id : String) : m Verdict :=
  (c.forId id).run

/-- **The boolean answer for an id.** -/
def isPermitted (c : ItemCheck m α) (id : String) : m Bool :=
  (c.forId id).allowed

/-- The fail-fast answer for an object. -/
def checkItem (c : ItemCheck m α) (x : α) : m Verdict :=
  (c.forItem x).run

/-- The boolean answer for an object. -/
def isPermittedItem (c : ItemCheck m α) (x : α) : m Bool :=
  (c.forItem x).allowed

end ItemCheck

end Warden
