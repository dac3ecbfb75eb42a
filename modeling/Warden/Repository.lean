import Warden.Surface
/-!
# Repositories

The repository schema is a fixed example: the resource type `repositories` with the item
actions `read`, `modify` and `delete`, the global action `create`, custom actions of both
scopes allowed, and the protected repository guard bound to `delete`.

The protected repository guard keeps one repository, `mustNotBeDeleted`, from the action it
guards: its boolean id hook says no for that id without asking the subject, and its fail-fast
id hook refuses it with the reason `repository is protected`, naming the permission
`repositories:<action>:mustNotBeDeleted`. Every other id goes to the subject.
-/

namespace Warden

/-- **A repository**, identified by its id. -/
structure Repository where
  id : String
  deriving DecidableEq, Repr

instance : Identified Repository := ⟨fun r => some r.id⟩

/-- The id of the repository that must not be deleted. -/
def protectedId : String := "mustNotBeDeleted"

/-- The name of the resource type. -/
def repositoriesType : String := "repositories"

/-- **The hooks of the protected repository guard** for an action. -/
def protectedHooks {m : Type → Type} [Monad m] (action : String) : Hooks m Repository where
  testId := some fun _ id probe => if id = protectedId then pure false else probe
  decideId := some fun _ id delegate =>
    if id = protectedId then
      pure (.error (.denied (repositoriesType ++ ":" ++ action ++ ":" ++ protectedId)
        "repository is protected"))
    else delegate

/-- **The protected repository guard.** -/
def protectedGuard {m : Type → Type} [Monad m] : Guard m Repository :=
  ⟨"ProtectedRepositoryGuard", fun action => pure (protectedHooks action)⟩

/-- The plan of the repository schema. -/
def repositoryPlan {m : Type → Type} [Monad m] : Plan (Guard m Repository) :=
  ((((({ typeName := repositoriesType, customItem := true, customGlobal := true } :
    Plan (Guard m Repository)).item "read").item "modify").item "delete").global "create").bind
    ⟨some "delete", protectedGuard⟩

/-- **The repository permissions**: the surface of the repository schema. -/
structure Repositories (m : Type → Type) where
  surface : Surface m Repository

namespace Repositories

variable {m : Type → Type} [Monad m]

/-- **Builds the repository permissions.** -/
def make : Except SchemaError (Repositories m) :=
  repositoryPlan.build.map fun s => ⟨⟨s⟩⟩

/-- The check for reading a repository. -/
def read (r : Repositories m) (subject : Subject m) : m (ItemCheck m Repository) :=
  r.surface.declaredItem subject "read"

/-- The check for modifying a repository. -/
def modify (r : Repositories m) (subject : Subject m) : m (ItemCheck m Repository) :=
  r.surface.declaredItem subject "modify"

/-- The check for deleting a repository. -/
def delete (r : Repositories m) (subject : Subject m) : m (ItemCheck m Repository) :=
  r.surface.declaredItem subject "delete"

/-- The check for creating a repository. -/
def create (r : Repositories m) (subject : Subject m) : m (Check m Repository) :=
  r.surface.declaredGlobal subject "create"

/-- The check for a custom global action. -/
def custom (r : Repositories m) (subject : Subject m) (action : String) :
    m (Except SchemaError (Check m Repository)) :=
  r.surface.custom subject action

/-- The check for a custom item action. -/
def customItem (r : Repositories m) (subject : Subject m) (action : String) :
    m (Except SchemaError (ItemCheck m Repository)) :=
  r.surface.customItem subject action

/-- The lint findings of the repository schema. -/
def lint (r : Repositories m) : m (List Lint) :=
  r.surface.lint

end Repositories

end Warden
