import Warden.Scenario.Answer
import Warden.Repository
/-!
# Repository scenarios

A repository scenario runs accessor steps against the repository surface with a principal
given by grants; the traces record the principal's answers only, because the protected
repository guard records nothing.
-/

namespace Warden.Scenario

/-- **An accessor step of a repository scenario.** -/
inductive Access
  | read (bound : Bound)
  | modify (bound : Bound)
  | delete (bound : Bound)
  | create
  | custom (action : String)
  | customItem (action : String) (bound : Bound)
  | lint

/-- The object a repository check is bound to. -/
def repositoryOf (id? : Option String) : Repository :=
  ⟨id?.getD ""⟩

/-- **How a repository scenario ended.** -/
inductive RepositoryOutcome
  | refused (e : SchemaError)
  | grantRefused (index : Nat) (e : GrantError)
  /-- The answers of the steps; a lint step answers its messages. -/
  | ran (answers : List (Answer ⊕ List String))

/-- Runs one accessor step. -/
def runAccess (r : Repositories Traced) (p : Principal) : Access → Answer ⊕ List String
  | .read b => .inl (itemAnswer b repositoryOf (Except.ok <$> r.read (recording p)))
  | .modify b => .inl (itemAnswer b repositoryOf (Except.ok <$> r.modify (recording p)))
  | .delete b => .inl (itemAnswer b repositoryOf (Except.ok <$> r.delete (recording p)))
  | .create => .inl (globalAnswer (Except.ok <$> r.create (recording p)))
  | .custom a => .inl (globalAnswer (r.custom (recording p) a))
  | .customItem a b => .inl (itemAnswer b repositoryOf (r.customItem (recording p) a))
  | .lint => .inr ((observe r.lint).1.map Lint.message)

/-- **Runs a repository scenario.** -/
def runRepository (grants : List String) (steps : List Access) : RepositoryOutcome :=
  match (Repositories.make : Except SchemaError (Repositories Traced)) with
  | .error e => .refused e
  | .ok r =>
    match Principal.ofGrants grants with
    | .error (i, e) => .grantRefused i e
    | .ok p => .ran (steps.map (runAccess r p))

end Warden.Scenario
