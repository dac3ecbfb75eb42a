import Warden.Grant
import Warden.Permission
import Warden.Error
/-!
# Subjects and principals

A subject answers whether the caller holds a permission string; the answer may be computed in
any monad, so that a subject can also record what it was asked. Its fail-fast form passes
when the answer is yes and is refused as forbidden otherwise.

A principal is a subject given by a list of grants: it holds a permission when one of its
grants implies it.
-/

namespace Warden

/-- **Who is asking**, as the answers to permission strings in a monad `m`. -/
structure Subject (m : Type → Type) where
  permits : Permission → m Bool

/-- The fail-fast answer of a subject: passes when it holds the permission, and is refused as
forbidden otherwise. -/
def Subject.require {m : Type → Type} [Monad m] (s : Subject m) (p : Permission) : m Verdict := do
  if ← s.permits p then pure (.ok ()) else pure (.error (.forbidden p.text))

/-- **A holder of grants.** -/
structure Principal where
  grants : List Grant := []
  deriving DecidableEq, Repr

namespace Principal

/-- Whether some grant implies the permission string. -/
def permits (p : Principal) (perm : String) : Bool :=
  p.grants.any fun g => g.implies perm

/-- The fail-fast answer of a principal. -/
def require (p : Principal) (perm : String) : Verdict :=
  if p.permits perm then .ok () else .error (.forbidden perm)

/-- Parses a grant and adds it last. -/
def addGrant (p : Principal) (s : String) : Except GrantError Principal :=
  (Grant.parse s).map fun g => { p with grants := p.grants ++ [g] }

/-- Parses grants in order; the first refused grant is reported with its place. -/
def ofGrants (texts : List String) : Except (Nat × GrantError) Principal :=
  go 0 texts []
where
  go : Nat → List String → List Grant → Except (Nat × GrantError) Principal
    | _, [], acc => .ok ⟨acc⟩
    | i, t :: ts, acc =>
      match Grant.parse t with
      | .error e => .error (i, e)
      | .ok g => go (i + 1) ts (acc ++ [g])

/-- The principal as a subject that answers at once. -/
def subject (p : Principal) : Subject Id :=
  ⟨fun perm => p.permits perm.text⟩

end Principal

end Warden
