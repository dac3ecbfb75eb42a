import Warden.Action
import Warden.Keyed
/-!
# Action catalogs

A catalog lists the declared actions of a resource type in two scopes. Each scope keeps its
actions in the order of first declaration; declaring a name again keeps its place, stores the
new action and hands back the old one. A name that fails `checkName` changes nothing.

The names of a catalog are the item names followed by the global names, so a name declared in
both scopes is listed twice.

Main statement: `add_eq_error_iff` (an add fails exactly when the name is refused).
-/

namespace Warden

/-- **The declared actions of a resource type**, per scope, in declaration order. -/
structure Catalog where
  items : List Action := []
  globals : List Action := []
  deriving DecidableEq, Repr

namespace Catalog

/-- The actions of one scope. -/
def inScope (c : Catalog) : Scope → List Action
  | .item => c.items
  | .global => c.globals

/-- Replaces the actions of one scope. -/
def setScope (c : Catalog) : Scope → List Action → Catalog
  | .item, xs => { c with items := xs }
  | .global, xs => { c with globals := xs }

/-- **Declares an action in a scope**: the replaced action of the same name, if any, and the
new catalog. -/
def add (c : Catalog) (scope : Scope) (name : String) :
    Except SchemaError (Option Action × Catalog) := do
  let a ← Action.make name
  let r := Keyed.put Action.name a (c.inScope scope)
  pure (r.1, c.setScope scope r.2)

/-- The action of a scope with the given name. -/
def find? (c : Catalog) (scope : Scope) (name : String) : Option Action :=
  Keyed.find? Action.name name (c.inScope scope)

/-- A name is in the catalog when it is declared in either scope. -/
def contains (c : Catalog) (name : String) : Bool :=
  (c.find? .item name).isSome || (c.find? .global name).isSome

/-- The names of the catalog: item names, then global names. -/
def names (c : Catalog) : List String :=
  c.items.map Action.name ++ c.globals.map Action.name

/-- The number of declared actions, counted per scope. -/
def size (c : Catalog) : Nat :=
  c.items.length + c.globals.length

/-- A catalog is empty when neither scope declares an action. -/
def isEmpty (c : Catalog) : Bool :=
  c.items.isEmpty && c.globals.isEmpty

/-- **Declares an action in place**, as a catalog held in a variable is changed: the answer of
`add`, and the catalog afterwards, which a refused name leaves as it was. -/
def update (c : Catalog) (scope : Scope) (name : String) :
    Except SchemaError (Option Action) × Catalog :=
  match c.add scope name with
  | .ok (old, c') => (.ok old, c')
  | .error e => (.error e, c)

/-- **Declares actions in place, one after another**: the answer of each declaration, in order,
and the catalog at the end. -/
def updates : Catalog → List (Scope × String) →
    List (Except SchemaError (Option Action)) × Catalog
  | c, [] => ([], c)
  | c, (s, n) :: rest =>
    let r := c.update s n
    let rs := updates r.2 rest
    (r.1 :: rs.1, rs.2)

/-! ### Laws -/

theorem add_eq_error_iff (c : Catalog) (scope : Scope) (name : String) (e : SchemaError) :
    c.add scope name = .error e ↔ checkName name = .error e := by
  unfold add Action.make
  cases checkName name <;> simp [Except.map, bind, Except.bind, pure, Except.pure]

end Catalog

end Warden
