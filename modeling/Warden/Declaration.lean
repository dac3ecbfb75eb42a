import Warden.Schema
/-!
# Declarations

A declaration describes a resource type as data: its name, its item actions (by default
`read`, `modify` and `delete`), its global actions (by default `create`), the two custom flags
(off by default) and its guards. A guard with guarded actions is bound to each of them; a guard
without guarded actions is a fallback.

The plan of a declaration declares the item actions, then the global actions, then binds the
guards in order.
-/

namespace Warden

/-- **A guard as a declaration names it**, with the actions it guards. -/
structure GuardDecl where
  guard : String
  guarded : List String := []
  deriving DecidableEq, Repr

/-- The bindings of a guard declaration: one per guarded action, or the fallback. -/
def GuardDecl.bindings (g : GuardDecl) : List (Binding String) :=
  match g.guarded with
  | [] => [⟨none, g.guard⟩]
  | actions => actions.map fun a => ⟨some a, g.guard⟩

/-- **The declaration of a resource type.** -/
structure Declaration where
  typeName : String
  items : List String := ["read", "modify", "delete"]
  globals : List String := ["create"]
  customItem : Bool := false
  customGlobal : Bool := false
  guards : List GuardDecl := []
  deriving DecidableEq, Repr

namespace Declaration

/-- The declaration with the default actions and no guards. -/
def new (typeName : String) : Declaration :=
  { typeName := typeName }

/-- The plan of a declaration under build options. -/
def plan (d : Declaration) (o : Options) : Plan String where
  typeName := d.typeName
  actions := d.items.map (Scope.item, ·) ++ d.globals.map (Scope.global, ·)
  customItem := d.customItem
  customGlobal := d.customGlobal
  bindings := d.guards.flatMap GuardDecl.bindings
  options := o

/-- **Builds the schema of a declaration.** -/
def build (d : Declaration) (o : Options) : Except SchemaError (Schema String) :=
  (d.plan o).build

end Declaration

end Warden
