import Warden.Schema
import Warden.Json.Value
/-!
# The JSON form of a schema

A schema is written as an object with the members `typeId`, `itemActions`, `globalActions`,
`allowCustomItem`, `allowCustomGlobal` and `guardTable`, then `diagnostics` when there is at
least one. An action is `{name, constant}`; the guard table is an object from each key, in
table order with `__custom` last, to `{label, guard}`; a diagnostic is an object tagged by its
`kind`.
-/

namespace Warden

/-- The JSON form of an action. -/
def Action.toJson (a : Action) : Json :=
  .obj [("name", .str a.name), ("constant", .str a.constant)]

/-- The JSON form of a diagnostic, tagged by its kind. -/
def Diagnostic.toJson : Diagnostic → Json
  | .duplicateAction s a =>
    .obj [("kind", .str "duplicateAction"), ("scope", .str s.name), ("action", .str a)]
  | .duplicateGuard a r b =>
    .obj [("kind", .str "duplicateGuardBinding"), ("action", .str a), ("replaced", .str r),
      ("by", .str b)]
  | .duplicateFallback r b =>
    .obj [("kind", .str "duplicateFallbackGuard"), ("replaced", .str r), ("by", .str b)]
  | .unmatchedGuard a g =>
    .obj [("kind", .str "unmatchedGuardBinding"), ("action", .str a), ("guard", .str g)]

/-- The JSON form of a table entry. -/
def Entry.toJson {γ : Type} [GuardName γ] (e : Entry γ) : Json :=
  .obj [("label", .str e.label), ("guard", .str (GuardName.name e.guard))]

/-- The JSON form of a guard table: an object in table order, the custom entry last. -/
def Table.toJson {γ : Type} [GuardName γ] (t : Table γ) : Json :=
  .obj (t.toList.map fun (k, e) => (k, e.toJson))

/-- The JSON form of a catalog's two scopes. -/
def Catalog.toJsonMembers (c : Catalog) : List (String × Json) :=
  [("itemActions", .arr (c.items.map Action.toJson)),
   ("globalActions", .arr (c.globals.map Action.toJson))]

/-- **The JSON form of a schema**; the diagnostics are left out when there are none. -/
def Schema.toJson {γ : Type} [GuardName γ] (s : Schema γ) : Json :=
  .obj ([("typeId", .str s.typeName)] ++ s.catalog.toJsonMembers ++
    [("allowCustomItem", .bool s.customItem), ("allowCustomGlobal", .bool s.customGlobal),
     ("guardTable", s.table.toJson)] ++
    (if s.diagnostics.isEmpty then [] else [("diagnostics", .arr (s.diagnostics.map Diagnostic.toJson))]))

end Warden
