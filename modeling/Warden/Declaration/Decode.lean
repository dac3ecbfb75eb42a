import Warden.Declaration
import Warden.Json.Reader
/-!
# Declarations from JSON values and texts

A declaration is read from an object or from an array.

* In an object the members `typeId`, `itemActions`, `globalActions`, `allowCustomItem`,
  `allowCustomGlobal` and `guards` give the fields; other members are ignored, a field given
  twice is refused, and `typeId` is required. A missing field takes its default; a `null` is no
  default but a value of the wrong kind.
* In an array the items give the fields in that order; a shorter array leaves the later fields
  at their defaults, a longer one is refused, and an empty one lacks the type name.

A guard is read the same way from `{guard, guardedActions}` or `[guard, guardedActions]`.
Texts must be JSON strings, flags JSON booleans and lists JSON arrays.

Reading a declarations text takes its first JSON value, reads one declaration or an array of
declarations from it, and then requires that only blank space follows. A malformed value is
reported before a value of the wrong shape, and a value of the wrong shape before text after
it.
-/

namespace Warden

namespace Json

/-- The text of a JSON string. -/
def asString? : Json → Option String
  | .str s => some s
  | _ => none

/-- The flag of a JSON boolean. -/
def asBool? : Json → Option Bool
  | .bool b => some b
  | _ => none

/-- The texts of a JSON array of strings. -/
def asStrings? : Json → Option (List String)
  | .arr xs => xs.mapM asString?
  | _ => none

/-- The items of a JSON array, each read by `f`. -/
def asList? {α : Type} (f : Json → Option α) : Json → Option (List α)
  | .arr xs => xs.mapM f
  | _ => none

end Json

/-- **Collects named fields** from object members: each member whose key is one of `names` is
stored at its place, a second member with the same key is refused, and other members are
ignored. -/
def collectFields (names : List String) :
    List (String × Json) → List (Option Json) → Option (List (Option Json))
  | [], acc => some acc
  | (k, v) :: ms, acc =>
    match names.idxOf? k with
    | none => collectFields names ms acc
    | some i =>
      match acc[i]? with
      | some (some _) => none
      | _ => collectFields names ms (acc.set i (some v))

/-- The fields of an object or of an array, in field order; none when an array is longer than
the list of fields. -/
def fieldValues (names : List String) : Json → Option (List (Option Json))
  | .obj ms => collectFields names ms (names.map fun _ => none)
  | .arr xs =>
    if names.length < xs.length then none
    else some (xs.map some ++ (names.drop xs.length).map fun _ => none)
  | _ => none

/-- Reads a field, or takes its default when it is missing. -/
def fieldOr {α : Type} (read : Json → Option α) (default : α) : Option Json → Option α
  | none => some default
  | some v => read v

/-- Reads a required field. -/
def fieldReq {α : Type} (read : Json → Option α) : Option Json → Option α
  | none => none
  | some v => read v

/-- The field names of a guard declaration, in order. -/
def guardFieldNames : List String := ["guard", "guardedActions"]

/-- **Reads a guard declaration.** -/
def GuardDecl.ofJson (j : Json) : Option GuardDecl := do
  let fs ← fieldValues guardFieldNames j
  let guard ← fieldReq Json.asString? fs[0]?.join
  let guarded ← fieldOr Json.asStrings? [] fs[1]?.join
  pure ⟨guard, guarded⟩

/-- The field names of a declaration, in order. -/
def declarationFieldNames : List String :=
  ["typeId", "itemActions", "globalActions", "allowCustomItem", "allowCustomGlobal", "guards"]

/-- **Reads a declaration.** -/
def Declaration.ofJson (j : Json) : Option Declaration := do
  let fs ← fieldValues declarationFieldNames j
  let d := Declaration.new ""
  let typeName ← fieldReq Json.asString? fs[0]?.join
  let items ← fieldOr Json.asStrings? d.items fs[1]?.join
  let globals ← fieldOr Json.asStrings? d.globals fs[2]?.join
  let customItem ← fieldOr Json.asBool? false fs[3]?.join
  let customGlobal ← fieldOr Json.asBool? false fs[4]?.join
  let guards ← fieldOr (Json.asList? GuardDecl.ofJson) [] fs[5]?.join
  pure ⟨typeName, items, globals, customItem, customGlobal, guards⟩

/-- **Reads one declaration, or else an array of declarations.** -/
def Declaration.listOfJson (j : Json) : Option (List Declaration) :=
  match Declaration.ofJson j with
  | some d => some [d]
  | none => Json.asList? Declaration.ofJson j

/-! ### Declarations from JSON text -/

/-- **Reads the declarations of a text.** -/
def Declaration.readAll (text : String) : Except Json.Failure (List Declaration) :=
  match Json.read text with
  | .error f => .error f
  | .ok (j, rest) =>
    match Declaration.listOfJson j with
    | none => .error .data
    | some ds => if Json.onlySpace rest then .ok ds else .error .malformed

end Warden
