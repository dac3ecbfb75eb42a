import Warden.Principal
import Warden.Describe
import Warden.Json.Value
import Warden.Double.Shortest
/-!
# Principals from JSON values

A principal is read from an object whose optional member `grants` is an array of grant texts
(other members are ignored), or from an array whose single optional item is that array. The
grants are parsed in order and the first refused grant ends the reading with its message. A
value of the wrong kind ends it with a message that names what was found and what was
expected: `invalid type: <found>, expected <wanted>`. An integer is named in decimal and a
double by its shortest digits, as `Double.text` writes them. A text is quoted as descriptions
quote it.

A principal is written as the object that holds its grants' texts under `grants`.
-/

namespace Warden

/-- How a message names a number: an integer in decimal, a double by its text. -/
def Json.Number.found : Json.Number → String
  | .natural n => "integer `" ++ toString n ++ "`"
  | .negative n => "integer `-" ++ toString n ++ "`"
  | .double d => "floating point `" ++ d.text ++ "`"

/-- How a message names a JSON value that was found where another kind was expected. -/
def Json.found : Json → String
  | .null => "null"
  | .bool b => "boolean `" ++ describeFlag b ++ "`"
  | .num _ n => n.found
  | .str s => "string " ++ describeText s
  | .arr _ => "sequence"
  | .obj _ => "map"

/-- The message for a value of the wrong kind. -/
def wrongKind (j : Json) (wanted : String) : String :=
  "invalid type: " ++ j.found ++ ", expected " ++ wanted

/-- Parses grant texts in order into a principal. -/
def grantsOfJson : List Json → List Grant → Except String Principal
  | [], acc => .ok ⟨acc⟩
  | .str s :: js, acc =>
    match Grant.parse s with
    | .error e => .error e.message
    | .ok g => grantsOfJson js (acc ++ [g])
  | j :: _, _ => .error (wrongKind j "a string")

/-- Reads the `grants` value. -/
def grantListOfJson : Json → Except String Principal
  | .arr js => grantsOfJson js []
  | j => .error (wrongKind j "a sequence")

/-- **Reads a principal.** -/
def Principal.ofJson : Json → Except String Principal
  | .obj ms =>
    match (ms.find? fun m => m.1 == "grants") with
    | some (_, g) => grantListOfJson g
    | none => .ok {}
  | .arr [] => .ok {}
  | .arr [g] => grantListOfJson g
  | .arr (g :: rest) =>
    match grantListOfJson g with
    | .error e => .error e
    | .ok _ => .error ("invalid length " ++ toString (rest.length + 1) ++
      ", expected fewer elements in array")
  | j => .error (wrongKind j "struct Principal")

/-- **Writes a principal**: its grants' texts, in order, under `grants`. -/
def Principal.toJson (p : Principal) : Json :=
  .obj [("grants", Json.strs (p.grants.map Grant.raw))]

end Warden
