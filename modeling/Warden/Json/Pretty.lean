import Warden.Json.Value
/-!
# Pretty JSON text

The pretty layout puts every array item and object member on its own line, indented by two
spaces per level of nesting, writes a member as `"key": value`, and writes an empty array or
object as `[]` or `{}`. In a string, the quote and the backslash are escaped, as are the
controls below U+0020: backspace, form feed, line feed, carriage return and tab by their
letters and the others as `\u00xx` with lower-case hex digits. Every other character, non-ASCII
included, is written as it is.
-/

namespace Warden.Json

/-- The lower-case hex digit of a number below 16. -/
def hexDigit (n : Nat) : Char :=
  if n < 10 then Char.ofNat (48 + n) else Char.ofNat (87 + n)

/-- **The escaped form of one character** inside a JSON string. -/
def escapeChar (c : Char) : List Char :=
  if c = '"' then ['\\', '"']
  else if c = '\\' then ['\\', '\\']
  else if c = '\x08' then ['\\', 'b']
  else if c = '\x0c' then ['\\', 'f']
  else if c = '\n' then ['\\', 'n']
  else if c = '\r' then ['\\', 'r']
  else if c = '\t' then ['\\', 't']
  else if c.toNat < 0x20 then ['\\', 'u', '0', '0', hexDigit (c.toNat / 16), hexDigit (c.toNat % 16)]
  else [c]

/-- A text as a quoted JSON string. -/
def quote (s : String) : String :=
  String.ofList ('"' :: s.toList.flatMap escapeChar ++ ['"'])

/-- The indentation of a nesting level. -/
def indent (level : Nat) : String :=
  String.ofList (List.replicate (2 * level) ' ')

mutual

/-- **The pretty text of a value** whose first line stands at nesting level `level`. -/
def pretty (level : Nat) : Json → String
  | .null => "null"
  | .bool true => "true"
  | .bool false => "false"
  | .num t _ => t
  | .str s => quote s
  | .arr [] => "[]"
  | .arr (x :: xs) => "[\n" ++ prettyItems (level + 1) (x :: xs) ++ "\n" ++ indent level ++ "]"
  | .obj [] => "\x7b\x7d"
  | .obj (m :: ms) =>
    "\x7b\n" ++ prettyMembers (level + 1) (m :: ms) ++ "\n" ++ indent level ++ "\x7d"

/-- The items of a non-empty array, one per line. -/
def prettyItems (level : Nat) : List Json → String
  | [] => ""
  | [x] => indent level ++ pretty level x
  | x :: xs => indent level ++ pretty level x ++ ",\n" ++ prettyItems level xs

/-- The members of a non-empty object, one per line. -/
def prettyMembers (level : Nat) : List (String × Json) → String
  | [] => ""
  | [(k, v)] => indent level ++ quote k ++ ": " ++ pretty level v
  | (k, v) :: ms => indent level ++ quote k ++ ": " ++ pretty level v ++ ",\n" ++ prettyMembers level ms

end

/-- The pretty text of a value at the top level. -/
def render (j : Json) : String :=
  pretty 0 j

example : render (.obj [("a", .arr []), ("b", .arr [.str "x\n", .bool true])]) =
    "\x7b\n  \"a\": [],\n  \"b\": [\n    \"x\\n\",\n    true\n  ]\n\x7d" := by decide +kernel

end Warden.Json
