import Warden.Json.Value
/-!
# Reading JSON text

The reader takes the first JSON value of a text and returns it with the rest of the text. Blank
space between tokens is the space, tab, line feed and carriage return only.

* A string may not hold a raw control character below U+0020. Its escapes are `\"`, `\\`, `\/`,
  `\b`, `\f`, `\n`, `\r`, `\t` and `\u` with four hex digits; a high surrogate must be followed
  at once by an escaped low surrogate, and a low surrogate may not come first. A `\u` with
  fewer than four bytes of text after it ends early, whatever those bytes are.
* A number keeps its text and gets its value from `readNumber`; one out of range as a double
  fails with `malformed`.
* Arrays and objects nest at most 127 deep.
* Object members are kept in order, a repeated key included.

A text that ends inside a value fails with `eof`; every other fault fails with `malformed`. When
several faults are present, the first one met from the left decides.
-/

namespace Warden.Json

/-- The blank characters between JSON tokens. -/
def isSpace (c : Char) : Bool :=
  c = ' ' || c = '\n' || c = '\t' || c = '\r'

/-- Skips blank characters. -/
def skipSpace (s : List Char) : List Char :=
  s.dropWhile isSpace

/-- The value of a hex digit. -/
def hexValue? (c : Char) : Option Nat :=
  if '0' ≤ c ∧ c ≤ '9' then some (c.toNat - 48)
  else if 'a' ≤ c ∧ c ≤ 'f' then some (c.toNat - 87)
  else if 'A' ≤ c ∧ c ≤ 'F' then some (c.toNat - 55)
  else none

/-- **Reads four hex digits.** Fewer than four bytes left end the text early; a byte among the
four that is no hex digit is malformed. -/
def hex4 (s : List Char) : Except Failure (Nat × List Char) :=
  if ((s.take 4).map Char.utf8Size).foldr (· + ·) 0 < 4 then .error .eof
  else
    match s with
    | a :: b :: c :: d :: rest =>
      match hexValue? a, hexValue? b, hexValue? c, hexValue? d with
      | some va, some vb, some vc, some vd => .ok (((va * 16 + vb) * 16 + vc) * 16 + vd, rest)
      | _, _, _, _ => .error .malformed
    | _ => .error .malformed

/-- Reads the code point of a `\u` escape after its `u`, joining a surrogate pair. -/
def unicodeEscape (s : List Char) : Except Failure (Char × List Char) := do
  let (n, rest) ← hex4 s
  if 0xDC00 ≤ n ∧ n ≤ 0xDFFF then throw .malformed
  else if 0xD800 ≤ n ∧ n ≤ 0xDBFF then
    match rest with
    | [] => throw .eof
    | '\\' :: rest =>
      match rest with
      | [] => throw .eof
      | 'u' :: rest =>
        let (n2, rest) ← hex4 rest
        if 0xDC00 ≤ n2 ∧ n2 ≤ 0xDFFF then
          pure (Char.ofNat (0x10000 + (n - 0xD800) * 0x400 + (n2 - 0xDC00)), rest)
        else throw .malformed
      | _ :: _ => throw .malformed
    | _ :: _ => throw .malformed
  else pure (Char.ofNat n, rest)

/-- The character that a one-letter escape stands for. -/
def simpleEscape? (c : Char) : Option Char :=
  if c = '"' then some '"'
  else if c = '\\' then some '\\'
  else if c = '/' then some '/'
  else if c = 'b' then some '\x08'
  else if c = 'f' then some '\x0c'
  else if c = 'n' then some '\n'
  else if c = 'r' then some '\r'
  else if c = 't' then some '\t'
  else none

/-- **Reads a string** after its opening quote; `acc` holds the characters read so far, last
first. -/
def readString (acc : List Char) : List Char → Except Failure (String × List Char)
  | [] => .error .eof
  | '"' :: rest => .ok (String.ofList acc.reverse, rest)
  | '\\' :: rest =>
    match rest with
    | [] => .error .eof
    | 'u' :: rest =>
      match unicodeEscape rest with
      | .error f => .error f
      | .ok (c, rest') =>
        if rest'.length < rest.length then readString (c :: acc) rest' else .error .malformed
    | e :: rest =>
      match simpleEscape? e with
      | some c => readString (c :: acc) rest
      | none => .error .malformed
  | c :: rest => if c.toNat < 0x20 then .error .malformed else readString (c :: acc) rest
termination_by s => s.length

/-- Reads the rest of a literal word; the text may end early. -/
def readWord : List Char → List Char → Except Failure (List Char)
  | [], s => .ok s
  | _ :: _, [] => .error .eof
  | w :: ws, c :: cs => if c = w then readWord ws cs else .error .malformed

/-- The deepest nesting the reader accepts, counted down from the top level. -/
def depthLimit : Nat := 128

mutual

/-- **Reads one value** after blank space, with `depth` levels of nesting left and `fuel` steps. -/
def readValue : Nat → Nat → List Char → Except Failure (Json × List Char)
  | 0, _, _ => .error .eof
  | fuel + 1, depth, s =>
    match skipSpace s with
    | [] => .error .eof
    | 'n' :: rest => (readWord ['u', 'l', 'l'] rest).map fun r => (.null, r)
    | 't' :: rest => (readWord ['r', 'u', 'e'] rest).map fun r => (.bool true, r)
    | 'f' :: rest => (readWord ['a', 'l', 's', 'e'] rest).map fun r => (.bool false, r)
    | '"' :: rest => (readString [] rest).map fun (t, r) => (.str t, r)
    | '-' :: rest => numberValue ('-' :: rest) true rest
    | '[' :: rest =>
      if depth ≤ 1 then .error .malformed else readItems fuel (depth - 1) true [] rest
    | '{' :: rest =>
      if depth ≤ 1 then .error .malformed else readMembers fuel (depth - 1) true [] rest
    | c :: rest =>
      if (digit? c).isSome then numberValue (c :: rest) false (c :: rest) else .error .malformed

/-- Reads the items of an array after `[` or after an item; `first` says none was read yet. -/
def readItems : Nat → Nat → Bool → List Json → List Char → Except Failure (Json × List Char)
  | 0, _, _, _, _ => .error .eof
  | fuel + 1, depth, first, acc, s =>
    match skipSpace s with
    | [] => .error .eof
    | ']' :: rest => .ok (.arr acc.reverse, rest)
    | ',' :: rest =>
      if first then .error .malformed
      else
        match skipSpace rest with
        | [] => .error .eof
        | ']' :: _ => .error .malformed
        | t =>
          match readValue fuel depth t with
          | .error f => .error f
          | .ok (v, r) => readItems fuel depth false (v :: acc) r
    | t =>
      if first then
        match readValue fuel depth t with
        | .error f => .error f
        | .ok (v, r) => readItems fuel depth false (v :: acc) r
      else .error .malformed

/-- Reads the members of an object after `{` or after a member. -/
def readMembers : Nat → Nat → Bool → List (String × Json) → List Char →
    Except Failure (Json × List Char)
  | 0, _, _, _, _ => .error .eof
  | fuel + 1, depth, first, acc, s =>
    match skipSpace s with
    | [] => .error .eof
    | '}' :: rest => .ok (.obj acc.reverse, rest)
    | ',' :: rest =>
      if first then .error .malformed else readMember fuel depth acc (skipSpace rest)
    | t => if first then readMember fuel depth acc t else .error .malformed

/-- Reads one member, its key first. -/
def readMember : Nat → Nat → List (String × Json) → List Char →
    Except Failure (Json × List Char)
  | 0, _, _, _ => .error .eof
  | fuel + 1, depth, acc, s =>
    match s with
    | [] => .error .eof
    | '"' :: rest =>
      match readString [] rest with
      | .error f => .error f
      | .ok (k, r) =>
        match skipSpace r with
        | [] => .error .eof
        | ':' :: r =>
          match readValue fuel depth r with
          | .error f => .error f
          | .ok (v, r) => readMembers fuel depth false ((k, v) :: acc) r
        | _ :: _ => .error .malformed
    | _ :: _ => .error .malformed

/-- Reads a number, keeping its text and its value. -/
def numberValue (whole : List Char) (negative : Bool) (digits : List Char) :
    Except Failure (Json × List Char) :=
  match readNumber negative digits with
  | .error f => .error f
  | .ok (n, rest) => .ok (.num (String.ofList (whole.take (whole.length - rest.length))) n, rest)

end

/-- **Reads the first value of a text** and returns it with the rest. -/
def read (s : String) : Except Failure (Json × List Char) :=
  readValue (4 * s.length + 8) depthLimit s.toList

/-- Whether only blank space is left. -/
def onlySpace (rest : List Char) : Bool :=
  (skipSpace rest).isEmpty

end Warden.Json
