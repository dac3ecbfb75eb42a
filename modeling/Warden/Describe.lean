import Warden.Hooks
import Warden.Permission
import Warden.Text.Printable
import Warden.Text.Extend
/-!
# Descriptions of checks

A description shows what a check holds: its permission string and which of its hooks are set.
A text in a description is quoted: the quote and the backslash are escaped, tab, carriage
return, line feed and the NUL character by their letters, and every other character that is
extending or not printable as `\u{hex}` with lower-case digits and no padding, so that nothing
invisible and no mark that would join the quote goes unseen. Other characters are written as
they are.
-/

namespace Warden

/-- The lower-case hex digits of a number, without padding. -/
def hexDigits (n : Nat) : List Char :=
  (Nat.toDigits 16 n)

/-- The quoted form of one character in a description. -/
def describeChar (c : Char) : List Char :=
  if c = '"' then ['\\', '"']
  else if c = '\\' then ['\\', '\\']
  else if c = '\t' then ['\\', 't']
  else if c = '\r' then ['\\', 'r']
  else if c = '\n' then ['\\', 'n']
  else if c.toNat = 0 then ['\\', '0']
  else if Text.isExtending c || !Text.isPrintable c then
    ['\\', 'u', '\x7b'] ++ hexDigits c.toNat ++ ['\x7d']
  else [c]

/-- **A quoted text** as a description writes it. -/
def describeText (s : String) : String :=
  String.ofList ('"' :: s.toList.flatMap describeChar ++ ['"'])

/-- A flag as a description writes it. -/
def describeFlag (b : Bool) : String :=
  if b then "true" else "false"

/-- A pair of flags as a description writes it. -/
def describePair (p : Bool × Bool) : String :=
  "(" ++ describeFlag p.1 ++ ", " ++ describeFlag p.2 ++ ")"

/-- **Which hooks are set**, per form, fail-fast first. -/
structure Overrides where
  global : Bool × Bool
  id : Bool × Bool
  item : Bool × Bool
  deriving DecidableEq, Repr

/-- The hooks that a set of hooks has set. -/
def Hooks.setHooks {m : Type → Type} {α : Type} (h : Hooks m α) : Overrides :=
  ⟨h.overrides .global, h.overrides .id, h.overrides .item⟩

/-- The description of a set of hooks. -/
def Overrides.describe (o : Overrides) : String :=
  "Interceptor \x7b global: " ++ describePair o.global ++ ", id: " ++ describePair o.id ++
    ", item: " ++ describePair o.item ++ " \x7d"

/-- The description of a permission string. -/
def Permission.describe (p : Permission) : String :=
  "Permission(" ++ describeText p.text ++ ")"

/-- The description of a bound check. -/
def describeCheck (p : Permission) (o : Overrides) : String :=
  "PermissionCheck \x7b permission: " ++ p.describe ++ ", interceptor: " ++ o.describe ++ ", .. \x7d"

/-- The description of an item check before it is bound. -/
def describeItemCheck (p : Permission) (o : Overrides) : String :=
  "PermissionActionCheck \x7b prefix: " ++ p.describe ++ ", interceptor: " ++ o.describe ++
    ", .. \x7d"

/-- The description of a guard. -/
def describeGuard (name : String) : String :=
  "Guard(" ++ describeText name ++ ")"

end Warden
