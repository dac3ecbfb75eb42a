import Warden.Text.Blank
import Warden.Text.Fields
/-!
# Wildcard grants

A grant is a permission pattern such as `repositories:read,modify:*`. Its text is trimmed; it is
cut into parts at `:` and each part into tokens at `,`; tokens are trimmed and blank tokens
dropped. An empty grant, or one with a part that has no token left, is refused.

A grant implies a requested permission string when, cutting the request the same way but
keeping blank tokens, each requested part is covered by the grant's part at the same place
(a part holding the token `*` covers every part, any other covers the parts whose tokens it
all holds), and each grant part beyond the end of the request holds `*`. A request longer
than the grant is implied as soon as its first parts are covered: a grant for a whole type
implies the permissions of its actions and items.
-/

namespace Warden

/-- The token that covers every part. -/
def wildcard : String := "*"

/-- **A parsed grant**: its trimmed text and its parts, each a list of tokens. -/
structure Grant where
  raw : String
  parts : List (List String)
  deriving DecidableEq, Repr

/-- **Why a grant was refused.** -/
inductive GrantError
  | empty
  | emptyPart (raw : String)
  deriving DecidableEq, Repr

/-- The message of a refused grant. -/
def GrantError.message : GrantError → String
  | .empty => "wildcard permission must not be empty"
  | .emptyPart raw => "wildcard permission '" ++ raw ++ "' contains an empty part"

namespace Grant

/-- The trimmed `,`-tokens of a part, blank tokens kept. -/
def tokens (part : List Char) : List String :=
  (Text.fields ',' part).map fun t => String.ofList (Text.trimList t)

/-- The `:`-parts of a text, each as its trimmed `,`-tokens, blank tokens kept. -/
def cut (s : String) : List (List String) :=
  (Text.fields ':' s.toList).map tokens

/-- **Parses a grant.** -/
def parse (s : String) : Except GrantError Grant :=
  let raw := Text.trim s
  if raw.isEmpty then .error .empty
  else
    let parts := (cut raw).map fun ts => ts.filter fun t => !t.isEmpty
    if parts.any List.isEmpty then .error (.emptyPart raw) else .ok ⟨raw, parts⟩

/-- A grant part covers a requested part when it holds `*` or holds all its tokens. -/
def covers (granted wanted : List String) : Bool :=
  granted.contains wildcard || wanted.all granted.contains

/-- Matches grant parts against requested parts, place by place. -/
def matchParts : List (List String) → List (List String) → Bool
  | granted, [] => granted.all fun g => g.contains wildcard
  | [], _ :: _ => true
  | g :: gs, w :: ws => covers g w && matchParts gs ws

/-- **Whether a grant implies a requested permission string.** -/
def implies (g : Grant) (request : String) : Bool :=
  matchParts g.parts (cut request)

end Grant

end Warden
