/-!
# Permission strings

A permission string names what a check asks the subject for. The global permission of an action
on a resource type is `type:action`; an item permission adds the object's id as a third part,
`type:action:id`, and an object without an id counts as the empty id.

Main statement: `withId_text` (a scoped permission is its prefix, the separator and the id).
-/

namespace Warden

/-- The separator between the parts of a permission string. -/
def separator : Char := ':'

/-- **A permission string.** -/
structure Permission where
  text : String
  deriving DecidableEq, Repr

namespace Permission

/-- The global permission of `action` on the resource type `typeName`. -/
def of (typeName action : String) : Permission :=
  ⟨typeName ++ String.singleton separator ++ action⟩

/-- The permission narrowed to one object id; no id counts as the empty id. -/
def withId (p : Permission) (id : Option String) : Permission :=
  ⟨p.text ++ String.singleton separator ++ id.getD ""⟩

theorem withId_text (p : Permission) (id : Option String) :
    (p.withId id).text = p.text ++ ":" ++ id.getD "" := rfl

end Permission

/-- **Objects that carry an optional id**, the id that item permissions are scoped to. -/
class Identified (α : Type) where
  id? : α → Option String

/-- The id an item permission uses for an object: its id, or the empty id when it has none. -/
def permissionId {α : Type} [Identified α] (x : α) : String :=
  (Identified.id? x).getD ""

end Warden
