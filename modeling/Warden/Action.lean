import Warden.Error
import Warden.Permission
import Warden.Text.Blank
import Warden.Text.Upper
/-!
# Actions

An action name is accepted when it is not empty, holds neither the separator `:` nor a blank
character, and is not the key `__custom` reserved for custom actions; the checks run in this
order and the first that fails gives the error. A resource type name is accepted when it is not
blank, holds no separator and no blank character.

An action carries its name and its constant, the upper case of the name.

Main statements: `checkName_eq_ok_iff` (which names are accepted) and `make_constant`.
-/

namespace Warden

/-- The table key under which custom actions are resolved; no action may take this name. -/
def customKey : String := "__custom"

/-- **Checks an action name**; the first failing rule gives the error. -/
def checkName (name : String) : Except SchemaError Unit :=
  if name.isEmpty then .error .emptyActionName
  else if separator ∈ name.toList then .error (.invalidActionName name .separator)
  else if Text.hasBlank name then .error (.invalidActionName name .blank)
  else if name = customKey then .error (.invalidActionName name .reserved)
  else .ok ()

/-- **Checks a resource type name**; the first failing rule gives the error. -/
def checkTypeName (typeName : String) : Except SchemaError Unit :=
  if Text.allBlank typeName then .error .emptyTypeId
  else if separator ∈ typeName.toList then .error (.invalidTypeId typeName .separator)
  else if Text.hasBlank typeName then .error (.invalidTypeId typeName .blank)
  else .ok ()

/-- **A declared action**: its name and the constant derived from it. -/
structure Action where
  name : String
  constant : String
  deriving DecidableEq, Repr

/-- Makes the action of an accepted name. -/
def Action.make (name : String) : Except SchemaError Action :=
  (checkName name).map fun _ => ⟨name, Text.upper name⟩

theorem checkName_eq_ok_iff (name : String) :
    checkName name = .ok () ↔
      name ≠ "" ∧ separator ∉ name.toList ∧ Text.hasBlank name = false ∧ name ≠ customKey := by
  unfold checkName
  by_cases h1 : name.isEmpty = true <;> by_cases h2 : separator ∈ name.toList <;>
    by_cases h3 : Text.hasBlank name = true <;> by_cases h4 : name = customKey <;>
    simp_all [String.isEmpty_iff]

theorem make_constant {name : String} {a : Action} (h : Action.make name = .ok a) :
    a.name = name ∧ a.constant = Text.upper name := by
  unfold Action.make at h
  cases hc : checkName name with
  | error e => simp [hc, Except.map] at h
  | ok u => simp only [hc, Except.map, Except.ok.injEq] at h; subst h; exact ⟨rfl, rfl⟩

end Warden
