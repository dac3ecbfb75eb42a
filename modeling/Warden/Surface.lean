import Warden.Check
import Warden.Schema
/-!
# Permission surfaces

The surface of a schema hands out checks. A global check is handed out for a declared global
action and an item check for a declared item action; any other name is an unknown action. A
custom check is handed out when custom actions of its scope are allowed and the name is an
accepted action name. A declared check is handed out without any test.

Each check gets the hooks of the guard that the schema's table gives for the action (the custom
entry's guard for a name the table does not list), asked about the action's own name, and the
permission string `type:action`.

Lint asks the guard of every catalog name, in table order, for its hooks and reports each
one-sided form.
-/

namespace Warden

/-- **A finding of lint**: an action, its guard's name and a one-sided form. -/
structure Lint where
  action : String
  guard : String
  oneSided : OneSided
  deriving DecidableEq, Repr

/-- The message of a lint finding. -/
def Lint.message (l : Lint) : String :=
  "guard '" ++ l.guard ++ "' overrides only the " ++ l.oneSided.side.name ++ " " ++
    l.oneSided.form.name ++ " hook for action '" ++ l.action ++ "'"

/-- **The surface of a schema** whose guards run in `m` on objects of type `α`. -/
structure Surface (m : Type → Type) (α : Type) where
  schema : Schema (Guard m α)

namespace Surface

variable {m : Type → Type} [Monad m] {α : Type}

/-- The name of the resource type. -/
def typeName (s : Surface m α) : String :=
  s.schema.typeName

/-- The hooks that the guard of an action installs for it. -/
def hooksFor (s : Surface m α) (action : String) : m (Hooks m α) :=
  (s.schema.guardFor action).guard.hooksFor action

/-- A global check for an action, without any test. -/
def declaredGlobal (s : Surface m α) (subject : Subject m) (action : String) : m (Check m α) := do
  let h ← s.hooksFor action
  pure ⟨Permission.of s.typeName action, subject, h, .whole⟩

/-- An item check for an action, without any test. -/
def declaredItem (s : Surface m α) (subject : Subject m) (action : String) : m (ItemCheck m α) := do
  let h ← s.hooksFor action
  pure ⟨Permission.of s.typeName action, subject, h⟩

/-- Whether an action is declared in a scope, as the surface requires. -/
def vet (s : Surface m α) (scope : Scope) (action : String) : Except SchemaError Unit :=
  if (s.schema.catalog.find? scope action).isSome then .ok ()
  else .error (.unknownAction s.typeName action)

/-- Whether a custom action of a scope may be checked. -/
def vetCustom (s : Surface m α) (scope : Scope) (action : String) : Except SchemaError Unit :=
  if s.schema.allowsCustom scope then checkName action
  else .error (.customDisabled s.typeName scope)

/-- Hands out a check once the test passed. -/
def after {β : Type} (test : Except SchemaError Unit) (give : m β) : m (Except SchemaError β) :=
  match test with
  | .error e => pure (.error e)
  | .ok () => Except.ok <$> give

/-- **A global check for a declared global action.** -/
def global (s : Surface m α) (subject : Subject m) (action : String) :
    m (Except SchemaError (Check m α)) :=
  after (s.vet .global action) (s.declaredGlobal subject action)

/-- **An item check for a declared item action.** -/
def item (s : Surface m α) (subject : Subject m) (action : String) :
    m (Except SchemaError (ItemCheck m α)) :=
  after (s.vet .item action) (s.declaredItem subject action)

/-- **A global check for a custom action.** -/
def custom (s : Surface m α) (subject : Subject m) (action : String) :
    m (Except SchemaError (Check m α)) :=
  after (s.vetCustom .global action) (s.declaredGlobal subject action)

/-- **An item check for a custom action.** -/
def customItem (s : Surface m α) (subject : Subject m) (action : String) :
    m (Except SchemaError (ItemCheck m α)) :=
  after (s.vetCustom .item action) (s.declaredItem subject action)

/-- The lint findings of one table entry. -/
def lintEntry (key : String) (e : Entry (Guard m α)) : m (List Lint) := do
  let h ← e.guard.hooksFor key
  pure (h.asymmetries.map fun o => ⟨key, e.guard.name, o⟩)

/-- **The lint findings of the catalog's actions**, in table order. -/
def lint (s : Surface m α) : m (List Lint) := do
  let found ← s.schema.table.entries.mapM fun (k, e) => lintEntry k e
  pure found.flatten

end Surface

end Warden
