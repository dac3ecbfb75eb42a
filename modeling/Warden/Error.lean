/-!
# Scopes, errors and diagnostics

An action is either about one object of the resource type (an item action, checked against an
id) or about the type as a whole (a global action).

`SchemaError` says why a schema could not be described or used: a bad resource type name, a
bad action name, an action that is not declared, custom actions that are not enabled, or a
strict build that met a diagnostic. `Refusal` says why a check did not pass: the subject lacks
the permission, or a guard denied it. Each has one function that writes its message.

A diagnostic records a declaration that a later one overrode or that had no effect: an action
declared twice in one scope, a guard that replaces an earlier guard of the same action, a
fallback guard that replaces an earlier fallback, and a guard bound to an action that is not
declared. A build keeps them in the order in which they arose.
-/

namespace Warden

/-! ### Action scopes -/

/-- **The scope of an action.** -/
inductive Scope
  | item
  | global
  deriving DecidableEq, Repr

/-- The lower-case word for a scope, as messages and diagnostics write it. -/
def Scope.name : Scope → String
  | .item => "item"
  | .global => "global"

/-! ### Errors -/

/-- **What is wrong with a name.** -/
inductive NameFault
  /-- The name holds the permission separator `:`. -/
  | separator
  /-- The name holds a blank character. -/
  | blank
  /-- The name is the key reserved for custom actions. -/
  | reserved
  deriving DecidableEq, Repr

/-- The reason a message gives for a fault. -/
def NameFault.reason : NameFault → String
  | .separator => "must not contain the separator ':'"
  | .blank => "must not contain whitespace"
  | .reserved => "reserved for custom actions"

/-- **Why a schema cannot be described or used.** -/
inductive SchemaError
  | emptyTypeId
  | invalidTypeId (typeName : String) (fault : NameFault)
  | emptyActionName
  | invalidActionName (name : String) (fault : NameFault)
  | unknownAction (typeName action : String)
  | customDisabled (typeName : String) (scope : Scope)
  | strict (first : String)
  deriving DecidableEq, Repr

/-- The message of a schema error. -/
def SchemaError.message : SchemaError → String
  | .emptyTypeId => "type identifier must not be empty"
  | .invalidTypeId t f => "invalid type identifier '" ++ t ++ "': " ++ f.reason
  | .emptyActionName => "action name must not be empty"
  | .invalidActionName n f => "invalid action name '" ++ n ++ "': " ++ f.reason
  | .unknownAction t a => "action '" ++ a ++ "' is not declared for type '" ++ t ++ "'"
  | .customDisabled t s =>
    "custom " ++ s.name ++ " actions are not enabled for type '" ++ t ++ "'"
  | .strict first => "strict schema validation failed: " ++ first

/-- **Why a check did not pass.** -/
inductive Refusal
  /-- The subject does not hold the permission. -/
  | forbidden (permission : String)
  /-- A guard refused, with its reason. -/
  | denied (permission reason : String)
  deriving DecidableEq, Repr

/-- The permission string that a refusal names. -/
def Refusal.permission : Refusal → String
  | .forbidden p => p
  | .denied p _ => p

/-- The message of a refusal. -/
def Refusal.message : Refusal → String
  | .forbidden p => "forbidden: missing permission '" ++ p ++ "'"
  | .denied p r => "denied by guard for '" ++ p ++ "': " ++ r

/-- The answer of a fail-fast check: it passes, or it is refused. -/
abbrev Verdict := Except Refusal Unit

/-! ### Diagnostics -/

/-- **A declaration that was overridden or had no effect.** -/
inductive Diagnostic
  | duplicateAction (scope : Scope) (action : String)
  | duplicateGuard (action replaced replacing : String)
  | duplicateFallback (replaced replacing : String)
  | unmatchedGuard (action guard : String)
  deriving DecidableEq, Repr

/-- The message of a diagnostic. -/
def Diagnostic.message : Diagnostic → String
  | .duplicateAction s a => s.name ++ " action '" ++ a ++ "' is declared more than once"
  | .duplicateGuard a r b => "guard '" ++ b ++ "' replaces guard '" ++ r ++ "' for action '" ++ a ++ "'"
  | .duplicateFallback r b => "fallback guard '" ++ b ++ "' replaces fallback guard '" ++ r ++ "'"
  | .unmatchedGuard a g => "guard '" ++ g ++ "' is bound to undeclared action '" ++ a ++ "' and is ignored"

end Warden
