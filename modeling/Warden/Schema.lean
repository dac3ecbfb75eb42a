import Warden.Table
/-!
# Schemas

A schema is what a resource type's declarations amount to: its name, its catalog of actions,
whether custom item and custom global actions are allowed, its guard table and the diagnostics
of its build.

A plan lists what to declare: the type name, the actions with their scopes in declaration
order, the two custom flags, the guard bindings in registration order and the build options.
Building a plan checks the type name, declares the actions in order (the first refused name
ends the build), records a diagnostic for each action declared twice in its scope, builds the
guard table and, in a strict build, fails on the first diagnostic.

A lenient build keeps the diagnostics in the schema. The strict flag of the build options can
be read from an environment value: it is set when the value, trimmed and with its ASCII letters
lower-cased, is `1`, `true` or `yes`, so ` TRUE ` sets it too.
-/

namespace Warden

/-! ### Build options -/

/-- **How a schema is built.** -/
structure Options where
  strict : Bool := false
  deriving DecidableEq, Repr

/-- The name of the environment variable that holds the strict flag. -/
def strictVariable : String := "STATICPERM_STRICT"

/-- Reads a flag: set when the trimmed, ASCII lower-cased text is `1`, `true` or `yes`. -/
def flagOn (value : String) : Bool :=
  let v := Text.asciiLower (Text.trim value)
  v == "1" || v == "true" || v == "yes"

/-- The options that an environment value of the strict flag selects; no value is lenient. -/
def Options.ofFlag (value : Option String) : Options :=
  ⟨value.any flagOn⟩

/-- The options that an environment selects. -/
def Options.ofEnv (lookup : String → Option String) : Options :=
  Options.ofFlag (lookup strictVariable)

/-! ### Schemas and plans -/

/-- **The schema of a resource type.** -/
structure Schema (γ : Type) where
  typeName : String
  catalog : Catalog
  customItem : Bool
  customGlobal : Bool
  table : Table γ
  diagnostics : List Diagnostic

namespace Schema

variable {γ : Type}

/-- Whether custom actions of a scope are allowed. -/
def allowsCustom (s : Schema γ) : Scope → Bool
  | .item => s.customItem
  | .global => s.customGlobal

/-- The entry that answers for an action name. -/
def guardFor (s : Schema γ) (name : String) : Entry γ :=
  s.table.resolve name

end Schema

/-- **What to declare for a resource type.** -/
structure Plan (γ : Type) where
  typeName : String
  actions : List (Scope × String) := []
  customItem : Bool := false
  customGlobal : Bool := false
  bindings : List (Binding γ) := []
  options : Options := {}

namespace Plan

variable {γ : Type}

/-- Declares an item action. -/
def item (p : Plan γ) (name : String) : Plan γ :=
  { p with actions := p.actions ++ [(.item, name)] }

/-- Declares a global action. -/
def global (p : Plan γ) (name : String) : Plan γ :=
  { p with actions := p.actions ++ [(.global, name)] }

/-- Registers a guard binding. -/
def bind (p : Plan γ) (b : Binding γ) : Plan γ :=
  { p with bindings := p.bindings ++ [b] }

/-- **Declares actions in order**, with a diagnostic for each name declared again in its
scope; the first refused name ends the run. -/
def declare : List (Scope × String) → Catalog → List Diagnostic →
    Except SchemaError (Catalog × List Diagnostic)
  | [], c, ds => .ok (c, ds)
  | (s, n) :: rest, c, ds =>
    match c.add s n with
    | .error e => .error e
    | .ok (none, c') => declare rest c' ds
    | .ok (some _, c') => declare rest c' (ds ++ [.duplicateAction s n])

/-- A strict build refuses the first diagnostic. -/
def checkStrict (o : Options) : List Diagnostic → Except SchemaError Unit
  | d :: _ => if o.strict then .error (.strict d.message) else .ok ()
  | [] => .ok ()

/-- **Builds the schema of a plan.** -/
def build [GuardName γ] (p : Plan γ) : Except SchemaError (Schema γ) := do
  checkTypeName p.typeName
  let (catalog, dups) ← declare p.actions {} []
  let (table, notes) := Table.build catalog p.bindings
  let diagnostics := dups ++ notes
  checkStrict p.options diagnostics
  pure ⟨p.typeName, catalog, p.customItem, p.customGlobal, table, diagnostics⟩

end Plan

end Warden
