import Warden.Scenario.Answer
/-!
# Scenarios

A scenario builds a schema of test guards, makes its surface, and runs steps against it with a
principal whose grants may grow along the way.

Set-up declares the item actions, then the global actions, then binds the guards in order; a
guard name without a spec is a guard with no rules. The surface is made by linting it, which
asks every catalog action's guard for its hooks; that trace is the set-up trace. Then the
initial grants are parsed, the first refused grant ending the scenario.
-/

namespace Warden.Scenario

/-- **The set-up of a scenario.** -/
structure Setup where
  typeName : String
  items : List String := []
  globals : List String := []
  customItem : Bool := false
  customGlobal : Bool := false
  isStrict : Bool := false
  specs : List (String × GuardSpec) := []
  bindings : List (Option String × String) := []
  grants : List String := []

/-- **A step of a scenario.** -/
inductive Step
  | global (action : String)
  | custom (action : String)
  | declaredGlobal (action : String)
  | item (action : String) (bound : Bound)
  | customItem (action : String) (bound : Bound)
  | declaredItem (action : String) (bound : Bound)
  | lint
  | hooks (action : String)
  | guardFor (action : String)
  | schema
  | grant (text : String)

/-- **How a scenario ended.** -/
inductive Outcome
  /-- The schema could not be built. -/
  | refused (e : SchemaError)
  /-- An initial grant was refused, with its place. -/
  | grantRefused (index : Nat) (e : GrantError)
  /-- The set-up trace and the answer of every step. -/
  | ran (setupTrace : List Event) (answers : List Answer)

/-- The guard a binding names. -/
def Setup.guardNamed (s : Setup) (name : String) : Guard Traced Record :=
  ((s.specs.find? fun p => p.1 == name).map Prod.snd |>.getD {}).toGuard name

/-- The plan of a set-up. -/
def Setup.plan (s : Setup) : Plan (Guard Traced Record) where
  typeName := s.typeName
  actions := s.items.map (Scope.item, ·) ++ s.globals.map (Scope.global, ·)
  customItem := s.customItem
  customGlobal := s.customGlobal
  bindings := s.bindings.map fun (a, g) => ⟨a, s.guardNamed g⟩
  options := ⟨s.isStrict⟩

/-- The schema of a surface with its guards given by name. -/
def namedSchema (s : Schema (Guard Traced Record)) : Schema String :=
  { s with table := ⟨s.table.entries.map fun (k, e) => (k, ⟨e.label, e.guard.name⟩),
                     ⟨s.table.custom.label, s.table.custom.guard.name⟩⟩ }

/-- An entry by its guard's name. -/
def namedEntry (e : Entry (Guard Traced Record)) : Entry String :=
  ⟨e.label, e.guard.name⟩

/-- **Runs one step**: its answer and the principal after it. -/
def runStep (sf : Surface Traced Record) (p : Principal) : Step → Answer × Principal
  | .global a => (globalAnswer (sf.global (recording p) a), p)
  | .custom a => (globalAnswer (sf.custom (recording p) a), p)
  | .declaredGlobal a => (globalAnswer (Except.ok <$> sf.declaredGlobal (recording p) a), p)
  | .item a b => (itemAnswer b Record.mk (sf.item (recording p) a), p)
  | .customItem a b => (itemAnswer b Record.mk (sf.customItem (recording p) a), p)
  | .declaredItem a b => (itemAnswer b Record.mk (Except.ok <$> sf.declaredItem (recording p) a), p)
  | .lint => let (found, t) := observe sf.lint; (.lint found t, p)
  | .hooks a => let (h, t) := observe (sf.hooksFor a); (.hooks h.setHooks h.asymmetries t, p)
  | .guardFor a =>
    (.guardFor (namedEntry (sf.schema.guardFor a)) ((sf.schema.table.get? a).map namedEntry), p)
  | .schema => (.schema (namedSchema sf.schema), p)
  | .grant t =>
    match p.addGrant t with
    | .ok p' => (.grants (p'.grants.map Grant.raw), p')
    | .error e => (.grantRefused e, p)

/-- Runs steps in order. -/
def runSteps (sf : Surface Traced Record) : Principal → List Step → List Answer
  | _, [] => []
  | p, st :: sts => let (a, p') := runStep sf p st; a :: runSteps sf p' sts

/-- **Runs a scenario.** -/
def run (s : Setup) (steps : List Step) : Outcome :=
  match s.plan.build with
  | .error e => .refused e
  | .ok schema =>
    let sf : Surface Traced Record := ⟨schema⟩
    let (_, setupTrace) := observe sf.lint
    match Principal.ofGrants s.grants with
    | .error (i, e) => .grantRefused i e
    | .ok p => .ran setupTrace (runSteps sf p steps)

end Warden.Scenario
