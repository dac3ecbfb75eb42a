import Warden.Scenario.Rule
/-!
# Test guards

A test guard is given by a spec: the rules of the hooks it installs, optionally the only actions
it installs them for, and two switches. A typed guard is named `SpecGuard`; any other is named
by its key. A pass-through spec stands for the pass-through guard, which records nothing.

Asked about an action, a test guard records the question and installs its hooks, or no hook
when the action is not among its only actions. Each hook records that it ran, with its key (no
key for the global hooks, the id for the id hooks and the object's id for the item hooks), and
then applies its rule.

The objects of test checks are records with an optional id.
-/

namespace Warden.Scenario

/-- **A test object**: a record with an optional id. -/
structure Record where
  id? : Option String := none
  deriving DecidableEq, Repr

instance : Identified Record := ⟨Record.id?⟩

/-- **The spec of a test guard.** -/
structure GuardSpec where
  rules : List (HookName × Rule) := []
  only : Option (List String) := none
  typed : Bool := false
  passThrough : Bool := false

namespace GuardSpec

/-- The rule of a hook. -/
def rule? (g : GuardSpec) (h : HookName) : Option Rule :=
  (g.rules.find? fun p => p.1 == h).map Prod.snd

/-- The fail-fast hook of a rule: records the run, then applies the rule. -/
def failFastHook (guard action : String) (h : HookName) (key : Option String) (r : Rule)
    (delegate : Traced Verdict) : Traced Verdict := do
  record (.hook guard action h.name key)
  r.decide (refusalOf guard action h key) key delegate

/-- The boolean hook of a rule: records the run, then applies the rule. -/
def booleanHook (guard action : String) (h : HookName) (key : Option String) (r : Rule)
    (probe : Traced Bool) : Traced Bool := do
  record (.hook guard action h.name key)
  r.test key probe

/-- **The hooks a spec installs** for an action under a guard name. -/
def install (g : GuardSpec) (guard action : String) : Hooks Traced Record where
  decide := (g.rule? .decide).map fun r _ d => failFastHook guard action .decide none r d
  test := (g.rule? .test).map fun r _ p => booleanHook guard action .test none r p
  decideId := (g.rule? .decideId).map fun r _ i d =>
    failFastHook guard action .decideId (some i) r d
  testId := (g.rule? .testId).map fun r _ i p => booleanHook guard action .testId (some i) r p
  decideItem := (g.rule? .decideItem).map fun r _ x d =>
    failFastHook guard action .decideItem x.id? r d
  testItem := (g.rule? .testItem).map fun r _ x p => booleanHook guard action .testItem x.id? r p

/-- The name of the guard of a spec under its key. -/
def nameFor (g : GuardSpec) (key : String) : String :=
  if g.typed then "SpecGuard" else key

/-- Whether the spec installs its hooks for an action. -/
def covers (g : GuardSpec) (action : String) : Bool :=
  match g.only with
  | none => true
  | some actions => actions.contains action

/-- **The guard of a spec** under its key. -/
def toGuard (g : GuardSpec) (key : String) : Guard Traced Record :=
  if g.passThrough then Guard.passThrough
  else
    let name := g.nameFor key
    ⟨name, fun action => do
      record (.intercept name action)
      if g.covers action then pure (g.install name action) else pure Hooks.passThrough⟩

end GuardSpec

end Warden.Scenario
