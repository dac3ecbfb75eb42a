import Warden.Hooks
/-!
# Traces and rules of test guards

A trace lists what happened while a check was built and run: a guard was asked for the hooks
of an action, a hook ran with its key, or the subject was asked about a permission string and
answered. Traced computations append events in the order they happen.

A test guard is described by data: for each hook it installs, a rule. A rule has a kind and a
list of keys it singles out, where no key stands for an absent one. On the fail-fast side:

* `delegate` gives the default verdict, `allow` passes and `deny` refuses;
* `swallow` asks the default and passes whatever it said;
* `negate` asks the default and refuses what it passed and passes what it refused;
* `vetoIds` refuses a singled-out key and otherwise gives the default;
* `allowIds` passes a singled-out key and otherwise gives the default.

On the boolean side the same kinds give the default, yes, no, the default followed by yes, the
negated default, no for a singled-out key, and yes for a singled-out key. A refusal names the
action, with `:key` when there is a key, and gives `guard.hook` as the reason.
-/

namespace Warden.Scenario

/-! ### Traces -/

/-- **One event of a trace.** -/
inductive Event
  /-- A guard was asked for the hooks of an action. -/
  | intercept (guard action : String)
  /-- A hook of a guard ran for an action, with its key. -/
  | hook (guard action hook : String) (key : Option String)
  /-- The subject was asked about a permission string and answered. -/
  | subject (permission : String) (answer : Bool)
  deriving DecidableEq, Repr

/-- Computations that append to a trace. -/
abbrev Traced := StateM (List Event)

/-- Appends an event. -/
def record (e : Event) : Traced Unit :=
  modify fun es => es ++ [e]

/-- Runs a traced computation on an empty trace: its value and its events. -/
def observe {β : Type} (x : Traced β) : β × List Event :=
  x.run []

/-- The principal as a subject that records every question and its answer. -/
def recording (p : Principal) : Subject Traced :=
  ⟨fun perm => do
    let answer := p.permits perm.text
    record (.subject perm.text answer)
    pure answer⟩

/-! ### Rules -/

/-- **The six hooks by name.** -/
inductive HookName
  | decide
  | test
  | decideId
  | testId
  | decideItem
  | testItem
  deriving DecidableEq, Repr

/-- The name of a hook. -/
def HookName.name : HookName → String
  | .decide => "decide"
  | .test => "test"
  | .decideId => "decideId"
  | .testId => "testId"
  | .decideItem => "decideItem"
  | .testItem => "testItem"

/-- **What a rule does.** -/
inductive RuleKind
  | delegate
  | allow
  | deny
  | swallow
  | negate
  | vetoIds
  | allowIds
  deriving DecidableEq, Repr

/-- **A rule of a test guard**: its kind and the keys it singles out. -/
structure Rule where
  kind : RuleKind
  ids : List (Option String) := []
  deriving DecidableEq, Repr

namespace Rule

/-- Whether the rule singles out a key. -/
def singles (r : Rule) (key : Option String) : Bool :=
  r.ids.contains key

/-- **The verdict of a rule** given its refusal, the key and the default verdict. -/
def decide {m : Type → Type} [Monad m] (r : Rule) (refusal : Refusal) (key : Option String)
    (delegate : m Verdict) : m Verdict :=
  match r.kind with
  | .delegate => delegate
  | .allow => pure (.ok ())
  | .deny => pure (.error refusal)
  | .swallow => do let _ ← delegate; pure (.ok ())
  | .negate => do
    match ← delegate with
    | .ok () => pure (.error refusal)
    | .error _ => pure (.ok ())
  | .vetoIds => if r.singles key then pure (.error refusal) else delegate
  | .allowIds => if r.singles key then pure (.ok ()) else delegate

/-- **The answer of a rule** given the key and the default answer. -/
def test {m : Type → Type} [Monad m] (r : Rule) (key : Option String) (probe : m Bool) : m Bool :=
  match r.kind with
  | .delegate => probe
  | .allow => pure true
  | .deny => pure false
  | .swallow => do let _ ← probe; pure true
  | .negate => do return !(← probe)
  | .vetoIds => if r.singles key then pure false else probe
  | .allowIds => if r.singles key then pure true else probe

end Rule

/-- The refusal of a test guard's hook for an action and a key. -/
def refusalOf (guard action : String) (hook : HookName) (key : Option String) : Refusal :=
  .denied (match key with
    | some k => action ++ ":" ++ k
    | none => action) (guard ++ "." ++ hook.name)

end Warden.Scenario
