import Warden.Scenario.Spec
import Warden.Describe
import Warden.Check
import Warden.Surface
/-!
# Answers of scenario steps

Running a bound check in a scenario first asks its boolean form and then its fail-fast form,
each on a fresh trace. What a step shows is kept as plain data: permission strings, answers,
verdicts, traces and which hooks were set.
-/

namespace Warden.Scenario

/-- **What running a bound check showed.** -/
structure Ran where
  permission : Permission
  allowed : Bool
  allowedTrace : List Event
  verdict : Verdict
  verdictTrace : List Event

/-- Runs a bound check: its boolean form, then its fail-fast form. -/
def runCheck {α : Type} [Identified α] (c : Check Traced α) : Ran :=
  let (a, at_) := observe c.allowed
  let (v, vt) := observe c.run
  ⟨c.permission, a, at_, v, vt⟩

/-- **What an item check was bound to.** -/
inductive Bound
  | unbound
  | toId (id : String)
  | toItem (id? : Option String)
  deriving DecidableEq, Repr

/-- **What a step showed.** -/
inductive Answer
  /-- The surface refused to hand out the check. -/
  | refused (e : SchemaError)
  /-- A global check: what it held, what running it showed and the trace of handing it out. -/
  | global (ran : Ran) (hooks : Overrides) (access : List Event)
  /-- An item check: its permission before binding, what it was bound to, what running the
  bound check showed, and the trace of handing it out. -/
  | item (base : Permission) (bound : Bound) (ran : Option Ran) (hooks : Overrides)
      (access : List Event)
  /-- Lint findings and the trace of asking the guards. -/
  | lint (found : List Lint) (trace : List Event)
  /-- The hooks of an action and the trace of asking its guard. -/
  | hooks (set : Overrides) (oneSided : List OneSided) (trace : List Event)
  /-- The entry of a name and its own entry, by guard name. -/
  | guardFor (entry : Entry String) (own : Option (Entry String))
  /-- The schema, by guard names. -/
  | schema (s : Schema String)
  /-- The grants after adding one. -/
  | grants (raws : List String)
  /-- A grant that was refused. -/
  | grantRefused (e : GrantError)

/-- A global check as a step answer. -/
def globalAnswer {α : Type} [Identified α] (x : Traced (Except SchemaError (Check Traced α))) :
    Answer :=
  match observe x with
  | (.error e, _) => .refused e
  | (.ok c, access) => .global (runCheck c) c.hooks.setHooks access

/-- An item check as a step answer, bound as asked. -/
def itemAnswer {α : Type} [Identified α] (bind : Bound) (item : Option String → α)
    (x : Traced (Except SchemaError (ItemCheck Traced α))) : Answer :=
  match observe x with
  | (.error e, _) => .refused e
  | (.ok c, access) =>
    let ran := match bind with
      | .unbound => none
      | .toId i => some (runCheck (c.forId i))
      | .toItem i => some (runCheck (c.forItem (item i)))
    .item c.base bind ran c.hooks.setHooks access

end Warden.Scenario
