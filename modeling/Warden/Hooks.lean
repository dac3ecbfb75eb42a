import Warden.Principal
import Warden.Table
/-!
# Hooks and guards

A guard takes part in a check through hooks. There are two hooks for each form of check:
a fail-fast hook, which gives a verdict, and a boolean hook, which gives an answer. The global
form checks a type-wide permission, the id form a permission scoped to an id, and the item form
a permission scoped to an object.

A hook gets the subject and the default it may call: `delegate`, the subject's fail-fast answer,
or `probe`, the subject's boolean answer, on the check's permission string. A missing global or
id hook is the default itself; a missing item hook falls back to the id hook, or to its default,
with the object's permission id.

A hook that is set on one side of a form only is one-sided; such hooks are what lint reports.

A guard has a name and, for every action it is asked about, gives the hooks it installs for
that action; asking may itself have effects in the monad, such as being recorded. The
pass-through guard installs no hook and has no effect.

Main statements: `runTestItem_of_none` and `runDecideItem_of_none` (without item hooks, item
checks are id checks on the permission id).
-/

namespace Warden

/-- **The hooks of a guard for one action**, in a monad `m`, for objects of type `α`. -/
structure Hooks (m : Type → Type) (α : Type) where
  decide : Option (Subject m → m Verdict → m Verdict) := none
  test : Option (Subject m → m Bool → m Bool) := none
  decideId : Option (Subject m → String → m Verdict → m Verdict) := none
  testId : Option (Subject m → String → m Bool → m Bool) := none
  decideItem : Option (Subject m → α → m Verdict → m Verdict) := none
  testItem : Option (Subject m → α → m Bool → m Bool) := none

/-- **The form of a check**: for the whole type, for an id, or for an object. -/
inductive Form
  | global
  | id
  | item
  deriving DecidableEq, Repr

/-- The word for a form. -/
def Form.name : Form → String
  | .global => "global"
  | .id => "id"
  | .item => "item"

/-- The forms in the order lint reports them. -/
def Form.all : List Form := [.global, .id, .item]

/-- **The side of a hook**: fail-fast or boolean. -/
inductive Side
  | failFast
  | boolean
  deriving DecidableEq, Repr

/-- The words for a side. -/
def Side.name : Side → String
  | .failFast => "fail-fast"
  | .boolean => "boolean"

/-- **A one-sided form**: a form whose hook is set on one side only, and that side. -/
structure OneSided where
  form : Form
  side : Side
  deriving DecidableEq, Repr

namespace Hooks

variable {m : Type → Type} {α : Type}

/-- The hooks that change nothing. -/
def passThrough : Hooks m α := {}

/-- Which hooks of a form are set: fail-fast, then boolean. -/
def overrides (h : Hooks m α) : Form → Bool × Bool
  | .global => (h.decide.isSome, h.test.isSome)
  | .id => (h.decideId.isSome, h.testId.isSome)
  | .item => (h.decideItem.isSome, h.testItem.isSome)

/-- Whether no hook is set. -/
def isPassThrough (h : Hooks m α) : Bool :=
  Form.all.all fun f => h.overrides f == (false, false)

/-- The one-sided form of a form, if it is one. -/
def oneSided (h : Hooks m α) (f : Form) : Option OneSided :=
  match h.overrides f with
  | (true, false) => some ⟨f, .failFast⟩
  | (false, true) => some ⟨f, .boolean⟩
  | _ => none

/-- **The one-sided forms**, in the order global, id, item. -/
def asymmetries (h : Hooks m α) : List OneSided :=
  Form.all.filterMap h.oneSided

/-- The fail-fast global decision. -/
def runDecide (h : Hooks m α) (s : Subject m) (delegate : m Verdict) : m Verdict :=
  match h.decide with
  | some f => f s delegate
  | none => delegate

/-- The boolean global decision. -/
def runTest (h : Hooks m α) (s : Subject m) (probe : m Bool) : m Bool :=
  match h.test with
  | some f => f s probe
  | none => probe

/-- The fail-fast decision for an id. -/
def runDecideId (h : Hooks m α) (s : Subject m) (id : String) (delegate : m Verdict) : m Verdict :=
  match h.decideId with
  | some f => f s id delegate
  | none => delegate

/-- The boolean decision for an id. -/
def runTestId (h : Hooks m α) (s : Subject m) (id : String) (probe : m Bool) : m Bool :=
  match h.testId with
  | some f => f s id probe
  | none => probe

/-- The fail-fast decision for an object; without an item hook, the id decision on its
permission id. -/
def runDecideItem [Identified α] (h : Hooks m α) (s : Subject m) (x : α) (delegate : m Verdict) :
    m Verdict :=
  match h.decideItem with
  | some f => f s x delegate
  | none => h.runDecideId s (permissionId x) delegate

/-- The boolean decision for an object; without an item hook, the id decision on its
permission id. -/
def runTestItem [Identified α] (h : Hooks m α) (s : Subject m) (x : α) (probe : m Bool) : m Bool :=
  match h.testItem with
  | some f => f s x probe
  | none => h.runTestId s (permissionId x) probe

/-! ### Laws -/

theorem runDecideItem_of_none [Identified α] (h : Hooks m α) (hn : h.decideItem = none)
    (s : Subject m) (x : α) (d : m Verdict) :
    h.runDecideItem s x d = h.runDecideId s (permissionId x) d := by
  simp [runDecideItem, hn]

theorem runTestItem_of_none [Identified α] (h : Hooks m α) (hn : h.testItem = none)
    (s : Subject m) (x : α) (p : m Bool) :
    h.runTestItem s x p = h.runTestId s (permissionId x) p := by
  simp [runTestItem, hn]

end Hooks

/-! ### Guards -/

/-- **A guard**: its name and the hooks it installs for each action. -/
structure Guard (m : Type → Type) (α : Type) where
  name : String
  hooksFor : String → m (Hooks m α)

/-- The guard that installs no hook. -/
def Guard.passThrough {m : Type → Type} [Pure m] {α : Type} : Guard m α :=
  ⟨passThroughName, fun _ => pure Hooks.passThrough⟩

instance {m : Type → Type} [Pure m] {α : Type} : GuardName (Guard m α) where
  name := Guard.name
  passThrough := Guard.passThrough

end Warden
