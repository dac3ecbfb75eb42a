import Warden.Catalog
import Warden.Error
/-!
# Guard tables

A guard table says which guard intercepts each action of a catalog. It is built from guard
bindings in the order they were registered:

* a binding without an action is a fallback and replaces any earlier fallback;
* a binding for a name that the catalog does not declare is dropped;
* any other binding replaces an earlier binding for the same action.

Each replaced or dropped binding is recorded as a diagnostic. The fallback is the last
fallback binding, or the pass-through guard when there is none. Every catalog name, each once
in the order of the catalog's names, gets its explicit guard or else the fallback; its label is
the upper case of the name. Last comes the custom entry `__custom` with label `__CUSTOM`,
which also gets the fallback and answers for every name the table does not list.

Main statement: `size_eq_length_keys` (the size counts the keys, the custom key included).
-/

namespace Warden

/-- **Guards that have a name and a pass-through default.** -/
class GuardName (γ : Type) where
  /-- The name of a guard, as diagnostics and messages write it. -/
  name : γ → String
  /-- The guard that changes nothing. -/
  passThrough : γ

/-- The name of the pass-through guard. -/
def passThroughName : String := "PassThroughGuard"

/-- Guards given by name alone. -/
instance : GuardName String where
  name := id
  passThrough := passThroughName

/-- **A guard binding**: for one action, or, without an action, the fallback. -/
structure Binding (γ : Type) where
  action : Option String
  guard : γ

/-- **A resolved entry**: the label of its key and its guard. -/
structure Entry (γ : Type) where
  label : String
  guard : γ

/-- **A guard table**: the entries of the catalog names in order, and the custom entry. -/
structure Table (γ : Type) where
  entries : List (String × Entry γ)
  custom : Entry γ

/-- **The state of registering bindings**: the fallback so far, the explicit guards by action in
order of first binding, and the diagnostics so far. -/
structure Routing (γ : Type) where
  fallback : Option γ := none
  explicit : List (String × γ) := []
  notes : List Diagnostic := []

namespace Routing

variable {γ : Type} [GuardName γ]

/-- Registers one binding against a catalog. -/
def register (catalog : Catalog) (r : Routing γ) (b : Binding γ) : Routing γ :=
  match b.action with
  | none =>
    let notes := match r.fallback with
      | none => r.notes
      | some old => r.notes ++ [.duplicateFallback (GuardName.name old) (GuardName.name b.guard)]
    { r with fallback := some b.guard, notes := notes }
  | some a =>
    if catalog.contains a then
      let p := Keyed.put Prod.fst (a, b.guard) r.explicit
      let notes := match p.1 with
        | none => r.notes
        | some old =>
          r.notes ++ [.duplicateGuard a (GuardName.name old.2) (GuardName.name b.guard)]
      { r with explicit := p.2, notes := notes }
    else
      { r with notes := r.notes ++ [.unmatchedGuard a (GuardName.name b.guard)] }

/-- Registers the bindings in order. -/
def registerAll (catalog : Catalog) (bindings : List (Binding γ)) : Routing γ :=
  bindings.foldl (register catalog) {}

end Routing

namespace Table

variable {γ : Type}

/-- The entry of a key, labelled with the key's upper case. -/
def entryOf (key : String) (guard : γ) : Entry γ :=
  ⟨Text.upper key, guard⟩

/-- **Builds the table of a catalog** from bindings in registration order, with the diagnostics
of the bindings. -/
def build [GuardName γ] (catalog : Catalog) (bindings : List (Binding γ)) :
    Table γ × List Diagnostic :=
  let r := Routing.registerAll catalog bindings
  let fallback := r.fallback.getD GuardName.passThrough
  let entries := (Keyed.firsts catalog.names).map fun n =>
    (n, entryOf n ((Keyed.find? Prod.fst n r.explicit).elim fallback Prod.snd))
  (⟨entries, entryOf customKey fallback⟩, r.notes)

/-- The entry listed under a key; the custom key gives the custom entry. -/
def get? (t : Table γ) (key : String) : Option (Entry γ) :=
  if key = customKey then some t.custom
  else (Keyed.find? Prod.fst key t.entries).map Prod.snd

/-- The entry that answers for a name: its own, or else the custom entry. -/
def resolve (t : Table γ) (name : String) : Entry γ :=
  ((Keyed.find? Prod.fst name t.entries).map Prod.snd).getD t.custom

/-- All entries in order, the custom entry last. -/
def toList (t : Table γ) : List (String × Entry γ) :=
  t.entries ++ [(customKey, t.custom)]

/-- The keys in order, the custom key last. -/
def keys (t : Table γ) : List String :=
  t.toList.map Prod.fst

/-- The number of entries, the custom entry included. -/
def size (t : Table γ) : Nat :=
  t.entries.length + 1

/-! ### Laws -/

theorem size_eq_length_keys (t : Table γ) : t.size = t.keys.length := by
  simp [size, keys, toList]

end Table

end Warden
