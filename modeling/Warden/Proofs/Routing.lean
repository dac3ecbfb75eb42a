import Warden.Table
import Warden.Proofs.Catalog
/-!
# Registering guard bindings

Registering bindings against a catalog keeps three things: the fallback so far, the explicit
guard of each action so far, and the diagnostics so far. This file states what each of them is
after any sequence of bindings, in terms of the bindings alone:

* the fallback is the guard of the last binding without an action (`Binding.lastFor bs none`);
* the explicit guard of a catalog name is the guard of the last binding for it, and a name
  outside the catalog has none, whatever it was bound to;
* the diagnostics are those of each binding judged against the bindings before it
  (`bindingNote`): a fallback after a fallback names the most recent one it replaces, a binding
  to a name outside the catalog is reported as unmatched, and a binding to a catalog name that
  was bound before names the most recent binding it replaces.

Main statement: `tracks_registerAll`, proved from the step lemma `Tracks.register`.
-/

namespace Warden

namespace Binding

variable {γ : Type}

/-- **The guard of the last binding for `k`**, where `k = none` asks for the last fallback. -/
def lastFor (bs : List (Binding γ)) (k : Option String) : Option γ :=
  ((bs.filter fun b => b.action = k).getLast?).map Binding.guard

@[simp] theorem lastFor_nil (k : Option String) : lastFor ([] : List (Binding γ)) k = none := rfl

/-- The bindings appended last win over the ones before them. -/
theorem lastFor_append (bs bs' : List (Binding γ)) (k : Option String) :
    lastFor (bs ++ bs') k = (lastFor bs' k).or (lastFor bs k) := by
  simp only [lastFor, List.filter_append, List.getLast?_append, Option.map_or]

/-- A binding registered last is the last binding for its own action and leaves the others. -/
theorem lastFor_concat (bs : List (Binding γ)) (b : Binding γ) (k : Option String) :
    lastFor (bs ++ [b]) k = if b.action = k then some b.guard else lastFor bs k := by
  rw [lastFor_append]
  by_cases h : b.action = k <;> simp [lastFor, h]

/-- No binding for `k` means no action `k` among the bindings. -/
theorem lastFor_eq_none_iff (bs : List (Binding γ)) (k : Option String) :
    lastFor bs k = none ↔ k ∉ bs.map Binding.action := by
  simp [lastFor]

/-- **The effective fallback**: the guard of the last fallback binding, or the pass-through
guard when there is none. -/
def fallbackOf [GuardName γ] (bs : List (Binding γ)) : γ :=
  (lastFor bs none).getD GuardName.passThrough

end Binding

open Binding

variable {γ : Type} [GuardName γ]

/-- **The diagnostic of a binding** given the bindings registered before it, against a catalog
with the given names. -/
def bindingNote (names : List String) (earlier : List (Binding γ)) (b : Binding γ) :
    Option Diagnostic :=
  match b.action with
  | none =>
    (lastFor earlier none).map fun old =>
      .duplicateFallback (GuardName.name old) (GuardName.name b.guard)
  | some a =>
    if a ∈ names then
      (lastFor earlier (some a)).map fun old =>
        .duplicateGuard a (GuardName.name old) (GuardName.name b.guard)
    else some (.unmatchedGuard a (GuardName.name b.guard))

/-- A binding's diagnostic reads the catalog's names only through membership. -/
theorem bindingNote_congr {names names' : List String} (h : ∀ a, a ∈ names ↔ a ∈ names') :
    bindingNote (γ := γ) names = bindingNote names' := by
  funext earlier b
  rcases b with ⟨_ | a, g⟩
  · rfl
  · simp only [bindingNote, h a]

/-- No binding reports a repeated declaration step. -/
theorem filter_judged_bindingNote (names : List String) (bs : List (Binding γ)) :
    (judged (bindingNote names) bs).filter Diagnostic.isDuplicateAction = [] := by
  rw [List.filter_eq_nil_iff]
  intro d hd
  obtain ⟨earlier, ⟨_ | a, g⟩, hb⟩ := exists_of_mem_judged hd
  · simp only [bindingNote, Option.map_eq_some_iff] at hb
    obtain ⟨old, -, rfl⟩ := hb
    simp [Diagnostic.isDuplicateAction]
  · simp only [bindingNote] at hb
    split at hb
    · obtain ⟨old, -, rfl⟩ := Option.map_eq_some_iff.1 hb
      simp [Diagnostic.isDuplicateAction]
    · cases hb
      simp [Diagnostic.isDuplicateAction]

/-- A binding is silent exactly when its action was not bound before and, when it names an
action, that action is a catalog name. -/
theorem bindingNote_eq_none_iff (names : List String) (earlier : List (Binding γ))
    (b : Binding γ) :
    bindingNote names earlier b = none ↔
      b.action ∉ earlier.map Binding.action ∧ ∀ a ∈ b.action, a ∈ names := by
  rcases b with ⟨_ | a, g⟩
  · simp [bindingNote, lastFor_eq_none_iff]
  · by_cases ha : a ∈ names
    · simp [bindingNote, ha, lastFor_eq_none_iff]
    · simp [bindingNote, ha]

/-- Nothing is reported exactly when no two bindings share an action (fallbacks sharing the
empty action) and every explicit binding names a catalog action. -/
theorem judged_bindingNote_eq_nil_iff (names : List String) (bs : List (Binding γ)) :
    judged (bindingNote names) bs = [] ↔
      (bs.map Binding.action).Nodup ∧ ∀ b ∈ bs, ∀ a ∈ b.action, a ∈ names := by
  induction bs using List.reverseRecOn with
  | nil => simp
  | append_singleton bs b ih =>
    have hnote : (bindingNote names bs b).toList = [] ↔
        b.action ∉ bs.map Binding.action ∧ ∀ a ∈ b.action, a ∈ names := by
      rw [Option.toList_eq_nil_iff, bindingNote_eq_none_iff]
    -- the new binding keeps the actions distinct exactly when its own action is new
    rw [judged_concat, List.append_eq_nil_iff, ih, hnote, List.map_append, List.map_singleton,
      ← List.concat_eq_append, List.nodup_concat]
    simp only [List.mem_append, List.mem_singleton]
    constructor
    · rintro ⟨⟨hnd, hall⟩, hfresh, hb⟩
      exact ⟨⟨hfresh, hnd⟩, fun b' hb' => hb'.elim (hall b') (fun e => e ▸ hb)⟩
    · rintro ⟨⟨hfresh, hnd⟩, hall⟩
      exact ⟨⟨hnd, fun b' hb' => hall b' (Or.inl hb')⟩, hfresh, hall b (Or.inr rfl)⟩

namespace Routing

/-- **What registering the bindings `seen` against catalog `c` leaves** in a routing state: the
last fallback, the last binding of each catalog name and nothing for other names, and the
diagnostics of each binding judged against the ones before it. -/
structure Tracks (c : Catalog) (seen : List (Binding γ)) (r : Routing γ) : Prop where
  fallback : r.fallback = lastFor seen none
  explicit : ∀ a, (Keyed.find? Prod.fst a r.explicit).map Prod.snd =
    if a ∈ c.names then lastFor seen (some a) else none
  notes : r.notes = judged (bindingNote c.names) seen

theorem Tracks.empty (c : Catalog) : Tracks c [] ({} : Routing γ) :=
  ⟨rfl, fun a => by by_cases h : a ∈ c.names <;> simp [h, Keyed.find?], rfl⟩

/-- **Registering one binding** extends what is tracked by that binding. -/
theorem Tracks.register {c : Catalog} {seen : List (Binding γ)} {r : Routing γ}
    (ht : Tracks c seen r) (b : Binding γ) :
    Tracks c (seen ++ [b]) (Routing.register c r b) := by
  rcases b with ⟨_ | a, g⟩
  · -- a fallback replaces the fallback and reports the one it replaces, if any
    refine ⟨?_, ?_, ?_⟩
    · simp [Routing.register, lastFor_concat]
    · intro a'
      simpa [Routing.register, lastFor_concat] using ht.explicit a'
    · rw [judged_concat, ← ht.notes]
      simp only [Routing.register, bindingNote, ← ht.fallback]
      cases r.fallback <;> simp
  · by_cases ha : a ∈ c.names
    · -- an explicit guard for a catalog name is put under the name
      have hc : c.contains a = true := (Catalog.contains_iff_mem_names c a).2 ha
      have hold : (Keyed.find? Prod.fst a r.explicit).map Prod.snd = lastFor seen (some a) := by
        simpa [ha] using ht.explicit a
      refine ⟨?_, ?_, ?_⟩
      · simpa [Routing.register, hc, lastFor_concat] using ht.fallback
      · intro a'
        simp only [Routing.register, hc, ↓reduceIte, Keyed.find?_put, lastFor_concat,
          Option.some.injEq]
        by_cases haa : a = a'
        · subst haa
          simp [ha]
        · simpa [haa] using ht.explicit a'
      · rw [judged_concat, ← ht.notes]
        simp only [Routing.register, hc, ↓reduceIte, Keyed.put_fst, bindingNote, ha, ← hold]
        cases Keyed.find? Prod.fst a r.explicit <;> simp
    · -- a binding for a name outside the catalog is only reported
      have hc : c.contains a = false :=
        Bool.eq_false_iff.2 fun h => ha ((Catalog.contains_iff_mem_names c a).1 h)
      refine ⟨?_, ?_, ?_⟩
      · simpa [Routing.register, hc, lastFor_concat] using ht.fallback
      · intro a'
        by_cases haa : a = a'
        · subst haa
          simpa [Routing.register, hc, ha] using ht.explicit a
        · simpa [Routing.register, hc, lastFor_concat, haa] using ht.explicit a'
      · rw [judged_concat, ← ht.notes]
        simp [Routing.register, hc, bindingNote, ha]

/-- **The run of registrations**: registering bindings in order from a tracked state tracks
all of them. -/
theorem Tracks.foldl {c : Catalog} {seen : List (Binding γ)} {r : Routing γ}
    (ht : Tracks c seen r) (bs : List (Binding γ)) :
    Tracks c (seen ++ bs) (bs.foldl (Routing.register c) r) := by
  induction bs generalizing seen r with
  | nil => simpa using ht
  | cons b bs ih =>
    have h := ih (ht.register b)
    simpa using h

/-- Registering bindings from the empty state tracks exactly those bindings. -/
theorem tracks_registerAll (c : Catalog) (bs : List (Binding γ)) :
    Tracks c bs (registerAll c bs) := by
  have h := (Tracks.empty (γ := γ) c).foldl bs
  simpa [registerAll] using h

end Routing

end Warden
