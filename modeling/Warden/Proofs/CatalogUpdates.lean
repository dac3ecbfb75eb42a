import Warden.Proofs.Failure
/-!
# Catalogs changed in place

A catalog held in a variable is changed by one declaration at a time. A refused name answers
with the error of `checkName` and leaves the catalog as it was; an accepted one answers with the
action it replaced in its scope, if any, and puts the new action in the old one's place, or last.

Over any run of declarations from the empty catalog, whatever the names, each scope is the
listing of the names accepted in it: every such name once, in the order of its first acceptance,
as the action of that name with its upper case as constant (`listed_updates`). Everything the
catalog shows is read off the two listings: what a lookup finds, which names it contains, its
names, its size, whether it is empty, and its JSON form. The same holds of every catalog reached
by accepted declarations (`Reachable.exists_listed`).

Main statement: `catalog_updates_invariant`.
-/

namespace Warden

namespace Catalog

/-- **The listing of names**: each name once, in the order of its first occurrence, as the action
of that name with its upper case as constant. -/
def listing (ns : List String) : List Action :=
  (Keyed.firsts ns).map fun n => ⟨n, Text.upper n⟩

/-- A lookup in a listing finds a listed name's own action, and nothing else. -/
theorem find?_listing (ns : List String) (n : String) :
    Keyed.find? Action.name n (listing ns) =
      if n ∈ ns then some ⟨n, Text.upper n⟩ else none := by
  rw [listing, Keyed.find?_map_of_key (fun _ => rfl)]
  simp only [Keyed.mem_firsts]

/-- A name met again leaves a listing as it was; a new name is listed last. -/
theorem listing_concat (ns : List String) (n : String) :
    listing (ns ++ [n]) = if n ∈ ns then listing ns else listing ns ++ [⟨n, Text.upper n⟩] := by
  rw [listing, Keyed.firsts_concat]
  split <;> simp [listing]

/-- **Declaring a name over a listing** hands back the name's own action when it was listed, and
lists the name last when it was not. -/
theorem put_listing (ns : List String) (n : String) :
    Keyed.put Action.name ⟨n, Text.upper n⟩ (listing ns) =
      (if n ∈ ns then some ⟨n, Text.upper n⟩ else none, listing (ns ++ [n])) := by
  refine Prod.ext ?_ ?_
  · rw [Keyed.put_fst]
    exact find?_listing ns n
  · show _ = listing (ns ++ [n])
    rw [listing_concat]
    by_cases h : n ∈ ns
    · rw [if_pos h]
      exact Keyed.put_snd_of_find? (by rw [find?_listing, if_pos h])
    · rw [if_neg h]
      exact Keyed.put_snd_of_not_mem (by simpa [Keyed.keys, listing, Function.comp_def] using h)

/-- The names of a run of declarations in one scope, and what appending a step adds to them. -/
theorem namesIn_concat (acts : List (Scope × String)) (s s' : Scope) (n : String) :
    namesIn (acts ++ [(s, n)]) s' = namesIn acts s' ++ if s = s' then [n] else [] := by
  by_cases h : s = s' <;> simp [namesIn, h]

/-- **Scopes that list declared names**: each scope of the catalog is the listing of the names
the steps declared in it. -/
def Listed (c : Catalog) (acts : List (Scope × String)) : Prop :=
  ∀ s, c.inScope s = listing (namesIn acts s)

theorem listed_empty : Listed {} [] := by
  intro s
  cases s <;> rfl

/-- **One accepted declaration over listed scopes** hands back the name's own action exactly when
its scope had listed the name, and the scopes list the step too. -/
theorem Listed.add {c c' : Catalog} {acts : List (Scope × String)} (hc : c.Listed acts)
    {s : Scope} {n : String} {old : Option Action} (h : c.add s n = .ok (old, c')) :
    old = (if (s, n) ∈ acts then some ⟨n, Text.upper n⟩ else none) ∧
      c'.Listed (acts ++ [(s, n)]) := by
  obtain ⟨-, hold, rfl⟩ := add_eq_ok h
  have hput := put_listing (namesIn acts s) n
  rw [← hc s] at hput
  refine ⟨?_, fun s' => ?_⟩
  · have hfst := Keyed.put_fst Action.name ⟨n, Text.upper n⟩ (c.inScope s)
    rw [hput] at hfst
    simp only [mem_namesIn] at hfst
    rw [hold]
    exact hfst.symm
  · rw [namesIn_concat]
    by_cases hs : s = s'
    · subst hs
      rw [inScope_setScope_self, hput, if_pos rfl]
    · rw [inScope_setScope_of_ne c (Ne.symm hs), hc s', if_neg hs, List.append_nil]

/-- **Every catalog reached by accepted declarations lists them.** -/
theorem Reachable.exists_listed {c : Catalog} (hc : c.Reachable) : ∃ acts, c.Listed acts := by
  induction hc with
  | empty => exact ⟨[], listed_empty⟩
  | add _ hadd ih =>
    obtain ⟨acts, hl⟩ := ih
    exact ⟨_, (hl.add hadd).2⟩

/-! ### Declaring in place -/

/-- A refused name answers its error and leaves the catalog as it was. -/
theorem update_of_error {c : Catalog} {s : Scope} {n : String} {e : SchemaError}
    (h : checkName n = .error e) : c.update s n = (.error e, c) := by
  rw [update, (add_eq_error_iff c s n e).2 h]

/-- An accepted name answers what `add` hands back and leaves the catalog `add` gives. -/
theorem update_of_add {c c' : Catalog} {s : Scope} {n : String} {old : Option Action}
    (h : c.add s n = .ok (old, c')) : c.update s n = (.ok old, c') := by
  rw [update, h]

/-- **A run of declarations with one more step** is the run, then that step in place. -/
theorem updates_concat (c : Catalog) (steps : List (Scope × String)) (s : Scope) (n : String) :
    c.updates (steps ++ [(s, n)]) =
      ((c.updates steps).1 ++ [((c.updates steps).2.update s n).1],
        ((c.updates steps).2.update s n).2) := by
  induction steps generalizing c with
  | nil => rfl
  | cons st rest ih =>
    obtain ⟨s', n'⟩ := st
    simp [updates, ih]

/-- The steps of a run whose names pass `checkName`, in order. -/
def acceptedSteps (steps : List (Scope × String)) : List (Scope × String) :=
  steps.filter fun st => (checkName st.2).toBool

theorem acceptedSteps_concat_of_error {steps : List (Scope × String)} {s : Scope} {n : String}
    {e : SchemaError} (h : checkName n = .error e) :
    acceptedSteps (steps ++ [(s, n)]) = acceptedSteps steps := by
  simp [acceptedSteps, h, Except.toBool]

theorem acceptedSteps_concat_of_ok {steps : List (Scope × String)} {s : Scope} {n : String}
    (h : checkName n = .ok ()) :
    acceptedSteps (steps ++ [(s, n)]) = acceptedSteps steps ++ [(s, n)] := by
  simp [acceptedSteps, h, Except.toBool]

/-- An accepted step's name passes `checkName`. -/
theorem checkName_of_mem_acceptedSteps {steps : List (Scope × String)} {st : Scope × String}
    (h : st ∈ acceptedSteps steps) : checkName st.2 = .ok () := by
  have hok := (List.mem_filter.1 h).2
  cases hn : checkName st.2 with
  | error e => simp [hn, Except.toBool] at hok
  | ok u => rfl

/-- **Every run of declarations from the empty catalog lists its accepted steps.** The step of
the induction: a refused name changes neither the catalog nor the accepted steps, and an
accepted one extends both (`Listed.add`). -/
theorem listed_updates (steps : List (Scope × String)) :
    (({} : Catalog).updates steps).2.Listed (acceptedSteps steps) := by
  induction steps using List.reverseRecOn with
  | nil => exact listed_empty
  | append_singleton steps step ih =>
    obtain ⟨s, n⟩ := step
    rw [updates_concat]
    cases hn : checkName n with
    | error e =>
      rw [update_of_error hn, acceptedSteps_concat_of_error hn]
      exact ih
    | ok u =>
      obtain ⟨old, c', hadd⟩ := exists_add_eq_ok hn _ s
      rw [update_of_add hadd, acceptedSteps_concat_of_ok hn]
      exact (ih.add hadd).2

/-- **The answer of the last step of a run**: a refused name answers its error and leaves the
catalog as it was; an accepted one answers the action of its name when the name was accepted in
its scope before, and nothing otherwise. -/
theorem updates_concat_answer (steps : List (Scope × String)) (s : Scope) (n : String) :
    ({} : Catalog).updates (steps ++ [(s, n)]) =
      match checkName n with
      | .error e => ((({} : Catalog).updates steps).1 ++ [.error e], (({} : Catalog).updates steps).2)
      | .ok () =>
        ((({} : Catalog).updates steps).1 ++
            [.ok (if (s, n) ∈ acceptedSteps steps then some ⟨n, Text.upper n⟩ else none)],
          ((({} : Catalog).updates steps).2.update s n).2) := by
  rw [updates_concat]
  cases hn : checkName n with
  | error e => rw [update_of_error hn]
  | ok u =>
    obtain ⟨old, c', hadd⟩ := exists_add_eq_ok hn _ s
    rw [update_of_add hadd, ((listed_updates steps).add hadd).1]

/-! ### What a listed catalog shows -/

section Listed

variable {c : Catalog} {acts : List (Scope × String)}

/-- The item scope lists the item names of the steps. -/
theorem Listed.items (hc : c.Listed acts) : c.items = listing (namesIn acts .item) :=
  hc .item

/-- The global scope lists the global names of the steps. -/
theorem Listed.globals (hc : c.Listed acts) : c.globals = listing (namesIn acts .global) :=
  hc .global

/-- A lookup finds the action of a declared pair, and nothing for any other pair. -/
theorem Listed.find? (hc : c.Listed acts) (s : Scope) (n : String) :
    c.find? s n = if (s, n) ∈ acts then some ⟨n, Text.upper n⟩ else none := by
  rw [Catalog.find?, hc s, find?_listing]
  simp only [mem_namesIn]

/-- The names are the first occurrences of the item names, then those of the global names. -/
theorem Listed.names (hc : c.Listed acts) :
    c.names = Keyed.firsts (namesIn acts .item) ++ Keyed.firsts (namesIn acts .global) := by
  have hmap : ∀ ns, (listing ns).map Action.name = Keyed.firsts ns := by
    intro ns
    simp [listing, Function.comp_def]
  rw [Catalog.names, hc.items, hc.globals, hmap, hmap]

/-- A catalog contains a name exactly when some step declared it. -/
theorem Listed.contains (hc : c.Listed acts) (n : String) :
    c.contains n = true ↔ (.item, n) ∈ acts ∨ (.global, n) ∈ acts := by
  rw [Catalog.contains, Bool.or_eq_true, hc.find?, hc.find?]
  by_cases hi : (.item, n) ∈ acts <;> by_cases hg : (.global, n) ∈ acts <;> simp [hi, hg]

/-- The size counts the distinct names of each scope. -/
theorem Listed.size (hc : c.Listed acts) :
    c.size = (namesIn acts .item).toFinset.card + (namesIn acts .global).toFinset.card := by
  rw [Catalog.size, hc.items, hc.globals, listing, listing, List.length_map, List.length_map,
    Keyed.length_firsts, Keyed.length_firsts]

end Listed

/-- A catalog is empty exactly when its size is zero. -/
theorem isEmpty_iff_size_eq_zero (c : Catalog) : c.isEmpty = true ↔ c.size = 0 := by
  simp [isEmpty, size]

end Catalog

/-- **Catalogs changed in place.** Run any declarations, with any names, in place from the empty
catalog. A step with a refused name answers the error of `checkName` and leaves the catalog as it
was; a step with an accepted name answers the action of that name when the name was accepted in
its scope before, and nothing otherwise. After every run each scope is the listing of the names
accepted in it: each once, in the order of its first acceptance, as the action of that name with
its upper case as constant. So a lookup finds exactly the accepted pairs, every name of the
catalog passes `checkName`, the catalog contains exactly the names accepted in either scope, its
names are the item names then the global names, its size counts the distinct names of both
scopes, it is empty exactly when its size is zero, and its JSON form lists the two scopes in the
same orders. -/
theorem catalog_updates_invariant (steps : List (Scope × String)) :
    let run := ({} : Catalog).updates steps
    let c := run.2
    let acc := Catalog.acceptedSteps steps
    (∀ s n e, checkName n = .error e →
      ({} : Catalog).updates (steps ++ [(s, n)]) = (run.1 ++ [.error e], c)) ∧
    (∀ s n, checkName n = .ok () →
      (({} : Catalog).updates (steps ++ [(s, n)])).1 =
        run.1 ++ [.ok (if (s, n) ∈ acc then some ⟨n, Text.upper n⟩ else none)]) ∧
    c.items = Catalog.listing (namesIn acc .item) ∧
    c.globals = Catalog.listing (namesIn acc .global) ∧
    (∀ s n, c.find? s n = if (s, n) ∈ acc then some ⟨n, Text.upper n⟩ else none) ∧
    (∀ n ∈ c.names, checkName n = .ok ()) ∧
    (∀ n, c.contains n = true ↔ (.item, n) ∈ acc ∨ (.global, n) ∈ acc) ∧
    c.names = Keyed.firsts (namesIn acc .item) ++ Keyed.firsts (namesIn acc .global) ∧
    c.size = (namesIn acc .item).toFinset.card + (namesIn acc .global).toFinset.card ∧
    (c.isEmpty = true ↔ c.size = 0) ∧
    c.toJsonMembers =
      [("itemActions", .arr ((Catalog.listing (namesIn acc .item)).map Action.toJson)),
        ("globalActions", .arr ((Catalog.listing (namesIn acc .global)).map Action.toJson))] := by
  intro run c acc
  have hc : c.Listed acc := Catalog.listed_updates steps
  refine ⟨fun s n e hn => ?_, fun s n hn => ?_, hc.items, hc.globals, hc.find?, fun n hm => ?_,
    hc.contains, hc.names, hc.size, c.isEmpty_iff_size_eq_zero, ?_⟩
  · rw [Catalog.updates_concat_answer, hn]
  · rw [Catalog.updates_concat_answer, hn]
  · -- a name of the catalog was accepted in one of the scopes
    rw [hc.names, List.mem_append, Keyed.mem_firsts, Keyed.mem_firsts, mem_namesIn,
      mem_namesIn] at hm
    rcases hm with hm | hm <;> exact Catalog.checkName_of_mem_acceptedSteps hm
  · rw [Catalog.toJsonMembers, hc.items, hc.globals]

end Warden
