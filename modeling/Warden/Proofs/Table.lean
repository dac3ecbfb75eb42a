import Warden.Schema.Json
import Warden.Proofs.Routing
/-!
# The shape of a guard table

A table built from a catalog and a list of bindings lists each distinct catalog name once, in
the order of its first occurrence among the item names and then the global names, with the
custom key `__custom` last. Every entry is labelled with the upper case of its key. A catalog
name gets the guard of its last binding, or else the effective fallback; the custom entry gets
the effective fallback (`find?_entries_build`, `custom_build`).

When the catalog was reached by declarations, `__custom` is not one of its names, and then the
two ways of reading the table agree: `resolve` is `get?` with the custom entry as default
(`resolve_eq_getD_get?`), the keys are pairwise distinct, and so are the members of the table's
JSON object.

Main statement: `build_shape`.
-/

namespace Warden

namespace Table

open Binding

variable {γ : Type} [GuardName γ]

/-! ### The entries of a built table -/

/-- An explicit guard, or the fallback, as the registration leaves it. -/
theorem explicit_elim_registerAll (c : Catalog) (bs : List (Binding γ)) (x : String) :
    (Keyed.find? Prod.fst x (Routing.registerAll c bs).explicit).elim (fallbackOf bs) Prod.snd =
      if x ∈ c.names then (lastFor bs (some x)).getD (fallbackOf bs) else fallbackOf bs := by
  have ht := (Routing.tracks_registerAll c bs).explicit x
  have helim : ∀ o : Option (String × γ),
      o.elim (fallbackOf bs) Prod.snd = (o.map Prod.snd).getD (fallbackOf bs) := by
    intro o
    cases o <;> rfl
  rw [helim, ht]
  split <;> rfl

/-- The fallback of a built table is the effective fallback of its bindings. -/
theorem fallback_registerAll (c : Catalog) (bs : List (Binding γ)) :
    (Routing.registerAll c bs).fallback.getD GuardName.passThrough = fallbackOf bs := by
  rw [(Routing.tracks_registerAll c bs).fallback]
  rfl

/-- **The entries of a built table**: each first occurrence of a catalog name, with its last
binding's guard or else the effective fallback. -/
theorem entries_build (c : Catalog) (bs : List (Binding γ)) :
    (build c bs).1.entries = (Keyed.firsts c.names).map fun n =>
      (n, entryOf n ((lastFor bs (some n)).getD (fallbackOf bs))) := by
  simp only [build, fallback_registerAll]
  apply List.map_congr_left
  intro n hn
  rw [explicit_elim_registerAll, if_pos (Keyed.mem_firsts.1 hn)]

/-- The custom entry of a built table holds the effective fallback. -/
theorem custom_build (c : Catalog) (bs : List (Binding γ)) :
    (build c bs).1.custom = entryOf customKey (fallbackOf bs) := by
  simp only [build, fallback_registerAll]

/-- The diagnostics of a built table are those of its bindings, each judged against the ones
before it. -/
theorem notes_build (c : Catalog) (bs : List (Binding γ)) :
    (build c bs).2 = judged (bindingNote c.names) bs :=
  (Routing.tracks_registerAll c bs).notes

/-- A name finds an entry of a built table exactly when it is a catalog name. -/
theorem find?_entries_build (c : Catalog) (bs : List (Binding γ)) (x : String) :
    Keyed.find? Prod.fst x (build c bs).1.entries =
      if x ∈ c.names then some (x, entryOf x ((lastFor bs (some x)).getD (fallbackOf bs)))
      else none := by
  rw [entries_build, Keyed.find?_map_pair]
  simp only [Keyed.mem_firsts]

/-- **How a built table resolves a name**: a catalog name by its own entry, any other name by
the custom entry. -/
theorem resolve_build (c : Catalog) (bs : List (Binding γ)) (x : String) :
    (build c bs).1.resolve x =
      if x ∈ c.names then entryOf x ((lastFor bs (some x)).getD (fallbackOf bs))
      else entryOf customKey (fallbackOf bs) := by
  unfold resolve
  rw [find?_entries_build, custom_build]
  split <;> rfl

/-- The keys of a built table: the first occurrences of the catalog names, then `__custom`. -/
theorem keys_build (c : Catalog) (bs : List (Binding γ)) :
    (build c bs).1.keys = c.names.eraseDups ++ [customKey] := by
  simp [keys, toList, entries_build, Keyed.firsts_eq_eraseDups, Function.comp_def]

/-- **Every entry is labelled with the upper case of its key**, the custom entry too. -/
theorem label_eq_upper_of_mem_build (c : Catalog) (bs : List (Binding γ)) {k : String}
    {e : Entry γ} (h : (k, e) ∈ (build c bs).1.toList) : e.label = Text.upper k := by
  simp only [toList, entries_build, custom_build, List.mem_append, List.mem_map,
    List.mem_singleton, Prod.mk.injEq] at h
  rcases h with ⟨n, -, rfl, rfl⟩ | ⟨rfl, rfl⟩ <;> rfl

/-! ### Tables of reachable catalogs -/

/-- **`get?` of a built table**: the custom key finds the custom entry, a catalog name its own
entry, and nothing else is found. -/
theorem get?_build (c : Catalog) (bs : List (Binding γ)) (x : String) :
    (build c bs).1.get? x =
      if x = customKey then some (build c bs).1.custom
      else if x ∈ c.names then some (entryOf x ((lastFor bs (some x)).getD (fallbackOf bs)))
      else none := by
  unfold get?
  rw [find?_entries_build]
  split
  · rfl
  · split <;> rfl

/-- Over a reachable catalog `resolve` is `get?` with the custom entry as default, since the
custom key is no catalog name. -/
theorem resolve_eq_getD_get? {c : Catalog} (hc : c.Reachable) (bs : List (Binding γ))
    (x : String) : (build c bs).1.resolve x = ((build c bs).1.get? x).getD (build c bs).1.custom := by
  rw [resolve_build, get?_build, custom_build]
  by_cases hx : x = customKey
  · subst hx
    simp [Catalog.customKey_not_mem_names hc]
  · by_cases hn : x ∈ c.names <;> simp [hx, hn]

/-- Over a reachable catalog the keys of a built table are pairwise distinct. -/
theorem keys_nodup_build {c : Catalog} (hc : c.Reachable) (bs : List (Binding γ)) :
    (build c bs).1.keys.Nodup := by
  rw [keys_build, ← Keyed.firsts_eq_eraseDups, ← List.concat_eq_append, List.nodup_concat]
  exact ⟨fun h => Catalog.customKey_not_mem_names hc (Keyed.mem_firsts.1 h),
    Keyed.nodup_firsts _⟩

/-- A key of a built table is what `get?` finds. -/
theorem isSome_get?_build (c : Catalog) (bs : List (Binding γ)) (k : String) :
    ((build c bs).1.get? k).isSome ↔ k ∈ (build c bs).1.keys := by
  rw [get?_build, keys_build, ← Keyed.firsts_eq_eraseDups]
  by_cases hk : k = customKey
  · simp [hk]
  · by_cases hn : k ∈ c.names <;> simp [hk, hn]

/-- The size of a built table counts the distinct catalog names and the custom entry. -/
theorem size_build (c : Catalog) (bs : List (Binding γ)) :
    (build c bs).1.size = c.names.toFinset.card + 1 := by
  rw [size, entries_build, List.length_map, Keyed.length_firsts]

/-- The JSON object of a table has the table's keys as its members, in order. -/
theorem toJson_keys (t : Table γ) : ∃ ms, t.toJson = .obj ms ∧ ms.map Prod.fst = t.keys :=
  ⟨_, rfl, by simp [keys]⟩

/-- **The shape of a guard table.** Over a catalog reached by declarations, whatever the
bindings, the table's keys are the distinct catalog names in order of first occurrence
followed by `__custom`, each once; `get?` finds exactly the keys; the size counts the distinct
names and the custom entry, and so the keys; `resolve` is `get?` with the custom entry as
default, so the two agree on every key; and the JSON object has the keys as its members, in
order. -/
theorem build_shape {c : Catalog} (hc : c.Reachable) (bs : List (Binding γ)) :
    let t := (build c bs).1
    t.keys = c.names.eraseDups ++ [customKey] ∧ t.keys.Nodup ∧
      (∀ k, (t.get? k).isSome ↔ k ∈ t.keys) ∧
      t.size = c.names.toFinset.card + 1 ∧ t.size = t.keys.length ∧
      (∀ x, t.resolve x = (t.get? x).getD t.custom) ∧
      (∀ k ∈ t.keys, t.get? k = some (t.resolve k)) ∧
      ∃ ms, t.toJson = .obj ms ∧ ms.map Prod.fst = t.keys := by
  intro t
  have hresolve : ∀ x, t.resolve x = (t.get? x).getD t.custom := resolve_eq_getD_get? hc bs
  refine ⟨keys_build c bs, keys_nodup_build hc bs, isSome_get?_build c bs, size_build c bs,
    size_eq_length_keys t, hresolve, ?_, toJson_keys t⟩
  intro k hk
  -- a key is found, so the default of `resolve` is never used
  obtain ⟨e, he⟩ := Option.isSome_iff_exists.1 ((isSome_get?_build c bs k).2 hk)
  rw [hresolve, he]
  rfl

/-- The shape of the table of a catalog with `read` and `archive` as item actions and `archive`
again as a global action, bound with a fallback and a binding to an undeclared name. -/
theorem build_shape_archive :
    Catalog.Reachable ⟨[⟨"read", "READ"⟩, ⟨"archive", "ARCHIVE"⟩], [⟨"archive", "ARCHIVE"⟩]⟩ ∧
    let t := (build ⟨[⟨"read", "READ"⟩, ⟨"archive", "ARCHIVE"⟩], [⟨"archive", "ARCHIVE"⟩]⟩
      [⟨none, "AuditGuard"⟩, ⟨some "fork", "ForkGuard"⟩]).1
    t.keys = ["read", "archive", "archive"].eraseDups ++ [customKey] ∧ t.keys.Nodup ∧
      (∀ k, (t.get? k).isSome ↔ k ∈ t.keys) ∧
      t.size = ["read", "archive", "archive"].toFinset.card + 1 ∧ t.size = t.keys.length ∧
      (∀ x, t.resolve x = (t.get? x).getD t.custom) ∧
      (∀ k ∈ t.keys, t.get? k = some (t.resolve k)) ∧
      ∃ ms, t.toJson = .obj ms ∧ ms.map Prod.fst = t.keys := by
  have h₁ : Catalog.add {} .item "read" = .ok (none, ⟨[⟨"read", "READ"⟩], []⟩) := by
    decide +kernel
  have h₂ : Catalog.add ⟨[⟨"read", "READ"⟩], []⟩ .item "archive" =
      .ok (none, ⟨[⟨"read", "READ"⟩, ⟨"archive", "ARCHIVE"⟩], []⟩) := by
    decide +kernel
  have h₃ : Catalog.add ⟨[⟨"read", "READ"⟩, ⟨"archive", "ARCHIVE"⟩], []⟩ .global "archive" =
      .ok (none, ⟨[⟨"read", "READ"⟩, ⟨"archive", "ARCHIVE"⟩], [⟨"archive", "ARCHIVE"⟩]⟩) := by
    decide +kernel
  have hc : Catalog.Reachable
      ⟨[⟨"read", "READ"⟩, ⟨"archive", "ARCHIVE"⟩], [⟨"archive", "ARCHIVE"⟩]⟩ :=
    .add (.add (.add .empty h₁) h₂) h₃
  exact ⟨hc, build_shape hc _⟩

end Table

end Warden
