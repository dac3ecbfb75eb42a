import Warden.Keyed
import Mathlib.Data.Finset.Card
import Mathlib.Data.List.Basic
/-!
# Laws of keyed lists and of judging each element against the ones before it

Catalogs and the explicit guards of a guard table are keyed lists, and a guard table lists the
names of a catalog by their first occurrences. This file gives the lookup laws of `Keyed.put`
at every key (`find?_put`), what putting does to the list when the key holds that value already
or is new (`put_snd_of_find?`, `put_snd_of_not_mem`), the lookup in a listing built from keys
(`find?_map_of_key`), and the facts about `Keyed.firsts` that the table and catalog proofs need:
it keeps every key (`mem_firsts`), it keeps each once (`nodup_firsts`), it is the standard
library's first-occurrence deduplication (`firsts_eq_eraseDups`), so its length is the number of
distinct keys (`length_firsts`), and a key appended adds itself only when new (`firsts_concat`).

A build records what each declaration did given the declarations before it. `judged f l`
collects `f (l.take i) x` for every element `x` of `l` at position `i`; its one law is what
appending an element does (`judged_concat`), which is how the runs below are proved.
-/

namespace Warden

namespace Keyed

variable {α : Type}

/-! ### Lookups -/

/-- Putting a value leaves the lookups of every other key as they were. -/
theorem find?_put_of_ne (key : α → String) (x : α) (xs : List α) {k : String}
    (h : key x ≠ k) : find? key k (put key x xs).2 = find? key k xs := by
  induction xs with
  | nil =>
    have hb : (key x == k) = false := by simpa using h
    simp [put, find?, hb]
  | cons y ys ih =>
    unfold put
    by_cases hy : key y = key x
    · -- `x` takes the place of `y`, and neither has the key looked up
      have hxk : (key x == k) = false := by simpa using h
      simp only [hy, ↓reduceIte, find?, List.find?_cons, hxk]
    · simp only [hy, ↓reduceIte, find?, List.find?_cons]
      by_cases hyk : key y = k
      · simp [hyk]
      · have hb : (key y == k) = false := by simpa using hyk
        simp only [hb]
        exact ih

/-- **A lookup after putting** finds the new value under its key and the old lookup under every
other key. -/
theorem find?_put (key : α → String) (x : α) (xs : List α) (k : String) :
    find? key k (put key x xs).2 = if key x = k then some x else find? key k xs := by
  by_cases h : key x = k
  · rw [if_pos h, ← h]
    exact find_put key x xs
  · rw [if_neg h]
    exact find?_put_of_ne key x xs h

/-- **A lookup in a list built from keys** by a function that keeps the key: a listed key finds
its own value and any other key finds nothing. -/
theorem find?_map_of_key {key : α → String} {f : String → α} (hf : ∀ k, key (f k) = k)
    (ks : List String) (k : String) :
    find? key k (ks.map f) = if k ∈ ks then some (f k) else none := by
  induction ks with
  | nil => simp [find?]
  | cons n ns ih =>
    by_cases hn : n = k
    · subst hn
      simp [find?, hf]
    · have hb : (key (f n) == k) = false := by simpa [hf] using hn
      simp only [find?, List.map_cons, List.find?_cons, hb] at ih ⊢
      rw [ih]
      simp [Ne.symm hn]

/-- A key has a value exactly when it is one of the keys. -/
theorem isSome_find?_iff (key : α → String) (k : String) (xs : List α) :
    (find? key k xs).isSome ↔ k ∈ keys key xs := by
  simp [find?, keys, List.find?_isSome]

/-- **The lookup in a listing built from keys**: a listed key finds its own pair, duplicates or
not, and any other key finds nothing. -/
theorem find?_map_pair {β : Type} (ks : List String) (f : String → β) (k : String) :
    find? Prod.fst k (ks.map fun n => (n, f n)) = if k ∈ ks then some (k, f k) else none :=
  find?_map_of_key (fun _ => rfl) ks k

/-- Putting a value that is already the one stored under its key changes nothing. -/
theorem put_snd_of_find? {key : α → String} {x : α} {xs : List α}
    (h : find? key (key x) xs = some x) : (put key x xs).2 = xs := by
  induction xs with
  | nil => simp [find?] at h
  | cons y ys ih =>
    unfold put
    by_cases hy : key y = key x
    · -- the first value under the key is the one found, so it is `x`
      have hyx : y = x := by simpa [find?, hy] using h
      simp [hyx]
    · have hb : (key y == key x) = false := by simpa using hy
      simp only [find?, List.find?_cons, hb] at h
      simp [hy, ih h]

/-- Putting a value under a new key appends it. -/
theorem put_snd_of_not_mem {key : α → String} {x : α} {xs : List α} (h : key x ∉ keys key xs) :
    (put key x xs).2 = xs ++ [x] := by
  induction xs with
  | nil => rfl
  | cons y ys ih =>
    have hy : key y ≠ key x := fun e => h (by simp [keys, e])
    have hys : key x ∉ keys key ys := fun hm => h (by simp_all [keys])
    unfold put
    simp [hy, ih hys]

/-! ### First occurrences -/

/-- Keeping first occurrences keeps every key. -/
@[simp] theorem mem_firsts {k : String} {ks : List String} : k ∈ firsts ks ↔ k ∈ ks := by
  induction ks with
  | nil => simp [firsts]
  | cons n ns ih =>
    simp only [firsts, List.mem_cons, List.mem_filter, ih]
    by_cases h : k = n <;> simp [h]

/-- Keeping first occurrences keeps each key once. -/
theorem nodup_firsts (ks : List String) : (firsts ks).Nodup := by
  induction ks with
  | nil => exact List.nodup_nil
  | cons n ns ih =>
    rw [firsts, List.nodup_cons]
    refine ⟨by simp, ?_⟩
    exact ih.filter _

/-- Keeping first occurrences commutes with dropping keys. -/
theorem firsts_filter (p : String → Bool) (ks : List String) :
    firsts (ks.filter p) = (firsts ks).filter p := by
  induction ks with
  | nil => rfl
  | cons n ns ih =>
    by_cases hp : p n = true
    · rw [List.filter_cons_of_pos hp, firsts, firsts, ih, List.filter_cons_of_pos hp,
        List.filter_filter, List.filter_filter]
      congr 2
      funext k
      exact Bool.and_comm _ _
    · have hp' : p n = false := by simpa using hp
      rw [List.filter_cons_of_neg hp, firsts, ih, List.filter_cons_of_neg hp,
        List.filter_filter]
      symm
      apply List.filter_congr
      intro k hk
      by_cases hkn : k = n
      · subst hkn
        simp [hp']
      · simp [hkn]

/-- **Keeping first occurrences is the standard library's `eraseDups`.** -/
theorem firsts_eq_eraseDups (ks : List String) : firsts ks = ks.eraseDups := by
  -- `eraseDups` recurses on the filtered tail, so the induction is on a bound of the length
  suffices h : ∀ N, ∀ ks : List String, ks.length ≤ N → firsts ks = ks.eraseDups from
    h _ ks le_rfl
  intro N
  induction N with
  | zero =>
    intro ks hks
    rw [List.length_eq_zero_iff.1 (Nat.le_zero.1 hks)]
    rfl
  | succ N ih =>
    intro ks hks
    cases ks with
    | nil => rfl
    | cons n ns =>
      have hlen : (ns.filter fun b => !b == n).length ≤ N :=
        le_trans (List.length_filter_le _ _) (Nat.le_of_succ_le_succ hks)
      rw [firsts, List.eraseDups_cons, ← ih _ hlen, firsts_filter]
      congr 2
      funext k
      by_cases h : k = n <;> simp [h]

/-- The number of first occurrences is the number of distinct keys. -/
theorem length_firsts (ks : List String) : (firsts ks).length = ks.toFinset.card := by
  have hset : (firsts ks).toFinset = ks.toFinset := by
    ext k
    simp
  rw [← hset, List.toFinset_card_of_nodup (nodup_firsts ks)]

/-- A key met again adds no first occurrence; a new key adds itself last. -/
theorem firsts_concat (ks : List String) (k : String) :
    firsts (ks ++ [k]) = if k ∈ ks then firsts ks else firsts ks ++ [k] := by
  rw [firsts_eq_eraseDups, firsts_eq_eraseDups, List.eraseDups_append]
  by_cases h : k ∈ ks <;> simp [h, List.removeAll, List.eraseDups_cons]

end Keyed

/-! ### Judging against the earlier elements -/

section Judged

variable {α β : Type}

/-- **Each element judged against the elements before it**: `f (l.take i) x` for each `x` at
position `i` of `l`, the verdicts that are given kept in order. -/
def judged (f : List α → α → Option β) (l : List α) : List β :=
  l.zipIdx.filterMap fun (x, i) => f (l.take i) x

@[simp] theorem judged_nil (f : List α → α → Option β) : judged f [] = [] := rfl

/-- Every verdict of a judged list is a verdict of `f`. -/
theorem exists_of_mem_judged {f : List α → α → Option β} {l : List α} {y : β}
    (h : y ∈ judged f l) : ∃ pre x, f pre x = some y := by
  obtain ⟨⟨x, i⟩, -, hx⟩ := List.mem_filterMap.1 h
  exact ⟨_, _, hx⟩

/-- **Appending an element** adds its verdict against the whole list before it. -/
theorem judged_concat (f : List α → α → Option β) (l : List α) (x : α) :
    judged f (l ++ [x]) = judged f l ++ (f l x).toList := by
  unfold judged
  rw [List.zipIdx_append, List.filterMap_append]
  congr 1
  · apply List.filterMap_congr
    rintro ⟨y, i⟩ hy
    -- an earlier element only sees the part of `l` before it
    have hi : i ≤ l.length := by
      have := (List.mem_zipIdx hy).2.1
      omega
    simp only [List.take_append_of_le_length hi]
  · simp only [List.zipIdx_cons, List.zipIdx_nil, Nat.zero_add, List.filterMap_cons,
      List.filterMap_nil, List.take_left]
    cases f l x <;> rfl

end Judged

end Warden
