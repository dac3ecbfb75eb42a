/-!
# Keyed lists

A keyed list keeps values in the order in which their keys first arrived. Putting a value under
a key that is already present replaces the old value in place and hands the old value back;
putting a value under a new key appends it. This is the order in which catalogs and guard
bindings are listed.

Main statements: `keys_put_of_mem` and `keys_put_of_not_mem` (what putting does to the keys),
and `find_put` (a lookup after putting finds the new value).
-/

namespace Warden.Keyed

variable {α : Type}

/-- The value stored under `k`, found by the key function `key`. -/
def find? (key : α → String) (k : String) (xs : List α) : Option α :=
  xs.find? fun x => key x == k

/-- **Puts `x` under its key**: replaces the value with that key in place, or appends `x`;
returns the value it replaced. -/
def put (key : α → String) (x : α) : List α → Option α × List α
  | [] => (none, [x])
  | y :: ys =>
    if key y = key x then (some y, x :: ys)
    else
      let r := put key x ys
      (r.1, y :: r.2)

/-- The keys of a keyed list, in order. -/
def keys (key : α → String) (xs : List α) : List String :=
  xs.map key

/-- The keys in order of first occurrence, each once. -/
def firsts : List String → List String
  | [] => []
  | k :: ks => k :: (firsts ks).filter (· ≠ k)

/-! ### Laws -/

theorem put_fst (key : α → String) (x : α) (xs : List α) :
    (put key x xs).1 = find? key (key x) xs := by
  induction xs with
  | nil => rfl
  | cons y ys ih =>
    unfold put find?
    by_cases h : key y = key x
    · simp [h]
    · have hb : (key y == key x) = false := by simpa using h
      simp only [h, ↓reduceIte, List.find?_cons, hb]
      exact ih

theorem keys_put_of_mem (key : α → String) (x : α) (xs : List α) (h : key x ∈ keys key xs) :
    keys key (put key x xs).2 = keys key xs := by
  induction xs with
  | nil => simp [keys] at h
  | cons y ys ih =>
    unfold put
    by_cases hy : key y = key x
    · simp [keys, hy]
    · simp only [hy, ↓reduceIte, keys, List.map_cons, List.cons.injEq, true_and]
      have : key x ∈ keys key ys := by
        simp only [keys, List.map_cons, List.mem_cons] at h
        rcases h with h | h
        · exact absurd h.symm hy
        · exact h
      exact ih this

theorem keys_put_of_not_mem (key : α → String) (x : α) (xs : List α) (h : key x ∉ keys key xs) :
    keys key (put key x xs).2 = keys key xs ++ [key x] := by
  induction xs with
  | nil => rfl
  | cons y ys ih =>
    unfold put
    have hy : key y ≠ key x := by
      intro e
      simp [keys, e] at h
    simp only [hy, ↓reduceIte, keys, List.map_cons, List.cons_append, List.cons.injEq, true_and]
    exact ih (by simp_all [keys])

theorem find_put (key : α → String) (x : α) (xs : List α) :
    find? key (key x) (put key x xs).2 = some x := by
  induction xs with
  | nil => simp [put, find?]
  | cons y ys ih =>
    unfold put
    by_cases h : key y = key x
    · simp [find?, h]
    · have hb : (key y == key x) = false := by simpa using h
      simp only [h, ↓reduceIte, find?, List.find?_cons, hb]
      exact ih

end Warden.Keyed
