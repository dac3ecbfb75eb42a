/-!
# Fields of a text

`fields sep cs` cuts a character list at every occurrence of the separator `sep`. The pieces
keep their order, they hold no separator, and there is always one piece more than there are
separators, so the empty list has one empty field.

Main statements: `fields_ne_nil` (there is always a field), `mem_fields` (each field lies in
the text and holds no separator) and `fields_append_sep` (cutting two texts joined by the
separator cuts each).
-/

namespace Warden.Text

/-- Puts a character in front of the first field. -/
def consField (c : Char) : List (List Char) → List (List Char)
  | [] => [[c]]
  | f :: fs => (c :: f) :: fs

/-- **The fields of a character list** between the occurrences of `sep`. -/
def fields (sep : Char) : List Char → List (List Char)
  | [] => [[]]
  | c :: cs => if c = sep then [] :: fields sep cs else consField c (fields sep cs)

/-- The fields of a text between the occurrences of `sep`, as texts. -/
def fieldsOf (sep : Char) (s : String) : List String :=
  (fields sep s.toList).map String.ofList

/-! ### Laws -/

theorem fields_ne_nil (sep : Char) (cs : List Char) : fields sep cs ≠ [] := by
  cases cs with
  | nil => simp [fields]
  | cons c cs =>
    unfold fields
    split
    · simp
    · cases fields sep cs <;> simp [consField]

/-- **Each field lies in the text and holds no separator.** -/
theorem mem_fields {sep : Char} {cs f : List Char} (hf : f ∈ fields sep cs) :
    sep ∉ f ∧ f ⊆ cs := by
  induction cs generalizing f with
  | nil =>
    rw [fields, List.mem_singleton] at hf
    subst hf
    simp
  | cons c cs ih =>
    by_cases hc : c = sep
    · rw [fields, if_pos hc, List.mem_cons] at hf
      rcases hf with rfl | hf
      · simp
      · exact ⟨(ih hf).1, List.Subset.trans (ih hf).2 (List.subset_cons_self c cs)⟩
    · rw [fields, if_neg hc] at hf
      cases hfs : fields sep cs with
      | nil => exact absurd hfs (fields_ne_nil sep cs)
      | cons f₀ fs =>
        rw [hfs, consField, List.mem_cons] at hf
        have ih₀ := ih (hfs ▸ List.mem_cons_self : f₀ ∈ fields sep cs)
        rcases hf with rfl | hf
        · -- the first field gains the character in front
          refine ⟨?_, List.cons_subset_cons c ih₀.2⟩
          simp [Ne.symm hc, ih₀.1]
        · have ih₁ := ih (hfs ▸ List.mem_cons_of_mem f₀ hf : f ∈ fields sep cs)
          exact ⟨ih₁.1, List.Subset.trans ih₁.2 (List.subset_cons_self c cs)⟩

theorem mem_fieldsOf {sep : Char} {s seg : String} (h : seg ∈ fieldsOf sep s) :
    sep ∉ seg.toList ∧ seg.toList ⊆ s.toList := by
  obtain ⟨f, hf, rfl⟩ := List.mem_map.1 h
  rw [String.toList_ofList]
  exact mem_fields hf

theorem consField_append (c : Char) {F : List (List Char)} (hF : F ≠ []) (G : List (List Char)) :
    consField c (F ++ G) = consField c F ++ G := by
  cases F with
  | nil => exact absurd rfl hF
  | cons f fs => rfl

/-- **Cutting two texts joined by the separator** cuts each of them. -/
theorem fields_append_sep (sep : Char) (a b : List Char) :
    fields sep (a ++ sep :: b) = fields sep a ++ fields sep b := by
  induction a with
  | nil => simp [fields]
  | cons c cs ih =>
    by_cases hc : c = sep
    · simp [fields, hc, ih]
    · rw [List.cons_append, fields, if_neg hc, ih, fields, if_neg hc,
        consField_append c (fields_ne_nil sep cs)]

end Warden.Text
