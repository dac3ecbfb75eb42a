/-!
# Blank characters

The blank characters are the code points of the Unicode property `White_Space`: the ASCII
controls tab to carriage return, the space, next line, no-break space, ogham space mark, the
eleven spaces from en quad to hair space, the line and paragraph separators, the narrow
no-break space, the medium mathematical space and the ideographic space. The zero width space,
the byte order mark and the Mongolian vowel separator are not blank.

Trimming removes blank characters from both ends of a text and nothing else.

Main statements: `isBlank_of_isWhitespace` (every character that core calls whitespace is
blank), `dropBlank_dropBlank` (dropping the leading blanks twice drops them once) and
`trim_trim` (trimming twice trims once).
-/

namespace Warden.Text

/-- **The `White_Space` code points**, as closed ranges in increasing order. -/
def blankRanges : List (Nat × Nat) :=
  [(0x09, 0x0D), (0x20, 0x20), (0x85, 0x85), (0xA0, 0xA0), (0x1680, 0x1680),
   (0x2000, 0x200A), (0x2028, 0x2029), (0x202F, 0x202F), (0x205F, 0x205F),
   (0x3000, 0x3000)]

/-- A character is blank when its code point lies in one of the `White_Space` ranges. -/
def isBlank (c : Char) : Bool :=
  blankRanges.any fun r => r.1 ≤ c.toNat && c.toNat ≤ r.2

/-- Drops the blank characters at the front. -/
def dropBlank (cs : List Char) : List Char :=
  cs.dropWhile isBlank

/-- Removes blank characters from both ends of a character list. -/
def trimList (cs : List Char) : List Char :=
  (dropBlank (dropBlank cs).reverse).reverse

/-- Removes blank characters from both ends of a text. -/
def trim (s : String) : String :=
  String.ofList (trimList s.toList)

/-- A text is blank when it has only blank characters (the empty text included). -/
def allBlank (s : String) : Bool :=
  s.toList.all isBlank

/-- A text contains a blank character. -/
def hasBlank (s : String) : Bool :=
  s.toList.any isBlank

/-- Lower-cases the ASCII letters `A` to `Z` and leaves every other character alone. -/
def asciiLower (s : String) : String :=
  String.ofList (s.toList.map Char.toLower)

/-! ### Laws -/

/-- The ASCII whitespace of core is blank. -/
theorem isBlank_of_isWhitespace (c : Char) (h : c.isWhitespace = true) : isBlank c = true := by
  simp only [Char.isWhitespace, Bool.or_eq_true, decide_eq_true_eq] at h
  simp only [isBlank, blankRanges, List.any_cons, List.any_nil]
  rcases h with ((h | h) | h) | h <;> subst h <;> decide

example : isBlank ' ' = true ∧ isBlank '　' = true ∧ isBlank '​' = false ∧
    isBlank '﻿' = false ∧ isBlank '᠎' = false := by decide

theorem dropBlank_head (cs : List Char) :
    ∀ c ∈ (dropBlank cs).head?, isBlank c = false := by
  intro c hc
  induction cs with
  | nil => simp [dropBlank] at hc
  | cons d ds ih =>
    by_cases hd : isBlank d = true
    · exact ih (by simpa [dropBlank, List.dropWhile_cons, hd] using hc)
    · simp only [dropBlank, List.dropWhile_cons, hd] at hc
      simp only [Bool.false_eq_true, ↓reduceIte, List.head?_cons, Option.mem_def,
        Option.some.injEq] at hc
      subst hc
      simpa using hd

theorem dropBlank_of_head {cs : List Char} (h : ∀ c ∈ cs.head?, isBlank c = false) :
    dropBlank cs = cs := by
  cases cs with
  | nil => rfl
  | cons d ds =>
    have hd : isBlank d = false := h d rfl
    simp [dropBlank, hd]

theorem dropBlank_dropBlank (cs : List Char) : dropBlank (dropBlank cs) = dropBlank cs :=
  dropBlank_of_head (dropBlank_head cs)

/-- The last character kept by trimming is not blank. -/
theorem getLast?_trimList (cs : List Char) :
    ∀ c ∈ (trimList cs).getLast?, isBlank c = false := by
  intro c hc
  rw [trimList, List.getLast?_reverse] at hc
  exact dropBlank_head _ c hc

/-- The first character kept by trimming is not blank. -/
theorem head?_trimList (cs : List Char) : ∀ c ∈ (trimList cs).head?, isBlank c = false := by
  intro c hc
  rw [trimList, List.head?_reverse] at hc
  -- dropping from the back keeps the front of what is left, which starts with no blank
  have hlast : (dropBlank cs).reverse.getLast? = some c := by
    rw [← List.takeWhile_append_dropWhile (p := isBlank) (l := (dropBlank cs).reverse),
      List.getLast?_append]
    rw [dropBlank] at hc
    rw [hc]
    rfl
  rw [List.getLast?_reverse] at hlast
  exact dropBlank_head cs c hlast

/-- Trimming leaves a list alone when it starts and ends with a character that is not blank. -/
theorem trimList_of_ends {cs : List Char} (hh : ∀ c ∈ cs.head?, isBlank c = false)
    (hl : ∀ c ∈ cs.getLast?, isBlank c = false) : trimList cs = cs := by
  have hl' : ∀ c ∈ cs.reverse.head?, isBlank c = false := by rwa [List.head?_reverse]
  rw [trimList, dropBlank_of_head hh, dropBlank_of_head hl', List.reverse_reverse]

theorem trimList_trimList (cs : List Char) : trimList (trimList cs) = trimList cs :=
  trimList_of_ends (head?_trimList cs) (getLast?_trimList cs)

/-- Trimming keeps only characters of the list. -/
theorem subset_trimList (cs : List Char) : trimList cs ⊆ cs := by
  intro c hc
  rw [trimList, List.mem_reverse] at hc
  have hc' := (List.dropWhile_sublist isBlank).subset hc
  rw [List.mem_reverse] at hc'
  exact (List.dropWhile_sublist isBlank).subset hc'

theorem toList_trim (s : String) : (trim s).toList = trimList s.toList := by
  rw [trim, String.toList_ofList]

/-- **Trimming twice trims once.** -/
@[simp] theorem trim_trim (s : String) : trim (trim s) = trim s := by
  rw [trim, toList_trim, trimList_trimList, trim]

end Warden.Text
