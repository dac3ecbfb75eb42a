import Warden.Principal.Decode
import Mathlib.Data.List.Basic
/-!
# What parsing a grant gives, and reading it back

Parsing a grant trims its text, cuts it at `:` into segments and each segment at `,` into tokens,
trims the tokens and drops the blank ones. Said on texts (`parse_eq_spec`): a text that trims to
nothing is refused as empty; one with a segment whose tokens all trim to nothing is refused as
having an empty part, and the error names the trimmed text; any other text gives the grant whose
text is the trimmed text and whose parts are the segments' non-blank trimmed tokens.

So every part of a parsed grant has a token, and every token is non-empty, its own trim and free
of `:` and `,` (`tokens_of_parse`). Parsing sees a text only through its trim, and trimming twice
trims once, so a parsed grant parses back from its own text (`parse_raw`), and a principal of
parsed grants written as JSON reads back as itself (`ofJson_toJson`).

Main statement: `grant_parse_round_trip`.
-/

namespace Warden

namespace Grant

/-- The tokens of a part, said on texts: its `,`-fields, trimmed. -/
theorem tokens_eq (part : List Char) :
    tokens part = (Text.fieldsOf ',' (String.ofList part)).map Text.trim := by
  simp [tokens, Text.fieldsOf, Text.trim, String.toList_ofList]

/-- **The requested parts of a text**: its `:`-segments, each cut at `,` into trimmed tokens,
blank tokens kept. -/
theorem cut_eq (s : String) :
    cut s = (Text.fieldsOf ':' s).map fun seg => (Text.fieldsOf ',' seg).map Text.trim := by
  simp [cut, Text.fieldsOf, tokens_eq]

theorem not_isEmpty_eq (t : String) : (!t.isEmpty) = decide (t ≠ "") := by
  cases h : t.isEmpty <;> simp_all [String.isEmpty_iff]

/-- **Parsing a grant, said on texts.** -/
theorem parse_eq_spec (s : String) :
    parse s =
      if Text.trim s = "" then .error .empty
      else if ∃ seg ∈ Text.fieldsOf ':' (Text.trim s), ∀ t ∈ Text.fieldsOf ',' seg, Text.trim t = ""
        then .error (.emptyPart (Text.trim s))
      else .ok ⟨Text.trim s, (Text.fieldsOf ':' (Text.trim s)).map fun seg =>
        ((Text.fieldsOf ',' seg).map Text.trim).filter (· ≠ "")⟩ := by
  simp only [parse, cut_eq, not_isEmpty_eq, String.isEmpty_iff]
  by_cases h : Text.trim s = ""
  · simp [h]
  · -- a part is left without tokens exactly when each token of its segment trims to nothing
    simp [h, List.filter_eq_nil_iff, Function.comp_def]

theorem parse_eq_error_empty_iff (s : String) : parse s = .error .empty ↔ Text.trim s = "" := by
  rw [parse_eq_spec]
  by_cases h : Text.trim s = ""
  · simp [h]
  · by_cases hb : ∃ seg ∈ Text.fieldsOf ':' (Text.trim s),
        ∀ t ∈ Text.fieldsOf ',' seg, Text.trim t = "" <;> simp [h, hb]

theorem parse_eq_error_emptyPart_iff (s : String) :
    parse s = .error (.emptyPart (Text.trim s)) ↔ Text.trim s ≠ "" ∧
      ∃ seg ∈ Text.fieldsOf ':' (Text.trim s), ∀ t ∈ Text.fieldsOf ',' seg, Text.trim t = "" := by
  rw [parse_eq_spec]
  by_cases h : Text.trim s = ""
  · simp [h]
  · by_cases hb : ∃ seg ∈ Text.fieldsOf ':' (Text.trim s),
        ∀ t ∈ Text.fieldsOf ',' seg, Text.trim t = "" <;> simp [h, hb]

theorem parse_eq_ok_iff (s : String) (g : Grant) :
    parse s = .ok g ↔ Text.trim s ≠ "" ∧
      (∀ seg ∈ Text.fieldsOf ':' (Text.trim s), ∃ t ∈ Text.fieldsOf ',' seg, Text.trim t ≠ "") ∧
      g.raw = Text.trim s ∧ g.parts = (Text.fieldsOf ':' (Text.trim s)).map fun seg =>
        ((Text.fieldsOf ',' seg).map Text.trim).filter (· ≠ "") := by
  rw [parse_eq_spec]
  by_cases h : Text.trim s = ""
  · simp [h]
  · rw [if_neg h]
    by_cases hb : ∃ seg ∈ Text.fieldsOf ':' (Text.trim s),
        ∀ t ∈ Text.fieldsOf ',' seg, Text.trim t = ""
    · -- a segment of blank tokens: parsing fails, and no token of that segment is left
      rw [if_pos hb]
      obtain ⟨seg, hseg, hblank⟩ := hb
      refine iff_of_false (by simp) fun ⟨_, hall, _⟩ => ?_
      obtain ⟨t, ht, hnb⟩ := hall seg hseg
      exact hnb (hblank t ht)
    · rw [if_neg hb]
      have hall : ∀ seg ∈ Text.fieldsOf ':' (Text.trim s),
          ∃ t ∈ Text.fieldsOf ',' seg, Text.trim t ≠ "" := by simpa using hb
      obtain ⟨raw, parts⟩ := g
      simp only [Except.ok.injEq, Grant.mk.injEq]
      constructor
      · intro ⟨hraw, hparts⟩
        exact ⟨h, hall, hraw.symm, hparts.symm⟩
      · intro ⟨_, _, hraw, hparts⟩
        exact ⟨hraw.symm, hparts.symm⟩

/-- The parts of a parsed grant are the requested parts of its text, less the blank tokens. -/
theorem parts_eq_of_parse {s : String} {g : Grant} (h : parse s = .ok g) :
    g.parts = (cut g.raw).map (·.filter (· ≠ "")) := by
  obtain ⟨-, -, hraw, hparts⟩ := (parse_eq_ok_iff s g).1 h
  rw [hparts, hraw, cut_eq, List.map_map]
  rfl

/-- **The tokens of a parsed grant**: every part has one, and each is non-empty, its own trim and
free of `:` and `,`. -/
theorem tokens_of_parse {s : String} {g : Grant} (h : parse s = .ok g) :
    ∀ P ∈ g.parts, P ≠ [] ∧
      ∀ t ∈ P, t ≠ "" ∧ Text.trim t = t ∧ ':' ∉ t.toList ∧ ',' ∉ t.toList := by
  obtain ⟨-, hall, -, hparts⟩ := (parse_eq_ok_iff s g).1 h
  intro P hP
  rw [hparts, List.mem_map] at hP
  obtain ⟨seg, hseg, rfl⟩ := hP
  refine ⟨?_, ?_⟩
  · -- some token of the segment is not blank, and it is kept
    obtain ⟨t, ht, hnb⟩ := hall seg hseg
    exact List.ne_nil_of_mem (List.mem_filter.2 ⟨List.mem_map_of_mem ht, by simpa using hnb⟩)
  · intro t ht
    obtain ⟨htm, hne⟩ := List.mem_filter.1 ht
    obtain ⟨u, hu, rfl⟩ := List.mem_map.1 htm
    have hseg' := Text.mem_fieldsOf hseg
    have hu' := Text.mem_fieldsOf hu
    have hsub : (Text.trim u).toList ⊆ u.toList := by
      rw [Text.toList_trim]
      exact Text.subset_trimList _
    exact ⟨by simpa using hne, Text.trim_trim u, fun hc => hseg'.1 (hu'.2 (hsub hc)),
      fun hc => hu'.1 (hsub hc)⟩

/-- Parsing sees a text only through its trim. -/
theorem parse_trim (s : String) : parse (Text.trim s) = parse s := by
  simp only [parse, Text.trim_trim]

/-- **A parsed grant parses back from its own text.** -/
theorem parse_raw {s : String} {g : Grant} (h : parse s = .ok g) : parse g.raw = .ok g := by
  rw [((parse_eq_ok_iff s g).1 h).2.2.1, parse_trim, h]

end Grant

/-- Reading the texts of grants that parse back from them gives those grants, after the ones
read before. -/
theorem grantsOfJson_raws (gs : List Grant) (h : ∀ g ∈ gs, Grant.parse g.raw = .ok g)
    (acc : List Grant) : grantsOfJson (gs.map fun g => .str g.raw) acc = .ok ⟨acc ++ gs⟩ := by
  induction gs generalizing acc with
  | nil => simp [grantsOfJson]
  | cons g gs ih =>
    rw [List.map_cons, grantsOfJson, h g List.mem_cons_self]
    simp only
    rw [ih (fun g' hg' => h g' (List.mem_cons_of_mem g hg')), List.append_assoc,
      List.singleton_append]

/-- **A principal of parsed grants reads back from its JSON form.** -/
theorem Principal.ofJson_toJson {p : Principal} (h : ∀ g ∈ p.grants, ∃ s, Grant.parse s = .ok g) :
    Principal.ofJson p.toJson = .ok p := by
  have hraw : ∀ g ∈ p.grants, Grant.parse g.raw = .ok g := fun g hg =>
    Grant.parse_raw (h g hg).choose_spec
  have hread := grantsOfJson_raws p.grants hraw []
  rw [List.nil_append] at hread
  -- the written object has the one member `grants`, read as an array of grant texts
  simpa [Principal.toJson, Principal.ofJson, Json.strs, grantListOfJson, Function.comp_def]
    using hread

/-- **Grants parse exactly as their text says, and read back from it.** A text that trims to
nothing is refused as empty; a text with a `:`-segment whose `,`-tokens all trim to nothing is
refused as having an empty part, named by the trimmed text; every other text gives the grant whose
text is the trimmed text and whose parts are the non-blank trimmed tokens of its segments. Every
part of a parsed grant has a token, each token is non-empty, its own trim and free of `:` and `,`,
and the grant parses back from its text; so a principal of parsed grants, written as JSON, reads
back as itself. -/
theorem grant_parse_round_trip :
    (∀ s : String,
      (Grant.parse s = .error .empty ↔ Text.trim s = "") ∧
      (Grant.parse s = .error (.emptyPart (Text.trim s)) ↔ Text.trim s ≠ "" ∧
        ∃ seg ∈ Text.fieldsOf ':' (Text.trim s), ∀ t ∈ Text.fieldsOf ',' seg, Text.trim t = "") ∧
      ∀ g, Grant.parse s = .ok g ↔ Text.trim s ≠ "" ∧
        (∀ seg ∈ Text.fieldsOf ':' (Text.trim s), ∃ t ∈ Text.fieldsOf ',' seg, Text.trim t ≠ "") ∧
        g.raw = Text.trim s ∧ g.parts = (Text.fieldsOf ':' (Text.trim s)).map fun seg =>
          ((Text.fieldsOf ',' seg).map Text.trim).filter (· ≠ "")) ∧
    (∀ s g, Grant.parse s = .ok g →
      (∀ P ∈ g.parts, P ≠ [] ∧
        ∀ t ∈ P, t ≠ "" ∧ Text.trim t = t ∧ ':' ∉ t.toList ∧ ',' ∉ t.toList) ∧
      Grant.parse g.raw = .ok g) ∧
    ∀ p : Principal, (∀ g ∈ p.grants, ∃ s, Grant.parse s = .ok g) →
      Principal.ofJson p.toJson = .ok p :=
  ⟨fun s => ⟨Grant.parse_eq_error_empty_iff s, Grant.parse_eq_error_emptyPart_iff s,
      Grant.parse_eq_ok_iff s⟩,
    fun _ _ h => ⟨Grant.tokens_of_parse h, Grant.parse_raw h⟩,
    fun _ h => Principal.ofJson_toJson h⟩

/-- The principal of the grants `repositories:read, modify:*` and `groups`, as parsed. -/
def readModifyPrincipal : Principal :=
  ⟨[⟨"repositories:read, modify:*", [["repositories"], ["read", "modify"], ["*"]]⟩,
    ⟨"groups", [["groups"]]⟩]⟩

/-- The grants of `readModifyPrincipal` are parsed from padded texts, and the principal reads
back from its JSON form. -/
theorem grant_parse_round_trip_padded :
    (∀ g ∈ readModifyPrincipal.grants, ∃ s, Grant.parse s = .ok g) ∧
      Principal.ofJson readModifyPrincipal.toJson = .ok readModifyPrincipal := by
  have hp : ∀ g ∈ readModifyPrincipal.grants, ∃ s, Grant.parse s = .ok g := by
    intro g hg
    simp only [readModifyPrincipal, List.mem_cons, List.not_mem_nil, or_false] at hg
    rcases hg with rfl | rfl
    · exact ⟨"  repositories:read, modify:*\n", by decide⟩
    · exact ⟨"groups ", by decide⟩
  exact ⟨hp, grant_parse_round_trip.2.2 readModifyPrincipal hp⟩

end Warden
