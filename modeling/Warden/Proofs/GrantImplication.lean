import Warden.Proofs.GrantParsing
/-!
# What a grant implies

A grant implies a requested permission string when its parts cover the request's parts. Matching
walks both lists of parts at once, and this file reads it place by place (`Grant.Placewise`): at
each place that both reach, the grant's part holds `*` or every requested token; at each place
beyond the end of the request, the grant's part holds `*`; places beyond the end of the grant ask
nothing (`implies_iff_placewise`).

Two laws follow. A grant that implies a request implies every request below it, that is the
request with further parts after a `:` (`implies_extend_request`): a principal permitted the
global permission `type:action` is permitted every item permission `type:action:id`. And
implication is transitive through a parsed grant's own text, while a parsed grant implies its own
text exactly when each of its segments holds `*` or has no blank token (`implies_preorder`). The
asymmetry behind both halves of the last law is that parsing drops blank tokens, which a request
keeps: a parsed grant's parts are its own requested parts with fewer tokens
(`Grant.parts_eq_of_parse`).
-/

namespace Warden

namespace Grant

/-- A grant part covers a requested part when it holds `*` or every requested token. -/
theorem covers_iff {P W : List String} : covers P W = true ↔ wildcard ∈ P ∨ W ⊆ P := by
  simp [covers, List.subset_def]

/-! ### Place by place -/

/-- **Implication read place by place.** At each place where both the grant and the request have
a part, the grant's part holds `*` or every requested token; at each place where only the grant
has one, it holds `*`. -/
def Placewise (G R : List (List String)) : Prop :=
  (∀ j : Nat, ∀ P ∈ G[j]?, ∀ W ∈ R[j]?, wildcard ∈ P ∨ W ⊆ P) ∧
  ∀ j : Nat, ∀ P ∈ G[j]?, R.length ≤ j → wildcard ∈ P

/-- Against an empty request, every grant part holds `*`. -/
theorem placewise_nil_right {G : List (List String)} :
    Placewise G [] ↔ ∀ P ∈ G, wildcard ∈ P := by
  constructor
  · intro h P hP
    obtain ⟨j, hj⟩ := List.mem_iff_getElem?.1 hP
    exact h.2 j P hj (Nat.zero_le j)
  · intro h
    exact ⟨fun j P _ W hW => by simp at hW,
      fun j P hP _ => h P (List.mem_of_getElem? hP)⟩

/-- A grant without parts asks nothing of any request. -/
theorem placewise_nil_left {R : List (List String)} : Placewise [] R :=
  ⟨fun j P hP => by simp at hP, fun j P hP => by simp at hP⟩

/-- The first place, then the rest shifted by one. -/
theorem placewise_cons {P W : List String} {Ps Ws : List (List String)} :
    Placewise (P :: Ps) (W :: Ws) ↔ (wildcard ∈ P ∨ W ⊆ P) ∧ Placewise Ps Ws := by
  constructor
  · rintro ⟨hcov, htail⟩
    refine ⟨hcov 0 P rfl W rfl, fun j Q hQ V hV => hcov (j + 1) Q hQ V hV,
      fun j Q hQ hlen => htail (j + 1) Q hQ (by simpa using hlen)⟩
  · rintro ⟨hPW, hcov, htail⟩
    refine ⟨fun j Q hQ V hV => ?_, fun j Q hQ hlen => ?_⟩
    · cases j with
      | zero =>
        simp at hQ hV
        subst hQ hV
        exact hPW
      | succ j => exact hcov j Q hQ V hV
    · cases j with
      | zero => simp at hlen
      | succ j => exact htail j Q hQ (by simpa using hlen)

/-- **Matching is the place-by-place reading.** -/
theorem matchParts_iff_placewise (G R : List (List String)) :
    matchParts G R = true ↔ Placewise G R := by
  fun_induction matchParts G R with
  | case1 G => simp [placewise_nil_right]
  | case2 W Ws => simp [placewise_nil_left]
  | case3 P Ps W Ws ih => simp [covers_iff, ih, placewise_cons]

end Grant

/-- **What a grant implies, place by place.** A grant implies a request exactly when, cutting the
request at `:` into segments and each segment at `,` into trimmed tokens (blank ones kept), each
grant part at a place the request reaches holds `*` or every requested token there, and each grant
part beyond the end of the request holds `*`. A principal is permitted a permission exactly when
one of its grants implies the permission's text. -/
theorem implies_iff_placewise :
    (∀ (g : Grant) (r : String), g.implies r = true ↔
      Grant.Placewise g.parts
        ((Text.fieldsOf ':' r).map fun seg => (Text.fieldsOf ',' seg).map Text.trim)) ∧
    ∀ (p : Principal) (q : Permission),
      Id.run (p.subject.permits q) = true ↔ ∃ g ∈ p.grants, g.implies q.text = true :=
  ⟨fun g r => by rw [Grant.implies, Grant.cut_eq, Grant.matchParts_iff_placewise],
    fun _ _ => List.any_eq_true⟩

/-! ### Requests below an implied one -/

namespace Grant

/-- A grant whose parts all hold `*` implies every request. -/
theorem matchParts_of_forall_wildcard {G : List (List String)} (h : ∀ P ∈ G, wildcard ∈ P)
    (R : List (List String)) : matchParts G R = true := by
  rw [matchParts_iff_placewise]
  exact ⟨fun j P hP _ _ => .inl (h P (List.mem_of_getElem? hP)),
    fun j P hP _ => h P (List.mem_of_getElem? hP)⟩

/-- Parts added after an implied request are implied too. -/
theorem matchParts_append {G R : List (List String)} (h : matchParts G R = true)
    (X : List (List String)) : matchParts G (R ++ X) = true := by
  fun_induction matchParts G R with
  | case1 G =>
    -- the request ended first: the grant's remaining parts all hold `*`
    exact matchParts_of_forall_wildcard (by simpa using h) X
  | case2 W Ws => simp [matchParts]
  | case3 P Ps W Ws ih =>
    simp only [Bool.and_eq_true] at h
    simp only [List.cons_append, matchParts, h.1, ih h.2, Bool.and_self]

/-- Joining two texts with `:` joins their requested parts. -/
theorem cut_append_separator (r x : String) : cut (r ++ ":" ++ x) = cut r ++ cut x := by
  simp only [cut, String.toList_append]
  rw [List.append_assoc, show (":" : String).toList = [':'] from rfl, List.singleton_append,
    Text.fields_append_sep, List.map_append]

theorem implies_append_separator {g : Grant} {r : String} (h : g.implies r = true) (x : String) :
    g.implies (r ++ ":" ++ x) = true := by
  rw [implies, cut_append_separator]
  exact matchParts_append h _

end Grant

/-- **A grant implies everything below what it implies.** If a grant implies a request, it
implies the request followed by `:` and any text. So a principal permitted the global permission
`type:action` is permitted the item permission `type:action:id` of every id. -/
theorem implies_extend_request :
    (∀ (g : Grant) (r x : String), g.implies r = true → g.implies (r ++ ":" ++ x) = true) ∧
    ∀ (p : Principal) (t a i : String), Id.run (p.subject.permits (Permission.of t a)) = true →
      Id.run (p.subject.permits ((Permission.of t a).withId (some i))) = true := by
  refine ⟨fun g r x h => Grant.implies_append_separator h x, fun p t a i h => ?_⟩
  obtain ⟨g, hg, himp⟩ := List.any_eq_true.1 h
  -- the item permission is the global one with the id as one more part
  have hid : ((Permission.of t a).withId (some i)).text = (Permission.of t a).text ++ ":" ++ i := by
    rw [Permission.withId_text, Option.getD_some]
  show p.permits ((Permission.of t a).withId (some i)).text = true
  rw [hid]
  exact List.any_eq_true.2 ⟨g, hg, Grant.implies_append_separator himp i⟩

/-- The grant of deleting repositories, as parsed. -/
def deleteGrant : Grant :=
  ⟨"repositories:delete", [["repositories"], ["delete"]]⟩

/-- The grant `repositories:delete` implies deleting the repository `1234`, and a principal that
holds it, permitted deleting repositories, is permitted deleting the repository `1234`. -/
theorem implies_extend_request_delete :
    deleteGrant.implies "repositories:delete" = true ∧
      deleteGrant.implies ("repositories:delete" ++ ":" ++ "1234") = true ∧
      Id.run ((Principal.subject ⟨[deleteGrant]⟩).permits
        (Permission.of "repositories" "delete")) = true ∧
      Id.run ((Principal.subject ⟨[deleteGrant]⟩).permits
        ((Permission.of "repositories" "delete").withId (some "1234"))) = true := by
  have hg : deleteGrant.implies "repositories:delete" = true := by decide
  have hp : Id.run ((Principal.subject ⟨[deleteGrant]⟩).permits
      (Permission.of "repositories" "delete")) = true := by decide
  exact ⟨hg, implies_extend_request.1 _ _ "1234" hg, hp,
    implies_extend_request.2 _ _ _ "1234" hp⟩

/-! ### Implication through a grant's own text -/

namespace Grant

/-- Covering passes through a part with fewer tokens than one that is covered. -/
theorem covers_trans {P Q Q' W : List String} (hPQ : covers P Q = true) (hQ' : Q' ⊆ Q)
    (hQ'W : covers Q' W = true) : covers P W = true := by
  rw [covers_iff] at *
  rcases hPQ with hP | hQP
  · exact .inl hP
  · rcases hQ'W with hQ'' | hWQ'
    · exact .inl (hQP (hQ' hQ''))
    · exact .inr (List.Subset.trans (List.Subset.trans hWQ' hQ') hQP)

/-- **Matching is transitive through parts with tokens dropped**: if `G` matches the parts `L`,
and `L` with some tokens dropped matches `R`, then `G` matches `R`. -/
theorem matchParts_trans {p : String → Bool} {G L R : List (List String)}
    (hGL : matchParts G L = true) (hLR : matchParts (L.map (·.filter p)) R = true) :
    matchParts G R = true := by
  induction L generalizing G R with
  | nil => exact matchParts_of_forall_wildcard (by simpa [matchParts] using hGL) R
  | cons Q Qs ih =>
    cases G with
    | nil => cases R <;> simp [matchParts]
    | cons P Ps =>
      simp only [matchParts, Bool.and_eq_true] at hGL
      cases R with
      | nil =>
        -- the request ends before the middle parts do, so these hold `*` from here on
        have hLR' : wildcard ∈ Q.filter p ∧ matchParts (Qs.map (·.filter p)) [] = true := by
          simpa [matchParts] using hLR
        have hP : wildcard ∈ P := by
          rcases covers_iff.1 hGL.1 with hP | hQP
          · exact hP
          · exact hQP (List.mem_filter.1 hLR'.1).1
        have hPs : matchParts Ps [] = true := ih hGL.2 hLR'.2
        simpa [matchParts, hP] using hPs
      | cons W Ws =>
        simp only [List.map_cons, matchParts, Bool.and_eq_true] at hLR ⊢
        exact ⟨covers_trans hGL.1 (List.filter_sublist).subset hLR.1, ih hGL.2 hLR.2⟩

/-- Parts with tokens dropped match the parts they came from exactly when each part holds `*`
after dropping or had no token to drop. -/
theorem matchParts_filter_self (p : String → Bool) (L : List (List String)) :
    matchParts (L.map (·.filter p)) L = true ↔
      ∀ W ∈ L, wildcard ∈ W.filter p ∨ ∀ t ∈ W, p t = true := by
  induction L with
  | nil => simp [matchParts]
  | cons W Ws ih =>
    have hsub : W ⊆ W.filter p ↔ ∀ t ∈ W, p t = true :=
      ⟨fun h t ht => (List.mem_filter.1 (h ht)).2, fun h t ht => List.mem_filter.2 ⟨ht, h t ht⟩⟩
    simp only [List.map_cons, matchParts, Bool.and_eq_true, covers_iff, hsub, ih,
      List.forall_mem_cons]

end Grant

/-- **Implication is a preorder through a grant's own text.** For parsed grants `g` and `h`: if
`g` implies the text of `h` and `h` implies a request, then `g` implies it; and `g` implies its own
text exactly when each `:`-segment of that text holds the token `*` or has no `,`-token that trims
to nothing. -/
theorem implies_preorder {s t : String} {g h : Grant} (hg : Grant.parse s = .ok g)
    (hh : Grant.parse t = .ok h) :
    (∀ r, g.implies h.raw = true → h.implies r = true → g.implies r = true) ∧
    (g.implies g.raw = true ↔ ∀ seg ∈ Text.fieldsOf ':' g.raw,
      wildcard ∈ (Text.fieldsOf ',' seg).map Text.trim ∨
        ∀ tok ∈ Text.fieldsOf ',' seg, Text.trim tok ≠ "") := by
  refine ⟨fun r hgh hhr => ?_, ?_⟩
  · -- the parts of `h` are the requested parts of its text less the blank tokens
    rw [Grant.implies, Grant.parts_eq_of_parse hh] at hhr
    exact Grant.matchParts_trans hgh hhr
  · rw [Grant.implies, Grant.parts_eq_of_parse hg, Grant.matchParts_filter_self, Grant.cut_eq]
    simp [List.mem_filter, wildcard]

/-- The grant of every action on repositories, as parsed. -/
def anyRepositoryGrant : Grant :=
  ⟨"repositories:*", [["repositories"], ["*"]]⟩

/-- The grant of reading the repository `1234`, written with a blank token, as parsed. -/
def readBlankTokenGrant : Grant :=
  ⟨"repositories:read,:1234", [["repositories"], ["read"], ["1234"]]⟩

/-- Both grants parse, and implication runs through them as the preorder says. -/
theorem implies_preorder_repositories :
    Grant.parse "repositories:*" = .ok anyRepositoryGrant ∧
      Grant.parse "repositories:read,:1234" = .ok readBlankTokenGrant ∧
      (∀ r, anyRepositoryGrant.implies readBlankTokenGrant.raw = true →
        readBlankTokenGrant.implies r = true → anyRepositoryGrant.implies r = true) ∧
      (anyRepositoryGrant.implies anyRepositoryGrant.raw = true ↔
        ∀ seg ∈ Text.fieldsOf ':' anyRepositoryGrant.raw,
          wildcard ∈ (Text.fieldsOf ',' seg).map Text.trim ∨
            ∀ tok ∈ Text.fieldsOf ',' seg, Text.trim tok ≠ "") := by
  have hg : Grant.parse "repositories:*" = .ok anyRepositoryGrant := by decide
  have hh : Grant.parse "repositories:read,:1234" = .ok readBlankTokenGrant := by decide
  exact ⟨hg, hh, implies_preorder hg hh⟩

/-- A blank token that parsing dropped comes back in the grant's own text as a request token,
which no part holds: `a:b,` does not imply itself. -/
example : Grant.parse "a:b," = .ok ⟨"a:b,", [["a"], ["b"]]⟩ ∧
    Grant.implies ⟨"a:b,", [["a"], ["b"]]⟩ "a:b," = false := by decide

end Warden
