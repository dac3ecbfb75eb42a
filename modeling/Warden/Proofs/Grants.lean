import Warden.Proofs.ItemChecks
import Warden.Proofs.Permission
/-!
# What grants of three parts permit an item check

A grant is cut into parts at `:` and each part into trimmed tokens at `,`. A requested permission
string is cut the same way, and a grant implies it when each of the grant's parts covers the
requested part at its place. A grant shorter than the request says nothing about the parts beyond
its end, so it implies every longer request whose first parts it covers.

The permission of an item check bound to an id is `type:action:id`. Type names and action names
that pass their checks hold no separator, so they are its first two parts; an id is never checked.
Its own separators start further parts, which a grant of three parts does not look at; its commas
cut its first part into several tokens; and each token is trimmed. So a grant of three parts
without `*` implies the permission of an id exactly when its parts hold the tokens of the type
name, of the action and of the part of the id before its first separator (`implies_withId_iff`).
A grant for the id `1234` thus also permits the ids ` 1234`, `1234,1234` and `1234:x`.

Main statement: `item_grants_match_first_id_part`.
-/

namespace Warden

namespace Text

/-- Cutting peels off a first field without separator. -/
theorem fields_append_of_not_mem {sep : Char} {f : List Char} (h : sep ∉ f) (rest : List Char) :
    fields sep (f ++ sep :: rest) = f :: fields sep rest := by
  induction f with
  | nil => simp [fields]
  | cons c cs ih =>
    have hc : c ≠ sep := fun hc => h (by simp [hc])
    have hrest : sep ∉ cs := fun hx => h (by simp [hx])
    rw [List.cons_append, fields, if_neg hc, ih hrest]
    rfl

/-- The first field is everything before the first separator. -/
theorem head?_fields (sep : Char) (cs : List Char) :
    (fields sep cs).head? = some (cs.takeWhile (· != sep)) := by
  induction cs with
  | nil => rfl
  | cons c cs ih =>
    by_cases hc : c = sep
    · simp [fields, hc]
    · -- the character joins the first field of the rest
      obtain ⟨rest, hr⟩ := List.head?_eq_some_iff.1 ih
      simp [fields, hc, hr, consField]

end Text

namespace Grant

/-- The first requested part of a text is the tokens of its text before the first separator. -/
theorem exists_cut_eq_cons (s : String) :
    ∃ rest, cut s = tokens (s.toList.takeWhile (· != separator)) :: rest := by
  have hhead : (cut s).head? = some (tokens (s.toList.takeWhile (· != separator))) := by
    rw [cut, List.head?_map, Text.head?_fields]
    rfl
  exact List.head?_eq_some_iff.1 hhead

/-- **An item permission of separator-free names is cut** into the tokens of the type name, the
tokens of the action and the parts of the id. -/
theorem cut_withId_of {t a : String} (ht : separator ∉ t.toList) (ha : separator ∉ a.toList)
    (i : String) :
    cut ((Permission.of t a).withId (some i)).text = tokens t.toList :: tokens a.toList :: cut i := by
  rw [cut, Permission.toList_withId, Permission.toList_of, Option.getD_some, List.append_assoc,
    List.cons_append]
  -- `cut` writes the separator as a character literal
  change List.map tokens (Text.fields separator _) = _
  rw [Text.fields_append_of_not_mem ht, Text.fields_append_of_not_mem ha]
  rfl

/-- A grant of three parts looks at the first three requested parts only. -/
theorem matchParts_three (g₁ g₂ g₃ w₁ w₂ w₃ : List String) (ws : List (List String)) :
    matchParts [g₁, g₂, g₃] (w₁ :: w₂ :: w₃ :: ws) =
      (covers g₁ w₁ && covers g₂ w₂ && covers g₃ w₃) := by
  cases ws <;> simp [matchParts, Bool.and_assoc]

/-- A part without `*` covers the requested parts whose tokens it all holds. -/
theorem covers_iff_subset {g w : List String} (h : wildcard ∉ g) :
    covers g w = true ↔ w ⊆ g := by
  simp [covers, h, List.subset_def]

/-- **What a grant of three parts without `*` implies of an item permission**: the grant's parts
hold, in order, the tokens of the type name, of the action and of the id's text before its first
separator. -/
theorem implies_withId_iff {g : Grant} (h3 : g.parts.length = 3)
    (hw : ∀ P ∈ g.parts, wildcard ∉ P) {t a : String} (ht : separator ∉ t.toList)
    (ha : separator ∉ a.toList) (i : String) :
    g.implies ((Permission.of t a).withId (some i)).text = true ↔
      ∃ P₁ P₂ P₃, g.parts = [P₁, P₂, P₃] ∧ tokens t.toList ⊆ P₁ ∧ tokens a.toList ⊆ P₂ ∧
        tokens (i.toList.takeWhile (· != separator)) ⊆ P₃ := by
  obtain ⟨P₁, P₂, P₃, hg⟩ := List.length_eq_three.1 h3
  obtain ⟨rest, hrest⟩ := exists_cut_eq_cons i
  have h₁ : wildcard ∉ P₁ := hw P₁ (by simp [hg])
  have h₂ : wildcard ∉ P₂ := hw P₂ (by simp [hg])
  have h₃ : wildcard ∉ P₃ := hw P₃ (by simp [hg])
  rw [implies, hg, cut_withId_of ht ha, hrest, matchParts_three]
  simp [covers_iff_subset h₁, covers_iff_subset h₂, covers_iff_subset h₃, and_assoc]

end Grant

/-- **A principal whose grants have three parts without `*`** holds an item permission of
separator-free names exactly when one of its grants holds, part by part, the tokens of the type
name, of the action and of the id's text before its first separator. -/
theorem Principal.permits_withId_iff {p : Principal}
    (hp : ∀ g ∈ p.grants, g.parts.length = 3 ∧ ∀ P ∈ g.parts, wildcard ∉ P) {t a : String}
    (ht : separator ∉ t.toList) (ha : separator ∉ a.toList) (i : String) :
    p.permits ((Permission.of t a).withId (some i)).text = true ↔
      ∃ g ∈ p.grants, ∃ P₁ P₂ P₃, g.parts = [P₁, P₂, P₃] ∧ Grant.tokens t.toList ⊆ P₁ ∧
        Grant.tokens a.toList ⊆ P₂ ∧ Grant.tokens (i.toList.takeWhile (· != separator)) ⊆ P₃ := by
  rw [permits, List.any_eq_true]
  exact exists_congr fun g =>
    and_congr_right fun hg => Grant.implies_withId_iff (hp g hg).1 (hp g hg).2 ht ha i

/-- **The item accessor of a schema built without bindings** hands out, for a declared item
action, the item check of `type:action` with the pass-through hooks, at once. -/
theorem Surface.item_of_bindings_nil {m : Type → Type} [Monad m] [LawfulMonad m] {α : Type}
    {p : Plan (Guard m α)} {M : Schema (Guard m α)} (hn : p.bindings = []) (hb : p.build = .ok M)
    (subj : Subject m) {a : String} (ha : (.item, a) ∈ p.actions) :
    (⟨M⟩ : Surface m α).item subj a =
      pure (.ok ⟨Permission.of p.typeName a, subj, Hooks.passThrough⟩) := by
  rw [Surface.item_of_build hb, if_pos ha, Plan.guard_guardFor_of_bindings_nil hn hb]
  simp [Guard.passThrough]

/-- **Grants of three parts match an item check on the id's first part.** Take a principal whose
grants each have three parts and no `*` token, a schema built without guard bindings and a
declared item action. The surface hands out the item check of the action at once, and for every
id its check passes exactly when it is permitted, which is exactly when some grant holds, part by
part, every trimmed `,`-token of the type name, of the action and of the id's text before its first
`:`. -/
theorem item_grants_match_first_id_part {α : Type} [Identified α] {pl : Plan (Guard Id α)}
    {M : Schema (Guard Id α)} (hb : pl.build = .ok M) (hn : pl.bindings = []) {a : String}
    (ha : (.item, a) ∈ pl.actions) (p : Principal)
    (hp : ∀ g ∈ p.grants, g.parts.length = 3 ∧ ∀ P ∈ g.parts, wildcard ∉ P) :
    ∃ c, (⟨M⟩ : Surface Id α).item p.subject a = pure (.ok c) ∧ ∀ i : String,
      (c.check i = .ok () ↔ c.isPermitted i = true) ∧
      (c.isPermitted i = true ↔ ∃ g ∈ p.grants, ∃ P₁ P₂ P₃, g.parts = [P₁, P₂, P₃] ∧
        Grant.tokens pl.typeName.toList ⊆ P₁ ∧ Grant.tokens a.toList ⊆ P₂ ∧
        Grant.tokens (i.toList.takeWhile (· != separator)) ⊆ P₃) := by
  refine ⟨_, Surface.item_of_bindings_nil hn hb p.subject ha, fun i => ?_⟩
  -- the type name and the action passed their checks, so neither holds a separator
  have ht : separator ∉ pl.typeName.toList :=
    separator_not_mem_of_checkTypeName (Plan.accepted_of_build hb).1
  have hact : separator ∉ a.toList :=
    separator_not_mem_of_checkName ((Plan.accepted_of_build hb).2 _ ha)
  have hd : (ItemCheck.forId ⟨Permission.of pl.typeName a, p.subject, Hooks.passThrough⟩ i :
      Check Id α).Delegates := Check.delegates_of_passThrough _ _ _
  refine ⟨Check.run_eq_ok_iff hd, ?_⟩
  rw [ItemCheck.isPermitted, hd.2]
  exact Principal.permits_withId_iff hp ht hact i

/-- The grant of reading the repository `1234`, as parsed. -/
def readGrant1234 : Grant :=
  ⟨"repositories:read:1234", [["repositories"], ["read"], ["1234"]]⟩

/-- The repository schema without its guard binding. -/
def unboundRepositoryPlan : Plan (Guard Id Repository) :=
  { repositoryPlan (m := Id) with bindings := [] }

/-- The repository schema without its binding, read by a principal granted the repository `1234`
alone: a check of reading an id passes exactly when it is permitted, exactly when the grant holds
the tokens of the type, of `read` and of the id's first part. -/
theorem item_grants_match_first_id_part_repositories :
    ∃ M, unboundRepositoryPlan.build = .ok M ∧ unboundRepositoryPlan.bindings = [] ∧
      (.item, "read") ∈ unboundRepositoryPlan.actions ∧
      (∀ g ∈ [readGrant1234], g.parts.length = 3 ∧ ∀ P ∈ g.parts, wildcard ∉ P) ∧
      ∃ c, (⟨M⟩ : Surface Id Repository).item (Principal.subject ⟨[readGrant1234]⟩) "read" =
          pure (.ok c) ∧ ∀ i : String,
        (c.check i = .ok () ↔ c.isPermitted i = true) ∧
        (c.isPermitted i = true ↔ ∃ g ∈ [readGrant1234], ∃ P₁ P₂ P₃, g.parts = [P₁, P₂, P₃] ∧
          Grant.tokens unboundRepositoryPlan.typeName.toList ⊆ P₁ ∧
          Grant.tokens "read".toList ⊆ P₂ ∧
          Grant.tokens (i.toList.takeWhile (· != separator)) ⊆ P₃) := by
  obtain ⟨M, hM⟩ : ∃ M, unboundRepositoryPlan.build = .ok M := ⟨_, rfl⟩
  exact ⟨M, hM, rfl, by decide, by decide,
    item_grants_match_first_id_part hM rfl (by decide) ⟨[readGrant1234]⟩ (by decide)⟩

/-- **A grant for one item permits another id.** The grant `repositories:read:1234` has three
parts and no `*`, and yet, in the repository schema without its binding, it permits reading the
id `1234:x`, which its third part does not hold: the id's separator starts a fourth part, which the
grant does not look at. -/
theorem item_grant_permits_longer_id :
    Grant.parse "repositories:read:1234" = .ok readGrant1234 ∧
      readGrant1234.parts.length = 3 ∧ (∀ P ∈ readGrant1234.parts, wildcard ∉ P) ∧
      ∃ M, unboundRepositoryPlan.build = .ok M ∧
        ∃ c, (⟨M⟩ : Surface Id Repository).item (Principal.subject ⟨[readGrant1234]⟩) "read" =
            pure (.ok c) ∧
          Id.run (c.isPermitted "1234:x") = true ∧ "1234:x" ∉ readGrant1234.parts.getD 2 [] := by
  obtain ⟨M, hM⟩ : ∃ M, unboundRepositoryPlan.build = .ok M := ⟨_, rfl⟩
  exact ⟨by decide, rfl, by decide, M, hM, _,
    Surface.item_of_bindings_nil rfl hM _ (by decide), by decide, by decide⟩

end Warden
