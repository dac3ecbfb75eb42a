import Warden.Proofs.Build
import Mathlib.Data.List.TakeWhile
/-!
# Why a build fails

A build fails for one of three reasons, checked in this order: the resource type name is
refused, a declaration step names a refused action, or the build is strict and records a
diagnostic. The error says which. A refused type name gives its own error: `emptyTypeId` for a
name that trims to nothing, else the separator fault, else the blank fault. A refused step gives
the error of the first refused step in step order, whatever its scope. A strict build refuses
the first diagnostic it records. Guard bindings name actions that are never checked, so they
take part only in the strict refusal.

The steps are declared one at a time and the first refused name ends the run
(`declare_eq_error_iff`); whether a declaration is refused depends on its name alone
(`Catalog.add_eq_error_iff`), never on the catalog it is added to.

Main statement: `build_failure`.
-/

namespace Warden

/-! ### Refused names -/

namespace Text

theorem forall_blank_dropBlank_iff (cs : List Char) :
    (∀ c ∈ dropBlank cs, isBlank c = true) ↔ dropBlank cs = [] := by
  constructor
  · intro h
    cases hd : dropBlank cs with
    | nil => rfl
    | cons d ds =>
      -- the first character that is left is not blank
      have hnb : isBlank d = false := dropBlank_head cs d (by simp [hd])
      have hb : isBlank d = true := h d (by simp [hd])
      rw [hnb] at hb
      cases hb
  · intro h c hc
    rw [h] at hc
    cases hc

/-- **A text trims to nothing exactly when it is all blank.** -/
theorem trim_eq_empty_iff (s : String) : trim s = "" ↔ allBlank s = true := by
  have hlist : trimList s.toList = [] ↔ ∀ c ∈ s.toList, isBlank c = true := by
    rw [trimList, List.reverse_eq_nil_iff, dropBlank, List.dropWhile_eq_nil_iff]
    simp only [List.mem_reverse]
    rw [forall_blank_dropBlank_iff, dropBlank, List.dropWhile_eq_nil_iff]
  rw [trim, ← String.toList_inj, String.toList_ofList, String.toList_empty, hlist, allBlank,
    List.all_eq_true]

end Text

/-- **Why a type name is refused**: it trims to nothing; else it holds the separator; else it
holds a blank character. -/
theorem checkTypeName_eq_error_iff (t : String) (e : SchemaError) :
    checkTypeName t = .error e ↔
      (Text.trim t = "" ∧ e = .emptyTypeId) ∨
      (Text.trim t ≠ "" ∧ separator ∈ t.toList ∧ e = .invalidTypeId t .separator) ∨
      (Text.trim t ≠ "" ∧ separator ∉ t.toList ∧ Text.hasBlank t = true ∧
        e = .invalidTypeId t .blank) := by
  simp only [ne_eq, Text.trim_eq_empty_iff]
  unfold checkTypeName
  by_cases h1 : Text.allBlank t = true <;> by_cases h2 : separator ∈ t.toList <;>
    by_cases h3 : Text.hasBlank t = true <;> simp [h1, h2, h3, @eq_comm _ _ e]

/-- **Why an action name is refused**: it is empty; else it holds the separator; else it holds a
blank character; else it is the reserved key, which passes the three checks before. -/
theorem checkName_eq_error_iff (n : String) (e : SchemaError) :
    checkName n = .error e ↔
      (n = "" ∧ e = .emptyActionName) ∨
      (n ≠ "" ∧ separator ∈ n.toList ∧ e = .invalidActionName n .separator) ∨
      (n ≠ "" ∧ separator ∉ n.toList ∧ Text.hasBlank n = true ∧
        e = .invalidActionName n .blank) ∨
      (n = customKey ∧ e = .invalidActionName customKey .reserved) := by
  have hne : customKey ≠ "" := by decide
  by_cases hc : n = customKey
  · subst hc
    have hempty : customKey.isEmpty = false := by decide
    have hsep : separator ∉ customKey.toList := by decide
    have hblank : Text.hasBlank customKey = false := by decide
    simp [checkName, hempty, hne, hsep, hblank, @eq_comm _ _ e]
  · unfold checkName
    by_cases h1 : n = "" <;> by_cases h2 : separator ∈ n.toList <;>
      by_cases h3 : Text.hasBlank n = true <;> simp [h1, h2, h3, hc, hne, @eq_comm _ _ e]

/-! ### The first refused step -/

/-- **The first refused step**: the steps split at a step whose name is refused with `e`, and
every step before it names an accepted action. -/
def FirstRefusal (acts : List (Scope × String)) (e : SchemaError) : Prop :=
  ∃ before x after, acts = before ++ x :: after ∧ (∀ b ∈ before, checkName b.2 = .ok ()) ∧
    checkName x.2 = .error e

theorem not_firstRefusal_nil (e : SchemaError) : ¬ FirstRefusal [] e := by
  rintro ⟨before, x, after, h, -⟩
  cases before <;> cases h

/-- The first refused step of a list is its head, or else the first refused step of its tail
once the head is accepted. -/
theorem firstRefusal_cons (x : Scope × String) (rest : List (Scope × String)) (e : SchemaError) :
    FirstRefusal (x :: rest) e ↔
      checkName x.2 = .error e ∨ (checkName x.2 = .ok () ∧ FirstRefusal rest e) := by
  constructor
  · rintro ⟨before, y, after, h, hb, hy⟩
    cases before with
    | nil =>
      obtain ⟨rfl, -⟩ := List.cons.inj h
      exact Or.inl hy
    | cons z before =>
      obtain ⟨rfl, rfl⟩ := List.cons.inj h
      exact Or.inr ⟨hb x List.mem_cons_self,
        ⟨before, y, after, rfl, fun b hb' => hb b (List.mem_cons_of_mem x hb'), hy⟩⟩
  · rintro (hx | ⟨hx, before, y, after, rfl, hb, hy⟩)
    · exact ⟨[], x, rest, rfl, by simp, hx⟩
    · refine ⟨x :: before, y, after, rfl, ?_, hy⟩
      rintro b (_ | ⟨_, hb'⟩)
      · exact hx
      · exact hb b hb'

/-- Some step is refused exactly when there is a first refused step. -/
theorem exists_firstRefusal_iff (acts : List (Scope × String)) :
    (∃ e, FirstRefusal acts e) ↔ ∃ x ∈ acts, checkName x.2 ≠ .ok () := by
  induction acts with
  | nil => simp [not_firstRefusal_nil]
  | cons x rest ih =>
    simp only [firstRefusal_cons, List.mem_cons, exists_eq_or_imp]
    cases hx : checkName x.2 with
    | error e => simp
    | ok u => simpa using ih

/-- With every name accepted there is no refused step. -/
theorem not_firstRefusal_of_forall {acts : List (Scope × String)}
    (h : ∀ x ∈ acts, checkName x.2 = .ok ()) (e : SchemaError) : ¬ FirstRefusal acts e := by
  intro hr
  obtain ⟨x, hx, hne⟩ := (exists_firstRefusal_iff acts).1 ⟨e, hr⟩
  exact hne (h x hx)

/-- A declaration is accepted whenever its name is: the catalog it goes into never refuses it. -/
theorem Catalog.exists_add_eq_ok {n : String} (h : checkName n = .ok ()) (c : Catalog)
    (s : Scope) : ∃ old c', c.add s n = .ok (old, c') := by
  unfold Catalog.add Action.make
  rw [h]
  exact ⟨_, _, rfl⟩

/-- **A run of declarations fails with the error of its first refused step**, whatever the
catalog and the diagnostics it starts from. -/
theorem declare_eq_error_iff (acts : List (Scope × String)) (c : Catalog)
    (ds : List Diagnostic) (e : SchemaError) :
    Plan.declare acts c ds = .error e ↔ FirstRefusal acts e := by
  induction acts generalizing c ds with
  | nil => simp [Plan.declare, not_firstRefusal_nil]
  | cons x rest ih =>
    obtain ⟨s, n⟩ := x
    rw [firstRefusal_cons]
    cases hn : checkName n with
    | error e' =>
      have hadd : c.add s n = .error e' := (Catalog.add_eq_error_iff c s n e').2 hn
      simp [Plan.declare, hadd]
    | ok u =>
      obtain ⟨old, c', hadd⟩ := Catalog.exists_add_eq_ok hn c s
      -- the accepted head leaves the rest of the run to decide
      cases old <;> simp [Plan.declare, hadd, ih]

/-! ### Assembling and building -/

section Build

variable {γ : Type} [GuardName γ]

/-- **The diagnostics a plan records**: its repeated declaration steps in step order, then the
verdict of each binding against the bindings before it. -/
def Plan.diagnostics (p : Plan γ) : List Diagnostic :=
  judged actionNote p.actions ++ judged (bindingNote (p.actions.map Prod.snd)) p.bindings

namespace Plan

/-- An assembled schema records the diagnostics of its plan. -/
theorem diagnostics_of_assemble {p : Plan γ} {s : Schema γ} (h : p.assemble = .ok s) :
    s.diagnostics = p.diagnostics := by
  obtain ⟨c, dups, hd, rfl⟩ := assemble_eq_ok h
  have hr := records_of_declare hd
  rw [Plan.diagnostics, hr.notes, Table.notes_build, bindingNote_congr hr.mem_names_iff]

/-- The diagnostics a plan records are those its lenient build keeps. -/
theorem diagnostics_of_build_lenient {p : Plan γ} {s : Schema γ}
    (h : ({ p with options := ⟨false⟩ } : Plan γ).build = .ok s) :
    s.diagnostics = p.diagnostics := by
  rw [build_lenient] at h
  exact diagnostics_of_assemble h

/-- Assembling fails with the type name's error, or else with that of the first refused step. -/
theorem assemble_eq_error_iff (p : Plan γ) (e : SchemaError) :
    p.assemble = .error e ↔
      checkTypeName p.typeName = .error e ∨
        (checkTypeName p.typeName = .ok () ∧ FirstRefusal p.actions e) := by
  rw [← declare_eq_error_iff p.actions {} []]
  unfold assemble
  cases checkTypeName p.typeName with
  | error e' =>
    change Except.error e' = Except.error e ↔ _
    simp
  | ok u =>
    cases declare p.actions {} [] with
    | error e' =>
      change Except.error e' = Except.error e ↔ _
      simp
    | ok r =>
      change Except.ok _ = Except.error e ↔ _
      simp

/-- A plan assembles exactly when its type name and every step's name are accepted. -/
theorem exists_assemble_eq_ok_iff (p : Plan γ) :
    (∃ s, p.assemble = .ok s) ↔
      checkTypeName p.typeName = .ok () ∧ ∀ x ∈ p.actions, checkName x.2 = .ok () := by
  cases ht : checkTypeName p.typeName with
  | error e =>
    have ha : p.assemble = .error e := (assemble_eq_error_iff p e).2 (Or.inl ht)
    simp [ha]
  | ok u =>
    cases u
    by_cases hacts : ∀ x ∈ p.actions, checkName x.2 = .ok ()
    · -- no step is refused, so assembling cannot fail
      refine iff_of_true ?_ ⟨rfl, hacts⟩
      cases ha : p.assemble with
      | ok s => exact ⟨s, rfl⟩
      | error e =>
        rcases (assemble_eq_error_iff p e).1 ha with h | ⟨-, h⟩
        · rw [ht] at h
          cases h
        · exact absurd h (not_firstRefusal_of_forall hacts e)
    · have hx : ∃ x ∈ p.actions, checkName x.2 ≠ .ok () := by simpa using hacts
      obtain ⟨e, he⟩ := (exists_firstRefusal_iff p.actions).2 hx
      have ha : p.assemble = .error e := (assemble_eq_error_iff p e).2 (Or.inr ⟨ht, he⟩)
      exact iff_of_false (by simp [ha]) (fun h => hacts h.2)

/-- A built plan's type name and every declared name are accepted. -/
theorem accepted_of_build {p : Plan γ} {s : Schema γ} (h : p.build = .ok s) :
    checkTypeName p.typeName = .ok () ∧ ∀ x ∈ p.actions, checkName x.2 = .ok () :=
  (exists_assemble_eq_ok_iff p).1 ⟨s, assemble_of_build_eq_ok h⟩

/-- A strict check refuses the first diagnostic of a strict build and nothing else. -/
theorem checkStrict_eq_error_iff (o : Options) (ds : List Diagnostic) (e : SchemaError) :
    checkStrict o ds = .error e ↔
      o.strict = true ∧ ∃ d ds', ds = d :: ds' ∧ e = .strict d.message := by
  cases ds with
  | nil => simp [checkStrict]
  | cons d ds' =>
    cases ho : o.strict <;> simp [checkStrict, ho, eq_comm]

/-- **How a build fails**: with the type name's error; else with the error of the first refused
step; else, in a strict build, with the strict refusal of the first recorded diagnostic. -/
theorem build_eq_error_iff (p : Plan γ) (e : SchemaError) :
    p.build = .error e ↔
      checkTypeName p.typeName = .error e ∨
      (checkTypeName p.typeName = .ok () ∧ FirstRefusal p.actions e) ∨
      (checkTypeName p.typeName = .ok () ∧ (∀ x ∈ p.actions, checkName x.2 = .ok ()) ∧
        p.options.strict = true ∧ ∃ d ds, p.diagnostics = d :: ds ∧ e = .strict d.message) := by
  rw [build_eq_assemble]
  cases ha : p.assemble with
  | error e' =>
    -- the plan does not assemble, so the strict check never runs
    have hfail :
        ¬ (checkTypeName p.typeName = .ok () ∧ ∀ x ∈ p.actions, checkName x.2 = .ok ()) := by
      rw [← exists_assemble_eq_ok_iff, ha]
      simp
    change Except.error e' = Except.error e ↔ _
    rw [← ha, assemble_eq_error_iff, ← or_assoc]
    exact (or_iff_left fun ⟨h1, h2, _⟩ => hfail ⟨h1, h2⟩).symm
  | ok s =>
    -- the plan assembles, so only the strict check of its diagnostics can fail
    obtain ⟨ht, hacts⟩ := (exists_assemble_eq_ok_iff p).1 ⟨s, ha⟩
    have hnone := not_firstRefusal_of_forall hacts e
    change (checkStrict p.options s.diagnostics).map (fun _ => s) = .error e ↔ _
    rw [← diagnostics_of_assemble ha, ← checkStrict_eq_error_iff, eq_true hacts]
    cases checkStrict p.options s.diagnostics <;> simp [Except.map, ht, hnone]

/-- A build fails exactly when the type name is refused, a step is refused, or the build is
strict and records a diagnostic. -/
theorem exists_build_eq_error_iff (p : Plan γ) :
    (∃ e, p.build = .error e) ↔
      checkTypeName p.typeName ≠ .ok () ∨ (∃ x ∈ p.actions, checkName x.2 ≠ .ok ()) ∨
        (p.options.strict = true ∧ p.diagnostics ≠ []) := by
  simp only [build_eq_error_iff]
  cases ht : checkTypeName p.typeName with
  | error e => exact iff_of_true ⟨e, Or.inl rfl⟩ (Or.inl nofun)
  | ok u =>
    cases u
    by_cases hacts : ∀ x ∈ p.actions, checkName x.2 = .ok ()
    · -- every name is accepted, so only the strict check can fail
      constructor
      · rintro ⟨e, he | ⟨-, hr⟩ | ⟨-, -, hs, d, ds, hd, -⟩⟩
        · cases he
        · exact absurd hr (not_firstRefusal_of_forall hacts e)
        · exact Or.inr (Or.inr ⟨hs, by simp [hd]⟩)
      · rintro (h | ⟨x, hx, hne⟩ | ⟨hs, hd⟩)
        · exact absurd rfl h
        · exact absurd (hacts x hx) hne
        · obtain ⟨d, ds, hdd⟩ := List.exists_cons_of_ne_nil hd
          exact ⟨.strict d.message, Or.inr (Or.inr ⟨rfl, hacts, hs, d, ds, hdd, rfl⟩)⟩
    · -- some name is refused, and the first refused one fails the build
      have hx : ∃ x ∈ p.actions, checkName x.2 ≠ .ok () := by simpa using hacts
      obtain ⟨e, he⟩ := (exists_firstRefusal_iff p.actions).2 hx
      exact iff_of_true ⟨e, Or.inr (Or.inl ⟨rfl, he⟩)⟩ (Or.inr (Or.inl hx))

/-- The bindings of a plan decide no error but the strict refusal. -/
theorem build_eq_error_bindings (p : Plan γ) (bs : List (Binding γ)) {e : SchemaError}
    (he : ∀ msg, e ≠ .strict msg) :
    ({ p with bindings := bs } : Plan γ).build = .error e ↔ p.build = .error e := by
  have hno : ∀ q : Plan γ, (∃ d ds, q.diagnostics = d :: ds ∧ e = .strict d.message) ↔ False :=
    fun q => iff_false_intro fun ⟨d, ds, _, h⟩ => he _ h
  simp only [build_eq_error_iff, hno, and_false, or_false]

end Plan

end Build

/-! ### Why a build fails -/

/-- **Why a build fails.** A build fails exactly when the type name is refused, some step names a
refused action, or the build is strict and records a diagnostic. It fails with the type name's
error when there is one: `emptyTypeId` when the name trims to nothing, else the separator fault,
else the blank fault. Otherwise it fails with the error of the first refused step in step order,
item and global steps alike: an empty name, else the separator, else a blank character, else the
reserved key. Otherwise it fails, when strict, with the refusal of the first recorded
diagnostic, the recorded diagnostics being those a lenient build keeps. An action name is
accepted exactly when it is not empty, holds neither the separator nor a blank character and is
not the reserved key. Bindings are never checked by name: replacing them changes no error but
the strict refusal. -/
theorem build_failure {γ : Type} [GuardName γ] (p : Plan γ) :
    ((∃ e, p.build = .error e) ↔
      checkTypeName p.typeName ≠ .ok () ∨ (∃ x ∈ p.actions, checkName x.2 ≠ .ok ()) ∨
        (p.options.strict = true ∧ p.diagnostics ≠ [])) ∧
    (∀ e, p.build = .error e ↔
      checkTypeName p.typeName = .error e ∨
      (checkTypeName p.typeName = .ok () ∧ FirstRefusal p.actions e) ∨
      (checkTypeName p.typeName = .ok () ∧ (∀ x ∈ p.actions, checkName x.2 = .ok ()) ∧
        p.options.strict = true ∧ ∃ d ds, p.diagnostics = d :: ds ∧ e = .strict d.message)) ∧
    (∀ e, checkTypeName p.typeName = .error e ↔
      (Text.trim p.typeName = "" ∧ e = .emptyTypeId) ∨
      (Text.trim p.typeName ≠ "" ∧ separator ∈ p.typeName.toList ∧
        e = .invalidTypeId p.typeName .separator) ∨
      (Text.trim p.typeName ≠ "" ∧ separator ∉ p.typeName.toList ∧
        Text.hasBlank p.typeName = true ∧ e = .invalidTypeId p.typeName .blank)) ∧
    (∀ n e, checkName n = .error e ↔
      (n = "" ∧ e = .emptyActionName) ∨
      (n ≠ "" ∧ separator ∈ n.toList ∧ e = .invalidActionName n .separator) ∨
      (n ≠ "" ∧ separator ∉ n.toList ∧ Text.hasBlank n = true ∧
        e = .invalidActionName n .blank) ∨
      (n = customKey ∧ e = .invalidActionName customKey .reserved)) ∧
    (∀ n, checkName n = .ok () ↔
      n ≠ "" ∧ separator ∉ n.toList ∧ Text.hasBlank n = false ∧ n ≠ customKey) ∧
    (∀ (bs : List (Binding γ)) e, (∀ msg, e ≠ .strict msg) →
      (({ p with bindings := bs } : Plan γ).build = .error e ↔ p.build = .error e)) ∧
    (∀ s, ({ p with options := ⟨false⟩ } : Plan γ).build = .ok s → s.diagnostics = p.diagnostics) :=
  ⟨Plan.exists_build_eq_error_iff p, Plan.build_eq_error_iff p,
    checkTypeName_eq_error_iff p.typeName, checkName_eq_error_iff, checkName_eq_ok_iff,
    fun bs _ he => Plan.build_eq_error_bindings p bs he,
    fun _ h => Plan.diagnostics_of_build_lenient h⟩

/-- Of two refused steps the first decides the error, and a binding to the empty name is never
checked. -/
theorem build_failure_first_refused :
    ({ typeName := "repositories"
       actions := [(.item, "read"), (.global, "bulk export"), (.item, "x:y")]
       bindings := [⟨some "", "LockGuard"⟩] } : Plan String).build =
      .error (.invalidActionName "bulk export" .blank) :=
  ((build_failure _).2.1 _).2 (Or.inr (Or.inl
    ⟨by decide, [(.item, "read")], (.global, "bulk export"), [(.item, "x:y")], rfl, by decide,
      by decide⟩))

end Warden
