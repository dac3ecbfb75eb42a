import Warden.Proofs.Surface
import Warden.Proofs.Failure
/-!
# Permission strings name their checks

A permission string is a type name, the separator and an action name, followed for an item
check by the separator and an id. Type names and action names that pass their checks hold no
separator, so a permission string read from the left gives them back: the type name ends at the
first separator and the action name at the second. An id is never checked and may hold
separators of its own; it is all that follows the second separator. So the permission strings
of accepted names are injective, and a global string, with one separator, is never an item
string, with at least two.

A surface hands out checks only for accepted names (`Surface.Issues.checkName_eq_ok`), so two
checks handed out by the surfaces of any two built schemas ask for the same permission only
when they are for the same type, action and id.

Main statement: `permission_injective`.
-/

namespace Warden

/-! ### Reading a permission string from the left -/

/-- **Reading up to the first separator**: a prefix without separator, then the separator, is
fixed by the text, and so is what follows. -/
theorem split_first_separator {t t' r r' : List Char} (ht : separator ∉ t) (ht' : separator ∉ t')
    (h : t ++ separator :: r = t' ++ separator :: r') : t = t' ∧ r = r' := by
  induction t generalizing t' with
  | nil =>
    cases t' with
    | nil => exact ⟨rfl, (List.cons.inj h).2⟩
    | cons c t' =>
      -- the other side would start with the separator
      have hc : separator = c := (List.cons.inj h).1
      exact absurd (hc ▸ List.mem_cons_self) ht'
  | cons c t ih =>
    cases t' with
    | nil =>
      have hc : c = separator := (List.cons.inj h).1
      exact absurd (hc ▸ List.mem_cons_self) ht
    | cons c' t' =>
      obtain ⟨rfl, h'⟩ := List.cons.inj h
      obtain ⟨rfl, rfl⟩ := ih (fun hm => ht (List.mem_cons_of_mem c hm))
        (fun hm => ht' (List.mem_cons_of_mem c hm)) h'
      exact ⟨rfl, rfl⟩

theorem separator_not_mem_of_checkTypeName {t : String} (h : checkTypeName t = .ok ()) :
    separator ∉ t.toList := by
  intro hs
  unfold checkTypeName at h
  split at h
  · cases h
  · simp at h

theorem separator_not_mem_of_checkName {n : String} (h : checkName n = .ok ()) :
    separator ∉ n.toList :=
  ((checkName_eq_ok_iff n).1 h).2.1

namespace Permission

/-- The permission of a check for an action, bound to an id, or without one to the whole type. -/
def bound (typeName action : String) : Option String → Permission
  | none => of typeName action
  | some i => (of typeName action).withId (some i)

theorem toList_of (t a : String) :
    (of t a).text.toList = t.toList ++ separator :: a.toList := by
  simp [of, String.toList_append]

theorem toList_withId (p : Permission) (x : Option String) :
    (p.withId x).text.toList = p.text.toList ++ separator :: (x.getD "").toList := by
  simp [withId, String.toList_append]

variable {t t' a a' : String}

/-- The global permission of a separator-free type name gives back the type and the action. -/
theorem of_inj (ht : separator ∉ t.toList) (ht' : separator ∉ t'.toList)
    (h : of t a = of t' a') : t = t' ∧ a = a' := by
  have hl := congrArg (fun p => p.text.toList) h
  simp only [toList_of] at hl
  obtain ⟨htt, haa⟩ := split_first_separator ht ht' hl
  exact ⟨String.toList_inj.1 htt, String.toList_inj.1 haa⟩

/-- An item permission of separator-free names gives back the type, the action and the id,
whatever the id holds. -/
theorem withId_of_inj (ht : separator ∉ t.toList) (ht' : separator ∉ t'.toList)
    (ha : separator ∉ a.toList) (ha' : separator ∉ a'.toList) {i i' : String}
    (h : (of t a).withId (some i) = (of t' a').withId (some i')) : t = t' ∧ a = a' ∧ i = i' := by
  have hl := congrArg (fun p => p.text.toList) h
  simp only [toList_withId, toList_of, Option.getD_some, List.append_assoc, List.cons_append] at hl
  -- the type ends at the first separator, the action at the next one
  obtain ⟨htt, hrest⟩ := split_first_separator ht ht' hl
  obtain ⟨haa, hii⟩ := split_first_separator ha ha' hrest
  exact ⟨String.toList_inj.1 htt, String.toList_inj.1 haa, String.toList_inj.1 hii⟩

/-- A global permission of separator-free names is no item permission: after the type it has
no second separator. -/
theorem of_ne_withId (ht : separator ∉ t.toList) (ht' : separator ∉ t'.toList)
    (ha : separator ∉ a.toList) (x : Option String) : of t a ≠ (of t' a').withId x := by
  intro h
  have hl := congrArg (fun p => p.text.toList) h
  simp only [toList_withId, toList_of, List.append_assoc, List.cons_append] at hl
  -- the action would run on to the separator before the id
  obtain ⟨-, hrest⟩ := split_first_separator ht ht' hl
  exact ha (hrest ▸ by simp)

/-- **Bound permissions of separator-free names are injective**: the type, the action and the
binding, none or an id, are all read back. -/
theorem bound_inj (ht : separator ∉ t.toList) (ht' : separator ∉ t'.toList)
    (ha : separator ∉ a.toList) (ha' : separator ∉ a'.toList) {b b' : Option String}
    (h : bound t a b = bound t' a' b') : t = t' ∧ a = a' ∧ b = b' := by
  cases b with
  | none =>
    cases b' with
    | none => exact ⟨(of_inj ht ht' h).1, (of_inj ht ht' h).2, rfl⟩
    | some i' => exact absurd h (of_ne_withId ht ht' ha (some i'))
  | some i =>
    cases b' with
    | none => exact absurd h.symm (of_ne_withId ht' ht ha' (some i))
    | some i' =>
      obtain ⟨rfl, rfl, rfl⟩ := withId_of_inj ht ht' ha ha' h
      exact ⟨rfl, rfl, rfl⟩

end Permission

/-! ### Checks handed out by surfaces -/

namespace Surface

variable {m : Type → Type} {α : Type}

/-- **The checks a surface hands out**, each with its action and its binding: `none` for a
global or custom check of the whole type, the id for an item or custom item check bound to an
id, and the permission id for one bound to an object. Each accessor hands out such checks once
its own test passes (`global_issues`, `custom_issues`, `item_issues`, `customItem_issues`). -/
inductive Issues [Identified α] (S : Surface m α) : Check m α → String → Option String → Prop
  | global {subj : Subject m} {k : Hooks m α} {a : String} :
      S.vet .global a = .ok () → Issues S ⟨Permission.of S.typeName a, subj, k, .whole⟩ a none
  | custom {subj : Subject m} {k : Hooks m α} {a : String} :
      S.vetCustom .global a = .ok () →
      Issues S ⟨Permission.of S.typeName a, subj, k, .whole⟩ a none
  | forId {subj : Subject m} {k : Hooks m α} {a : String} (i : String) :
      (S.vet .item a = .ok () ∨ S.vetCustom .item a = .ok ()) →
      Issues S ((⟨Permission.of S.typeName a, subj, k⟩ : ItemCheck m α).forId i) a (some i)
  | forItem {subj : Subject m} {k : Hooks m α} {a : String} (x : α) :
      (S.vet .item a = .ok () ∨ S.vetCustom .item a = .ok ()) →
      Issues S ((⟨Permission.of S.typeName a, subj, k⟩ : ItemCheck m α).forItem x) a
        (some (permissionId x))

/-- A check handed out asks for the permission of its action, bound as it is. -/
theorem Issues.permission_eq [Identified α] {S : Surface m α} {c : Check m α} {a : String}
    {b : Option String} (h : S.Issues c a b) : c.permission = Permission.bound S.typeName a b := by
  cases h <;> rfl

/-! What the four accessors hand out: each is its test followed by a check built from the hooks
of the action's guard, and once the test passes every such check is issued. -/

theorem global_issues [Identified α] [Monad m] (S : Surface m α) (subj : Subject m) (a : String) :
    ∃ mk : Hooks m α → Check m α,
      S.global subj a = after (S.vet .global a) (S.hooksFor a >>= fun k => pure (mk k)) ∧
      (S.vet .global a = .ok () → ∀ k, S.Issues (mk k) a none) :=
  ⟨_, rfl, fun h _ => .global h⟩

theorem custom_issues [Identified α] [Monad m] (S : Surface m α) (subj : Subject m) (a : String) :
    ∃ mk : Hooks m α → Check m α,
      S.custom subj a = after (S.vetCustom .global a) (S.hooksFor a >>= fun k => pure (mk k)) ∧
      (S.vetCustom .global a = .ok () → ∀ k, S.Issues (mk k) a none) :=
  ⟨_, rfl, fun h _ => .custom h⟩

theorem item_issues [Identified α] [Monad m] (S : Surface m α) (subj : Subject m) (a : String) :
    ∃ mk : Hooks m α → ItemCheck m α,
      S.item subj a = after (S.vet .item a) (S.hooksFor a >>= fun k => pure (mk k)) ∧
      (S.vet .item a = .ok () → ∀ k i x, S.Issues ((mk k).forId i) a (some i) ∧
        S.Issues ((mk k).forItem x) a (some (permissionId x))) :=
  ⟨_, rfl, fun h _ i x => ⟨.forId i (.inl h), .forItem x (.inl h)⟩⟩

theorem customItem_issues [Identified α] [Monad m] (S : Surface m α) (subj : Subject m)
    (a : String) :
    ∃ mk : Hooks m α → ItemCheck m α,
      S.customItem subj a = after (S.vetCustom .item a) (S.hooksFor a >>= fun k => pure (mk k)) ∧
      (S.vetCustom .item a = .ok () → ∀ k i x, S.Issues ((mk k).forId i) a (some i) ∧
        S.Issues ((mk k).forItem x) a (some (permissionId x))) :=
  ⟨_, rfl, fun h _ i x => ⟨.forId i (.inr h), .forItem x (.inr h)⟩⟩

/-- A custom accessor lets through accepted names only. -/
theorem checkName_of_vetCustom {S : Surface m α} {sc : Scope} {a : String}
    (h : S.vetCustom sc a = .ok ()) : checkName a = .ok () := by
  unfold vetCustom at h
  split at h
  · exact h
  · cases h

variable [Monad m] {p : Plan (Guard m α)} {M : Schema (Guard m α)}

/-- A declared accessor of a built schema lets through declared names only, and a build accepts
every declared name. -/
theorem checkName_of_vet (hb : p.build = .ok M) {sc : Scope} {a : String}
    (h : (⟨M⟩ : Surface m α).vet sc a = .ok ()) : checkName a = .ok () := by
  rw [vet_of_build hb] at h
  have hmem : (sc, a) ∈ p.actions := by
    by_contra hn
    rw [if_neg hn] at h
    cases h
  exact (Plan.accepted_of_build hb).2 _ hmem

/-- **A surface of a built schema hands out checks for accepted names only.** -/
theorem Issues.checkName_eq_ok [Identified α] (hb : p.build = .ok M) {c : Check m α} {a : String}
    {b : Option String} (h : (⟨M⟩ : Surface m α).Issues c a b) : checkName a = .ok () := by
  cases h with
  | global hv => exact checkName_of_vet hb hv
  | custom hv => exact checkName_of_vetCustom hv
  | forId _ hv => exact hv.elim (checkName_of_vet hb) checkName_of_vetCustom
  | forItem _ hv => exact hv.elim (checkName_of_vet hb) checkName_of_vetCustom

end Surface

/-- The type name of a built schema is accepted. -/
theorem Plan.checkTypeName_of_build {γ : Type} [GuardName γ] {p : Plan γ} {s : Schema γ}
    (h : p.build = .ok s) : checkTypeName s.typeName = .ok () := by
  rw [(fields_of_build h).1]
  exact (accepted_of_build h).1

/-! ### Injectivity -/

/-- **Permission strings name their checks.** Over accepted type names and action names, and
any ids: equal global permissions have the same type and action; equal item permissions have
the same type, action and id, whatever the ids hold; and a global permission is never an item
permission. Every accessor of a surface hands out, once its test passes, checks issued for its
action: global and custom checks with no binding, item and custom item checks bound to an id or
to an object. So two checks handed out by the surfaces of any two built schemas ask for the same
permission only when they are for the same type, the same action and the same binding, an object
counting by its permission id. -/
theorem permission_injective {m : Type → Type} [Monad m] {α : Type} [Identified α] :
    (∀ t t' a a', checkTypeName t = .ok () → checkTypeName t' = .ok () →
      checkName a = .ok () → checkName a' = .ok () →
      (Permission.of t a = Permission.of t' a' → t = t' ∧ a = a') ∧
      (∀ i i', (Permission.of t a).withId (some i) = (Permission.of t' a').withId (some i') →
        t = t' ∧ a = a' ∧ i = i') ∧
      (∀ x, Permission.of t a ≠ (Permission.of t' a').withId x)) ∧
    (∀ (S : Surface m α) (subj : Subject m) (a : String),
      (∃ mk : Hooks m α → Check m α,
        S.global subj a = Surface.after (S.vet .global a) (S.hooksFor a >>= fun k => pure (mk k)) ∧
        (S.vet .global a = .ok () → ∀ k, S.Issues (mk k) a none)) ∧
      (∃ mk : Hooks m α → Check m α,
        S.custom subj a =
          Surface.after (S.vetCustom .global a) (S.hooksFor a >>= fun k => pure (mk k)) ∧
        (S.vetCustom .global a = .ok () → ∀ k, S.Issues (mk k) a none)) ∧
      (∃ mk : Hooks m α → ItemCheck m α,
        S.item subj a = Surface.after (S.vet .item a) (S.hooksFor a >>= fun k => pure (mk k)) ∧
        (S.vet .item a = .ok () → ∀ k i x, S.Issues ((mk k).forId i) a (some i) ∧
          S.Issues ((mk k).forItem x) a (some (permissionId x)))) ∧
      (∃ mk : Hooks m α → ItemCheck m α,
        S.customItem subj a =
          Surface.after (S.vetCustom .item a) (S.hooksFor a >>= fun k => pure (mk k)) ∧
        (S.vetCustom .item a = .ok () → ∀ k i x, S.Issues ((mk k).forId i) a (some i) ∧
          S.Issues ((mk k).forItem x) a (some (permissionId x))))) ∧
    (∀ (p₁ p₂ : Plan (Guard m α)) (M₁ M₂ : Schema (Guard m α)),
      p₁.build = .ok M₁ → p₂.build = .ok M₂ →
      ∀ c₁ c₂ a₁ a₂ b₁ b₂, Surface.Issues ⟨M₁⟩ c₁ a₁ b₁ → Surface.Issues ⟨M₂⟩ c₂ a₂ b₂ →
        c₁.permission = c₂.permission → M₁.typeName = M₂.typeName ∧ a₁ = a₂ ∧ b₁ = b₂) := by
  refine ⟨fun t t' a a' ht ht' ha ha' => ?_, fun S subj a => ?_, ?_⟩
  · have st := separator_not_mem_of_checkTypeName ht
    have st' := separator_not_mem_of_checkTypeName ht'
    have sa := separator_not_mem_of_checkName ha
    have sa' := separator_not_mem_of_checkName ha'
    exact ⟨Permission.of_inj st st', fun _ _ => Permission.withId_of_inj st st' sa sa',
      Permission.of_ne_withId st st' sa⟩
  · exact ⟨S.global_issues subj a, S.custom_issues subj a, S.item_issues subj a,
      S.customItem_issues subj a⟩
  · intro p₁ p₂ M₁ M₂ hb₁ hb₂ c₁ c₂ a₁ a₂ b₁ b₂ h₁ h₂ he
    -- both checks ask for the bound permission of accepted names
    rw [h₁.permission_eq, h₂.permission_eq] at he
    exact Permission.bound_inj
      (separator_not_mem_of_checkTypeName (Plan.checkTypeName_of_build hb₁))
      (separator_not_mem_of_checkTypeName (Plan.checkTypeName_of_build hb₂))
      (separator_not_mem_of_checkName (h₁.checkName_eq_ok hb₁))
      (separator_not_mem_of_checkName (h₂.checkName_eq_ok hb₂)) he

/-- In the repository schema no check for `read` bound to an id asks for the permission of a
check for `create`. -/
theorem permission_injective_repositories :
    ∃ M, (repositoryPlan : Plan (Guard Id Repository)).build = .ok M ∧
      ∀ c₁ c₂, Surface.Issues (⟨M⟩ : Surface Id Repository) c₁ "read" (some "1") →
        Surface.Issues (⟨M⟩ : Surface Id Repository) c₂ "create" none →
        c₁.permission ≠ c₂.permission := by
  refine ⟨_, rfl, fun c₁ c₂ h₁ h₂ he => ?_⟩
  have hread := (permission_injective.2.2 repositoryPlan repositoryPlan _ _ rfl rfl c₁ c₂ _ _ _ _
    h₁ h₂ he).2.1
  exact absurd hread (by decide)

end Warden
