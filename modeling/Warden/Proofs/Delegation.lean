import Warden.Proofs.Surface
/-!
# Checks that delegate to the subject

A check delegates when its fail-fast answer is the subject's fail-fast answer and its boolean
answer the subject's answer, both on the check's own permission string. A subject's fail-fast
answer passes exactly when its boolean answer is yes and is otherwise refused as forbidden, so a
delegating check passes exactly when it is permitted.

A check delegates whenever the hooks it may run are unset: the global hooks for a check of the
whole type, the id hooks for a check of an id, and for a check of an object the item hooks and
the id hooks that a missing item hook falls back to. A schema built without guard bindings gives
every action the pass-through guard, which sets no hook and has no effect, so every check its
surface hands out delegates.

Main statement: `pass_through_delegates`.
-/

namespace Warden

variable {m : Type → Type} {α : Type}

/-- **The fail-fast answer of a subject** is its boolean answer read as a verdict. -/
theorem Subject.require_eq_map [Monad m] [LawfulMonad m] (s : Subject m) (p : Permission) :
    s.require p = (fun b => if b then .ok () else .error (.forbidden p.text)) <$> s.permits p := by
  rw [Subject.require, map_eq_pure_bind]
  congr 1
  funext b
  cases b <;> rfl

/-- The forms whose hooks a check of a target may run: its own, and for an object also the id
form that a missing item hook falls back to. -/
def Target.forms : Target α → List Form
  | .whole => [.global]
  | .id _ => [.id]
  | .item _ => [.item, .id]

namespace Hooks

variable {h : Hooks m α}

theorem overrides_global_eq_iff :
    h.overrides .global = (false, false) ↔ h.decide = none ∧ h.test = none := by
  simp [overrides]

theorem overrides_id_eq_iff :
    h.overrides .id = (false, false) ↔ h.decideId = none ∧ h.testId = none := by
  simp [overrides]

theorem overrides_item_eq_iff :
    h.overrides .item = (false, false) ↔ h.decideItem = none ∧ h.testItem = none := by
  simp [overrides]

end Hooks

/-- The pass-through hooks set no hook of any form. -/
theorem Hooks.overrides_passThrough (f : Form) :
    (Hooks.passThrough : Hooks m α).overrides f = (false, false) := by
  cases f <;> rfl

namespace Check

variable [Monad m] [Identified α]

/-- **A check that delegates**: its fail-fast answer is the subject's fail-fast answer and its
boolean answer the subject's answer, both on the check's permission string. -/
def Delegates (c : Check m α) : Prop :=
  c.run = c.subject.require c.permission ∧ c.allowed = c.subject.permits c.permission

/-- **A check whose hooks are unset delegates**: the defaults it runs are the subject's own
answers. -/
theorem delegates_of_overrides (c : Check m α)
    (h : ∀ f ∈ c.target.forms, c.hooks.overrides f = (false, false)) : c.Delegates := by
  unfold Delegates run allowed
  cases ht : c.target with
  | whole =>
    rw [ht] at h
    obtain ⟨hd, hb⟩ := Hooks.overrides_global_eq_iff.1 (h .global (by simp [Target.forms]))
    simp [Hooks.runDecide, Hooks.runTest, hd, hb]
  | id i =>
    rw [ht] at h
    obtain ⟨hd, hb⟩ := Hooks.overrides_id_eq_iff.1 (h .id (by simp [Target.forms]))
    simp [Hooks.runDecideId, Hooks.runTestId, hd, hb]
  | item x =>
    rw [ht] at h
    -- an object runs its item hooks, and without them the id hooks
    obtain ⟨hdi, hbi⟩ := Hooks.overrides_item_eq_iff.1 (h .item (by simp [Target.forms]))
    obtain ⟨hd, hb⟩ := Hooks.overrides_id_eq_iff.1 (h .id (by simp [Target.forms]))
    simp [Hooks.runDecideItem, Hooks.runTestItem, Hooks.runDecideId, Hooks.runTestId, hdi, hbi,
      hd, hb]

/-- A check with the pass-through hooks delegates, whatever its target. -/
theorem delegates_of_passThrough (perm : Permission) (subj : Subject m) (t : Target α) :
    (⟨perm, subj, Hooks.passThrough, t⟩ : Check m α).Delegates :=
  delegates_of_overrides _ fun f _ => Hooks.overrides_passThrough f

/-- A delegating check passes exactly when it is permitted, and is otherwise refused as
forbidden on its permission string. -/
theorem run_eq_map_allowed [LawfulMonad m] {c : Check m α} (h : c.Delegates) :
    c.run =
      (fun b => if b then .ok () else .error (.forbidden c.permission.text)) <$> c.allowed := by
  rw [h.1, h.2, Subject.require_eq_map]

/-- For a subject that answers at once, such as a principal, a delegating check passes exactly
when it is permitted. -/
theorem run_eq_ok_iff {c : Check Id α} (h : c.Delegates) : c.run = .ok () ↔ c.allowed = true := by
  rw [run_eq_map_allowed h]
  -- in `Id` the answer is the verdict of the boolean answer itself
  cases c.allowed
  · exact iff_of_false (fun h => by cases h) Bool.false_ne_true
  · exact iff_of_true rfl rfl

end Check

namespace ItemCheck

variable [Monad m] [Identified α]

/-- **An item check that delegates**: bound to any id or to any object, it delegates. -/
def Delegates (c : ItemCheck m α) : Prop :=
  ∀ i x, (c.forId i).Delegates ∧ (c.forItem x).Delegates

/-- An item check with the pass-through hooks delegates. -/
theorem delegates_of_passThrough (perm : Permission) (subj : Subject m) :
    (⟨perm, subj, Hooks.passThrough⟩ : ItemCheck m α).Delegates :=
  fun _ _ => ⟨Check.delegates_of_passThrough _ _ _, Check.delegates_of_passThrough _ _ _⟩

end ItemCheck

/-! ### Schemas built without bindings -/

section Unbound

variable [Monad m]

/-- Without bindings every name is guarded by the pass-through guard. -/
theorem Plan.guard_guardFor_of_bindings_nil {p : Plan (Guard m α)} {M : Schema (Guard m α)}
    (hn : p.bindings = []) (hb : p.build = .ok M) (a : String) :
    (M.guardFor a).guard = Guard.passThrough := by
  rw [Plan.guardFor_build hb, hn]
  split <;> rfl

variable [LawfulMonad m] [Identified α]

/-- **Handing out a check that takes no effect to make** hands out that check or a refusal, at
once. -/
theorem Surface.after_pure {β : Type} {P : β → Prop} (test : Except SchemaError Unit) {c : β}
    (hc : P c) : ∃ r, Surface.after test (pure c : m β) = pure r ∧ ∀ c', r = .ok c' → P c' := by
  cases test with
  | error e => exact ⟨.error e, rfl, fun _ h => by cases h⟩
  | ok u => exact ⟨.ok c, by simp [Surface.after], fun _ h => Except.ok.inj h ▸ hc⟩

/-- **A surface of a schema built without bindings** hands out every check at once, with the
pass-through hooks, so every check it hands out delegates. -/
theorem Surface.delegates_of_bindings_nil {p : Plan (Guard m α)} {M : Schema (Guard m α)}
    (hn : p.bindings = []) (hb : p.build = .ok M) (subj : Subject m) (a : String) :
    (∃ r, (⟨M⟩ : Surface m α).global subj a = pure r ∧ ∀ c, r = .ok c → c.Delegates) ∧
    (∃ r, (⟨M⟩ : Surface m α).custom subj a = pure r ∧ ∀ c, r = .ok c → c.Delegates) ∧
    (∃ r, (⟨M⟩ : Surface m α).item subj a = pure r ∧ ∀ c, r = .ok c → c.Delegates) ∧
    (∃ r, (⟨M⟩ : Surface m α).customItem subj a = pure r ∧ ∀ c, r = .ok c → c.Delegates) := by
  have hk : (M.guardFor a).guard.hooksFor a = pure Hooks.passThrough := by
    rw [Plan.guard_guardFor_of_bindings_nil hn hb]
    rfl
  have hwhole :=
    Check.delegates_of_passThrough (Permission.of p.typeName a) subj (.whole : Target α)
  have hitems :=
    ItemCheck.delegates_of_passThrough (m := m) (α := α) (Permission.of p.typeName a) subj
  refine ⟨?_, ?_, ?_, ?_⟩
  · rw [Surface.global_of_build hb, hk, map_pure]
    exact Surface.after_pure _ hwhole
  · rw [Surface.custom_of_build hb, hk, map_pure]
    exact Surface.after_pure _ hwhole
  · rw [Surface.item_of_build hb, hk, map_pure]
    exact Surface.after_pure _ hitems
  · rw [Surface.customItem_of_build hb, hk, map_pure]
    exact Surface.after_pure _ hitems

end Unbound

/-! ### Pass-through transparency -/

/-- **Unset hooks are transparent.** A check whose target's hooks are unset (the global hooks for
the whole type, the id hooks for an id, the item hooks and the id hooks for an object) answers
as its subject does on the check's permission string: its boolean answer is the subject's
answer, and its fail-fast answer passes when that answer is yes and is otherwise refused as
forbidden on the permission string. So, for a subject that answers at once such as a principal,
such a check passes exactly when it is permitted. And the surface of a schema built without
guard bindings hands out every check at once, global, item, custom and custom item alike, and
each one it hands out delegates to the subject, bound to an id or to an object. -/
theorem pass_through_delegates {m : Type → Type} [Monad m] [LawfulMonad m] {α : Type}
    [Identified α] :
    (∀ c : Check m α, (∀ f ∈ c.target.forms, c.hooks.overrides f = (false, false)) →
      c.allowed = c.subject.permits c.permission ∧
      c.run = (fun b => if b then .ok () else .error (.forbidden c.permission.text)) <$>
        c.subject.permits c.permission) ∧
    (∀ c : Check Id α, (∀ f ∈ c.target.forms, c.hooks.overrides f = (false, false)) →
      (c.run = .ok () ↔ c.allowed = true)) ∧
    (∀ (p : Plan (Guard m α)) (M : Schema (Guard m α)), p.bindings = [] → p.build = .ok M →
      ∀ (subj : Subject m) (a : String),
        (∃ r, (⟨M⟩ : Surface m α).global subj a = pure r ∧ ∀ c, r = .ok c → c.Delegates) ∧
        (∃ r, (⟨M⟩ : Surface m α).custom subj a = pure r ∧ ∀ c, r = .ok c → c.Delegates) ∧
        (∃ r, (⟨M⟩ : Surface m α).item subj a = pure r ∧ ∀ c, r = .ok c → c.Delegates) ∧
        (∃ r, (⟨M⟩ : Surface m α).customItem subj a = pure r ∧ ∀ c, r = .ok c → c.Delegates)) := by
  refine ⟨fun c h => ?_, fun c h => Check.run_eq_ok_iff (Check.delegates_of_overrides c h),
    fun p M hn hb => Surface.delegates_of_bindings_nil hn hb⟩
  have hd := Check.delegates_of_overrides c h
  exact ⟨hd.2, hd.1.trans (Subject.require_eq_map _ _)⟩

/-- Without its binding the repository schema no longer protects `mustNotBeDeleted`: deleting it
is refused to a principal without grants as forbidden, by the subject and not by a guard. -/
theorem pass_through_delegates_unbound :
    ∃ M, ({ repositoryPlan (m := Id) with bindings := [] } : Plan (Guard Id Repository)).build =
        .ok M ∧
      ∃ c, (⟨M⟩ : Surface Id Repository).item (Principal.subject {}) "delete" = pure (.ok c) ∧
        (c.forId protectedId).run = .error (.forbidden "repositories:delete:mustNotBeDeleted") := by
  refine ⟨_, rfl, ?_⟩
  obtain ⟨r, hr, hd⟩ := ((pass_through_delegates (m := Id) (α := Repository)).2.2
    { repositoryPlan (m := Id) with bindings := [] } _ rfl rfl (Principal.subject {})
    "delete").2.2.1
  cases r with
  | error e => cases hr
  | ok c =>
    refine ⟨c, hr, ?_⟩
    rw [((hd c rfl) protectedId ⟨protectedId⟩).1.1]
    cases hr
    rfl

end Warden
