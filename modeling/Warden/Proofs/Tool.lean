import Warden.Tool
import Mathlib.Data.List.Forall2
/-!
# The schema tool is all or nothing

The schema tool builds the declarations of its file one after another, each on its own with the
options of the environment, and prints only once every build has succeeded. So a run that reads
its file either prints the JSON array of every declaration's schema, in declaration order, or
prints nothing and stops with one failure: that the text cannot be read as declarations, or that
the first declaration that fails to build, named by its type name, failed; declarations before
it that built change nothing.

Main statement: `schema_tool_all_or_nothing`.
-/

namespace Warden.Tool

variable {o : Options}

/-! ### Building declarations in order -/

/-- **The builds succeed together**: building declarations in order gives a list of schemas
exactly when each declaration, built on its own, gives the schema at its place. -/
theorem buildAll_eq_ok_iff (ds : List Declaration) (ss : List (Schema String)) :
    buildAll o ds = .ok ss ↔ List.Forall₂ (fun d s => d.build o = .ok s) ds ss := by
  fun_induction buildAll o ds generalizing ss with
  | case1 => cases ss <;> simp
  | case2 d ds e hd => cases ss <;> simp [hd]
  | case3 d ds s hd ih =>
    -- the head has built; the rest decides, and the head's schema leads the list
    cases ss with
    | nil => cases buildAll o ds <;> simp [Except.map]
    | cons s' ss =>
      rw [List.forall₂_cons, hd, ← ih]
      cases buildAll o ds <;> simp [Except.map, and_comm, eq_comm]

/-- A build that fails stops the run at its declaration: every declaration before it built, and
the run reports this declaration with its error. -/
theorem exists_of_buildAll_eq_error {ds : List Declaration} {d : Declaration} {e : SchemaError}
    (h : buildAll o ds = .error (d, e)) :
    ∃ pre post, ds = pre ++ d :: post ∧ (∀ d' ∈ pre, ∃ s, d'.build o = .ok s) ∧
      d.build o = .error e := by
  fun_induction buildAll o ds with
  | case1 => cases h
  | case2 d' ds e' hd =>
    obtain ⟨rfl, rfl⟩ := Prod.mk.inj (Except.error.inj h)
    exact ⟨[], ds, rfl, by simp, hd⟩
  | case3 d' ds s hd ih =>
    have hrest : buildAll o ds = .error (d, e) := by
      cases hr : buildAll o ds <;> simp_all [Except.map]
    obtain ⟨pre, post, rfl, hpre, hfail⟩ := ih hrest
    refine ⟨d' :: pre, post, rfl, fun x hx => ?_, hfail⟩
    rcases List.mem_cons.1 hx with rfl | hx
    · exact ⟨s, hd⟩
    · exact hpre x hx

/-- **The first failure stops the run**: when every declaration before one built and that one
fails, the run reports that one with its error, whatever follows it. -/
theorem buildAll_append_cons (pre : List Declaration) {d : Declaration} {e : SchemaError}
    (post : List Declaration) (hpre : ∀ d' ∈ pre, ∃ s, d'.build o = .ok s)
    (hd : d.build o = .error e) : buildAll o (pre ++ d :: post) = .error (d, e) := by
  induction pre with
  | nil => simp [buildAll, hd]
  | cons d' pre ih =>
    obtain ⟨s, hs⟩ := hpre d' List.mem_cons_self
    rw [List.cons_append, buildAll, hs,
      ih fun x hx => hpre x (List.mem_cons_of_mem d' hx)]
    rfl

/-- When every declaration builds, so does the run. -/
theorem exists_buildAll_eq_ok {ds : List Declaration}
    (h : ∀ d ∈ ds, ∃ s, d.build o = .ok s) : ∃ ss, buildAll o ds = .ok ss := by
  cases hb : buildAll o ds with
  | ok ss => exact ⟨ss, rfl⟩
  | error r =>
    -- a failing run names a declaration of the list that fails
    obtain ⟨d, e⟩ := r
    obtain ⟨pre, post, rfl, -, hd⟩ := exists_of_buildAll_eq_error hb
    obtain ⟨s, hs⟩ := h d (by simp)
    rw [hs] at hd
    cases hd

/-! ### Runs of the tool -/

section Runs

variable {path text : String} {rest : List String} {env readFile : String → Option String}

/-- A run whose text cannot be read as declarations stops and reports its file. -/
theorem run_of_unparsable (h : readFile path = some text) {f : Json.Failure}
    (hf : Declaration.readAll text = .error f) :
    run (path :: rest) env readFile = stopped (.unparsable path) := by
  simp only [run, h, hf]

/-- A run whose declarations all build prints their schemas. -/
theorem run_of_built (h : readFile path = some text) {ds : List Declaration}
    (hds : Declaration.readAll text = .ok ds) {ss : List (Schema String)}
    (hss : buildAll (Options.ofEnv env) ds = .ok ss) :
    run (path :: rest) env readFile = ⟨0, printed ss, none⟩ := by
  simp only [run, h, hds, hss]

/-- A run whose builds stop at a declaration reports that declaration's type name and error. -/
theorem run_of_unbuildable (h : readFile path = some text) {ds : List Declaration}
    (hds : Declaration.readAll text = .ok ds) {d : Declaration} {e : SchemaError}
    (he : buildAll (Options.ofEnv env) ds = .error (d, e)) :
    run (path :: rest) env readFile = stopped (.unbuildable d.typeName e) := by
  simp only [run, h, hds, he]

end Runs

/-- **The schema tool is all or nothing.** For every run on a file that can be read, whatever the
other arguments and the environment, with the options the environment selects: if the text cannot
be read as declarations, the run stops with exit code 1, prints nothing and reports the file as
unparsable; if every declaration builds, the run exits with 0 and prints exactly the JSON array
of the schemas, one for each declaration, in order, each the one its declaration builds on its
own, followed by a line break; and if some declaration fails to build after all the ones before
it built, the run stops with exit code 1, prints nothing and reports that declaration's type name
with its error, in the message `failed to create model for type '<type>'`. -/
theorem schema_tool_all_or_nothing (path text : String) (rest : List String)
    (env readFile : String → Option String) (hread : readFile path = some text) :
    ((∃ f, Declaration.readAll text = .error f) →
      (run (path :: rest) env readFile).exitCode = 1 ∧ (run (path :: rest) env readFile).stdout = "" ∧
      (run (path :: rest) env readFile).failure = some (.unparsable path)) ∧
    ∀ ds, Declaration.readAll text = .ok ds →
      ((∀ d ∈ ds, ∃ s, d.build (Options.ofEnv env) = .ok s) →
        ∃ ss, List.Forall₂ (fun d s => d.build (Options.ofEnv env) = .ok s) ds ss ∧
          (run (path :: rest) env readFile).exitCode = 0 ∧
          (run (path :: rest) env readFile).stdout = Json.render (.arr (ss.map Schema.toJson)) ++ "\n" ∧
          (run (path :: rest) env readFile).failure = none) ∧
      (∀ pre d post e, ds = pre ++ d :: post →
        (∀ d' ∈ pre, ∃ s, d'.build (Options.ofEnv env) = .ok s) →
        d.build (Options.ofEnv env) = .error e →
        (run (path :: rest) env readFile).exitCode = 1 ∧ (run (path :: rest) env readFile).stdout = "" ∧
        (run (path :: rest) env readFile).failure = some (.unbuildable d.typeName e) ∧
        (Failure.unbuildable d.typeName e).message =
          "failed to create model for type '" ++ d.typeName ++ "'") := by
  refine ⟨fun ⟨f, hf⟩ => ?_, fun ds hds => ⟨fun hall => ?_, fun pre d post e hsplit hpre hd => ?_⟩⟩
  · rw [run_of_unparsable hread hf]
    exact ⟨rfl, rfl, rfl⟩
  · obtain ⟨ss, hss⟩ := exists_buildAll_eq_ok hall
    refine ⟨ss, (buildAll_eq_ok_iff ds ss).1 hss, ?_⟩
    rw [run_of_built hread hds hss]
    exact ⟨rfl, rfl, rfl⟩
  · -- the builds stop at the first failing declaration, whatever follows it
    have he := buildAll_append_cons pre post hpre hd
    rw [← hsplit] at he
    rw [run_of_unbuildable hread hds he]
    exact ⟨rfl, rfl, rfl, rfl⟩

/-- A file of two declarations whose second has the type name `b:c`, refused for its
separator: the run stops at it and prints nothing, although the first declaration built. -/
theorem schema_tool_all_or_nothing_second_fails :
    (∃ s, (Declaration.new "a").build {} = .ok s) ∧
    (run ["declarations.json"] (fun _ => none)
        (fun _ => some "[\x7b\"typeId\": \"a\"\x7d, \x7b\"typeId\": \"b:c\"\x7d]")).failure =
      some (.unbuildable "b:c" (.invalidTypeId "b:c" .separator)) ∧
    (run ["declarations.json"] (fun _ => none)
        (fun _ => some "[\x7b\"typeId\": \"a\"\x7d, \x7b\"typeId\": \"b:c\"\x7d]")).stdout =
      "" := by
  have hds : Declaration.readAll "[\x7b\"typeId\": \"a\"\x7d, \x7b\"typeId\": \"b:c\"\x7d]" =
      .ok [Declaration.new "a", Declaration.new "b:c"] := by
    decide +kernel
  have hfirst : ∃ s, (Declaration.new "a").build {} = .ok s := ⟨_, rfl⟩
  obtain ⟨-, hall⟩ := schema_tool_all_or_nothing "declarations.json"
    "[\x7b\"typeId\": \"a\"\x7d, \x7b\"typeId\": \"b:c\"\x7d]" [] (fun _ => none)
    (fun _ => some "[\x7b\"typeId\": \"a\"\x7d, \x7b\"typeId\": \"b:c\"\x7d]") rfl
  obtain ⟨-, hout, hfail, -⟩ := (hall _ hds).2 [Declaration.new "a"] (Declaration.new "b:c") []
    (.invalidTypeId "b:c" .separator) rfl (fun d hd => by rw [List.mem_singleton.1 hd]; exact hfirst)
    rfl
  exact ⟨hfirst, hfail, hout⟩

end Warden.Tool
