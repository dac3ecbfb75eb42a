import Warden.Proofs.CatalogUpdates
/-!
# Labels and constants of a built schema

Generated identifiers are named after the labels of the guard table's entries and the constants
of the catalog's actions. Both are upper cases: an entry's label is the upper case of its key,
the custom entry's `__CUSTOM`, and an action's constant is the upper case of its name. The keys
of a table are pairwise distinct, and so are the names of each scope, but upper-casing is not
injective: `read` and `READ`, `straße` and `STRASSE`, or the name `__CUSTOM` and the reserved key
`__custom` have the same upper case. So the labels of a built table are pairwise distinct exactly
when no two of its keys have the same upper case, and the constants of a scope exactly when no
two of its names do; both fail for the item actions `read` and `READ` (`labels_collide_read`).

Main statement: `identifiers_distinct_iff_upper_distinct`.
-/

namespace Warden

namespace Table

variable {γ : Type} [GuardName γ]

/-- The labels of a built table, in table order, are the upper cases of its keys. -/
theorem labels_build (c : Catalog) (bs : List (Binding γ)) :
    (build c bs).1.toList.map (fun e => e.2.label) = (build c bs).1.keys.map Text.upper := by
  rw [keys, List.map_map]
  apply List.map_congr_left
  rintro ⟨k, e⟩ he
  exact label_eq_upper_of_mem_build c bs he

/-- **The labels of a built table are pairwise distinct exactly when no two of its keys have the
same upper case**, over a catalog reached by declarations, whose keys are pairwise distinct. -/
theorem labels_nodup_iff {c : Catalog} (hc : c.Reachable) (bs : List (Binding γ)) :
    ((build c bs).1.toList.map fun e => e.2.label).Nodup ↔
      ∀ k₁ ∈ (build c bs).1.keys, ∀ k₂ ∈ (build c bs).1.keys,
        Text.upper k₁ = Text.upper k₂ → k₁ = k₂ := by
  rw [labels_build]
  exact List.nodup_map_iff_inj_on (keys_nodup_build hc bs)

end Table

namespace Catalog

variable {c : Catalog}

/-- In a catalog reached by declarations the names of each scope are pairwise distinct, and the
constants of a scope are the upper cases of its names. -/
theorem Reachable.names_nodup_constants (hc : c.Reachable) (s : Scope) :
    ((c.inScope s).map Action.name).Nodup ∧
      (c.inScope s).map Action.constant = ((c.inScope s).map Action.name).map Text.upper := by
  obtain ⟨acts, hl⟩ := hc.exists_listed
  rw [hl s, listing, List.map_map, List.map_map, List.map_map]
  exact ⟨by simpa [Function.comp_def] using Keyed.nodup_firsts _, rfl⟩

/-- **The constants of a scope are pairwise distinct exactly when no two of its names have the
same upper case.** -/
theorem Reachable.constants_nodup_iff (hc : c.Reachable) (s : Scope) :
    ((c.inScope s).map Action.constant).Nodup ↔
      ∀ n₁ ∈ (c.inScope s).map Action.name, ∀ n₂ ∈ (c.inScope s).map Action.name,
        Text.upper n₁ = Text.upper n₂ → n₁ = n₂ := by
  obtain ⟨hnodup, hconst⟩ := hc.names_nodup_constants s
  rw [hconst]
  exact List.nodup_map_iff_inj_on hnodup

end Catalog

/-- **Generated identifiers are distinct exactly when upper cases are.** For every successfully
built schema: the table's keys are pairwise distinct and its labels, in table order, are their
upper cases (`__CUSTOM` for the custom key), so the labels are pairwise distinct exactly when no two
keys have the same upper case; and in each scope of the catalog the names are pairwise distinct
and the constants are their upper cases, so the constants are pairwise distinct exactly when no
two names of the scope have the same upper case. -/
theorem identifiers_distinct_iff_upper_distinct {γ : Type} [GuardName γ] {p : Plan γ}
    {M : Schema γ} (hb : p.build = .ok M) :
    M.table.keys.Nodup ∧
    M.table.toList.map (fun e => e.2.label) = M.table.keys.map Text.upper ∧
    ((M.table.toList.map fun e => e.2.label).Nodup ↔
      ∀ k₁ ∈ M.table.keys, ∀ k₂ ∈ M.table.keys, Text.upper k₁ = Text.upper k₂ → k₁ = k₂) ∧
    ∀ s, ((M.catalog.inScope s).map Action.name).Nodup ∧
      (M.catalog.inScope s).map Action.constant =
        ((M.catalog.inScope s).map Action.name).map Text.upper ∧
      (((M.catalog.inScope s).map Action.constant).Nodup ↔
        ∀ n₁ ∈ (M.catalog.inScope s).map Action.name, ∀ n₂ ∈ (M.catalog.inScope s).map Action.name,
          Text.upper n₁ = Text.upper n₂ → n₁ = n₂) := by
  -- the schema's catalog was reached by its declarations, and its table is built over it
  obtain ⟨c, dups, hr, hc, ht, -⟩ := Plan.build_eq_ok hb
  rw [hc, ht]
  exact ⟨Table.keys_nodup_build hr.reachable p.bindings, Table.labels_build c p.bindings,
    Table.labels_nodup_iff hr.reachable p.bindings, fun s =>
      ⟨(hr.reachable.names_nodup_constants s).1, (hr.reachable.names_nodup_constants s).2,
        hr.reachable.constants_nodup_iff s⟩⟩

/-- The plan with the item actions `read` and `READ`. -/
def readTwicePlan : Plan String :=
  { typeName := "repositories", actions := [(.item, "read"), (.item, "READ")] }

/-- Built, the plan with the item actions `read` and `READ` has distinct keys and names, and its
labels and item constants are distinct exactly when the upper cases of those are. -/
theorem identifiers_distinct_iff_upper_distinct_read :
    ∃ M, readTwicePlan.build = .ok M ∧
      (M.table.keys.Nodup ∧
      M.table.toList.map (fun e => e.2.label) = M.table.keys.map Text.upper ∧
      ((M.table.toList.map fun e => e.2.label).Nodup ↔
        ∀ k₁ ∈ M.table.keys, ∀ k₂ ∈ M.table.keys, Text.upper k₁ = Text.upper k₂ → k₁ = k₂) ∧
      ∀ s, ((M.catalog.inScope s).map Action.name).Nodup ∧
        (M.catalog.inScope s).map Action.constant =
          ((M.catalog.inScope s).map Action.name).map Text.upper ∧
        (((M.catalog.inScope s).map Action.constant).Nodup ↔
          ∀ n₁ ∈ (M.catalog.inScope s).map Action.name,
            ∀ n₂ ∈ (M.catalog.inScope s).map Action.name,
              Text.upper n₁ = Text.upper n₂ → n₁ = n₂)) :=
  ⟨_, rfl, identifiers_distinct_iff_upper_distinct (p := readTwicePlan) rfl⟩

/-- **Labels and constants collide.** The plan with the item actions `read` and `READ` builds, and
both its guard table and its item scope name two identifiers `READ`. -/
theorem labels_collide_read :
    ∃ M, readTwicePlan.build = .ok M ∧
      ¬ (M.table.toList.map fun e => e.2.label).Nodup ∧
      ¬ ((M.catalog.inScope .item).map Action.constant).Nodup :=
  ⟨_, rfl, by decide, by decide⟩

end Warden
