import Mathlib.Data.Finset.Card
import Mathlib.Data.List.Nodup
import AssetStore.Prelude
/-!
# The first record of each key

The index store and the encoding table both build their contents one record at a time, keeping
a record only when no kept record has its key. This file gives that step a name, `appendNew`,
and shows what a run of it keeps: after the records already kept, the new records minus every
record whose key came earlier, which is `List.eraseDupsBy` on keys. Two consequences are what
lookups need: a search that looks at keys only finds the same record as on the records before
deduplication, and one record is kept per distinct key. Replacing the records of one key by a
single record of that key keeps the keys (`map_replace_keys`).
-/

namespace AssetStore

/-- Appending a record whose key no kept record has keeps the keys distinct. -/
theorem nodup_map_append {α β : Type} (key : α → β) {kept : List α} {a : α}
    (distinct : (kept.map key).Nodup) (fresh : ∀ b ∈ kept, key b ≠ key a) :
    ((kept ++ [a]).map key).Nodup := by
  rw [List.map_append, List.nodup_append]
  refine ⟨distinct, List.nodup_singleton _, fun k old k' new => ?_⟩
  obtain ⟨b, member, rfl⟩ := List.mem_map.mp old
  rw [List.map_singleton, List.mem_singleton] at new
  exact new ▸ fresh b member

theorem fresh_of_not_any {α β : Type} [BEq β] [LawfulBEq β] (key : α → β) {kept : List α} {a : α}
    (absent : ¬kept.any fun b => key b == key a) : ∀ b ∈ kept, key b ≠ key a :=
  fun b member same => absent (List.any_eq_true.mpr ⟨b, member, by simp [same]⟩)

section FirstByKey

variable {α β : Type} [DecidableEq β] (key : α → β)

/-- Appends `a` to the kept records unless one of them already has its key. -/
def appendNew (kept : List α) (a : α) : List α :=
  if kept.any (fun b => key b == key a) then kept else kept ++ [a]

/-- A run of `appendNew` keeps, after the records already kept, the first new record of every
key not kept yet. -/
theorem foldl_appendNew (l kept : List α) :
    l.foldl (appendNew key) kept =
      kept ++ (l.filter fun a => !kept.any fun b => key b == key a).eraseDupsBy
        (fun a b => key a == key b) := by
  induction l generalizing kept with
  | nil => simp
  | cons a l inductionHypothesis =>
    rw [List.foldl_cons, inductionHypothesis, appendNew]
    by_cases present : kept.any (fun b => key b == key a)
    · simp [present]
    · rw [if_neg present, List.filter_cons_of_pos (by simpa using present), List.eraseDupsBy_cons,
        List.filter_filter, List.append_assoc, List.singleton_append]
      refine congrArg _ (congrArg _ (congrArg _ (List.filter_congr fun b _ => ?_)))
      by_cases same : key a = key b
      · simp [same]
      · simp [same, Ne.symm same]

theorem foldl_appendNew_nil (l : List α) :
    l.foldl (appendNew key) [] = l.eraseDupsBy (fun a b => key a == key b) := by
  simp [foldl_appendNew]

/-- A search by key finds in the kept records what it finds in all records offered. -/
theorem find?_foldl_appendNew (p : β → Bool) (l kept : List α) :
    (l.foldl (appendNew key) kept).find? (fun a => p (key a)) =
      (kept ++ l).find? (fun a => p (key a)) := by
  induction l generalizing kept with
  | nil => simp
  | cons a l inductionHypothesis =>
    rw [List.foldl_cons, inductionHypothesis, appendNew]
    by_cases present : kept.any (fun b => key b == key a)
    · rw [if_pos present]
      obtain ⟨b, member, same⟩ := List.any_eq_true.mp present
      rw [beq_iff_eq] at same
      by_cases found : p (key a)
      · have earlier : (kept.find? fun a => p (key a)).isSome := by
          rw [List.find?_isSome]
          exact ⟨b, member, same ▸ found⟩
        obtain ⟨c, hit⟩ := Option.isSome_iff_exists.mp earlier
        rw [List.find?_append, List.find?_append, hit]
        rfl
      · simp [List.find?_append, found]
    · rw [if_neg present, List.append_assoc, List.singleton_append]

theorem find?_eraseDupsBy (p : β → Bool) (l : List α) :
    (l.eraseDupsBy (fun a b => key a == key b)).find? (fun a => p (key a)) =
      l.find? (fun a => p (key a)) := by
  rw [← foldl_appendNew_nil, find?_foldl_appendNew, List.nil_append]

/-- The keys kept stay distinct, and they are the keys kept before and the keys offered. -/
theorem nodup_foldl_appendNew (l kept : List α) (distinct : (kept.map key).Nodup) :
    ((l.foldl (appendNew key) kept).map key).Nodup ∧
      ∀ k, k ∈ (l.foldl (appendNew key) kept).map key ↔ k ∈ kept.map key ∨ k ∈ l.map key := by
  induction l generalizing kept with
  | nil => simp [distinct]
  | cons a l inductionHypothesis =>
    rw [List.foldl_cons, appendNew]
    by_cases present : kept.any (fun b => key b == key a)
    · rw [if_pos present]
      obtain ⟨nodup, members⟩ := inductionHypothesis kept distinct
      refine ⟨nodup, fun k => ?_⟩
      obtain ⟨b, member, same⟩ := List.any_eq_true.mp present
      rw [beq_iff_eq] at same
      rw [members, List.map_cons, List.mem_cons]
      constructor
      · rintro (old | new)
        · exact Or.inl old
        · exact Or.inr (Or.inr new)
      · rintro (old | rfl | new)
        · exact Or.inl old
        · exact Or.inl (List.mem_map.mpr ⟨b, member, same⟩)
        · exact Or.inr new
    · rw [if_neg present]
      have extended := nodup_map_append key distinct (fresh_of_not_any key present)
      obtain ⟨nodup, members⟩ := inductionHypothesis (kept ++ [a]) extended
      refine ⟨nodup, fun k => ?_⟩
      rw [members]
      simp only [List.map_append, List.map_cons, List.map_nil, List.mem_append, List.mem_cons,
        List.not_mem_nil, or_false]
      tauto

/-- Keeping the first record of each key keeps one record per distinct key. -/
theorem length_eraseDupsBy (l : List α) :
    (l.eraseDupsBy (fun a b => key a == key b)).length = (l.map key).toFinset.card := by
  obtain ⟨nodup, members⟩ := nodup_foldl_appendNew key l [] List.nodup_nil
  rw [← foldl_appendNew_nil, ← List.length_map key, ← List.toFinset_card_of_nodup nodup]
  congr 1
  ext k
  simp [members]

end FirstByKey

/-- Putting a record of key `k` in place of every record of that key keeps the keys. -/
theorem map_replace_keys {α β : Type} [BEq β] [LawfulBEq β] (key : α → β) (l : List α) {k : β}
    {a : α} (keyed : key a = k) :
    (l.map fun b => if key b == k then a else b).map key = l.map key := by
  rw [List.map_map]
  refine List.map_congr_left fun b _ => ?_
  by_cases hit : key b = k <;> simp [hit, keyed]

end AssetStore
