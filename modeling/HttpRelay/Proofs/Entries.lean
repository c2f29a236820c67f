import Mathlib.Data.List.Nodup

/-!
# Entries under keys

What is known of a connection, of a guard or of a task stands in a list of entries, each with its
key. As long as no key occurs twice, looking a key up finds its only entry, and the list is that
entry with the entries of all other keys, in some order (`Entries.perm_cons_filter`). What is
counted over a list does not depend on the order, so one entry can be counted apart from the rest.
-/

namespace HttpRelay

namespace Entries

variable {Key Value : Type} [BEq Key] [LawfulBEq Key] [DecidableEq Key]

theorem lookup_cons_ite (entries : List (Key × Value)) (key other : Key) (value : Value) :
    ((key, value) :: entries).lookup other =
      if other = key then some value else entries.lookup other := by
  by_cases same : other = key
  · simp [same]
  · have different : (other == key) = false := beq_false_of_ne same
    simp [List.lookup_cons, different, same]

theorem lookup_replace (entries : List (Key × Value)) (key other : Key) (value : Value) :
    (entries.map fun entry => if entry.1 == key then (key, value) else entry).lookup other =
      if other = key then (entries.lookup key).map fun _ => value
      else entries.lookup other := by
  simp only [beq_iff_eq]
  induction entries with
  | nil => simp
  | cons entry entries ih =>
      rcases entry with ⟨first, present⟩
      simp only [List.map_cons, lookup_cons_ite]
      by_cases isFirst : first = key
      · subst first
        rw [if_pos rfl, lookup_cons_ite, ih]
        by_cases same : other = key <;> simp [same]
      · simp only [if_neg isFirst, lookup_cons_ite, ih]
        by_cases same : other = key
        · subst other
          simp [Ne.symm isFirst]
        · simp [same]

theorem lookup_filter (entries : List (Key × Value)) (key other : Key) :
    (entries.filter (·.1 != key)).lookup other =
      if other = key then none else entries.lookup other := by
  induction entries with
  | nil => simp
  | cons entry entries ih =>
      rcases entry with ⟨first, present⟩
      simp only [List.filter_cons, lookup_cons_ite]
      by_cases isFirst : first = key
      · subst first
        simp only [bne_self_eq_false, Bool.false_eq_true, if_false, ih]
        by_cases same : other = key <;> simp [same]
      · simp only [bne_iff_ne.mpr isFirst, if_true, lookup_cons_ite, ih]
        by_cases same : other = key
        · subst other
          simp [Ne.symm isFirst]
        · simp [same]

theorem lookup_filter_concat (entries : List (Key × Value)) (key other : Key) (value : Value) :
    (entries.filter (·.1 != key) ++ [(key, value)]).lookup other =
      if other = key then some value else entries.lookup other := by
  simp only [List.lookup_append, lookup_filter, lookup_cons_ite, List.lookup_nil]
  by_cases same : other = key <;> simp [same]

omit [DecidableEq Key] in
theorem map_fst_replace (entries : List (Key × Value)) (key : Key) (value : Value) :
    (entries.map fun entry => if entry.1 == key then (key, value) else entry).map Prod.fst =
      entries.map Prod.fst := by
  simp only [List.map_map]
  apply List.map_congr_left
  intro entry _
  by_cases same : entry.1 = key <;> simp [same]

theorem mem_iff_lookup {entries : List (Key × Value)} {key : Key} {value : Value}
    (distinct : (entries.map Prod.fst).Nodup) :
    (key, value) ∈ entries ↔ entries.lookup key = some value := by
  induction entries with
  | nil => simp
  | cons entry entries ih =>
      rcases entry with ⟨first, present⟩
      simp only [List.map_cons, List.nodup_cons] at distinct
      simp only [List.mem_cons, Prod.mk.injEq, lookup_cons_ite, ih distinct.2]
      by_cases isFirst : key = first
      · subst first
        have absent : entries.lookup key ≠ some value := by
          intro found
          exact distinct.1 (List.mem_map.mpr ⟨_, (ih distinct.2).mpr found, rfl⟩)
        simp [absent, eq_comm]
      · simp [isFirst]

omit [DecidableEq Key] in
theorem mem_of_lookup {entries : List (Key × Value)} {key : Key} {value : Value}
    (found : entries.lookup key = some value) : (key, value) ∈ entries := by
  obtain ⟨before, rest, rfl, -⟩ := List.lookup_eq_some_iff.mp found
  simp

theorem nodup_concat {entries : List (Key × Value)} {key : Key}
    (distinct : (entries.map Prod.fst).Nodup) (absent : entries.lookup key = none) :
    (entries.map Prod.fst ++ [key]).Nodup := by
  rw [← List.concat_eq_append]
  apply distinct.concat
  intro isIn
  rcases List.mem_map.mp isIn with ⟨entry, isEntry, rfl⟩
  have found := (mem_iff_lookup distinct).mp isEntry
  simp [absent] at found

variable {entries : List (Key × Value)} {key : Key} {present : Value}

theorem perm_cons_filter (distinct : (entries.map Prod.fst).Nodup)
    (found : entries.lookup key = some present) :
    entries.Perm ((key, present) :: entries.filter (·.1 != key)) := by
  have nodup := List.Nodup.of_map Prod.fst distinct
  apply (List.perm_ext_iff_of_nodup nodup ?_).mpr
  · rintro ⟨other, value⟩
    simp only [List.mem_cons, Prod.mk.injEq, List.mem_filter, bne_iff_ne,
      mem_iff_lookup distinct]
    by_cases same : other = key
    · subst other
      simp [found, eq_comm]
    · simp [same]
  · apply List.nodup_cons.mpr
    exact ⟨by simp, nodup.filter _⟩

theorem perm_replace (distinct : (entries.map Prod.fst).Nodup)
    (found : entries.lookup key = some present) (value : Value) :
    (entries.map fun entry => if entry.1 == key then (key, value) else entry).Perm
      ((key, value) :: entries.filter (·.1 != key)) := by
  have unmoved : ∀ entry ∈ entries.filter (·.1 != key),
      (if entry.1 == key then (key, value) else entry) = entry := by
    intro entry isIn
    have other := (List.mem_filter.mp isIn).2
    simp only [bne, Bool.not_eq_true'] at other
    simp only [other, Bool.false_eq_true, if_false]
  have replaced := (perm_cons_filter distinct found).map fun entry =>
    if entry.1 == key then (key, value) else entry
  simpa only [List.map_cons, beq_self_eq_true, if_true, List.map_congr_left unmoved,
    List.map_id'] using replaced

omit [LawfulBEq Key] [DecidableEq Key] in
theorem nodup_filter (distinct : (entries.map Prod.fst).Nodup) (key : Key) :
    ((entries.filter (·.1 != key)).map Prod.fst).Nodup :=
  distinct.sublist (List.filter_sublist.map Prod.fst)

omit [BEq Key] [LawfulBEq Key] [DecidableEq Key] in
/-- Entries whose values are turned into others, or are left out, keep their keys. -/
theorem map_fst_filterMap_sublist {Other : Type} (entries : List (Key × Value))
    (convert : Value → Option Other) :
    ((entries.filterMap fun entry => (convert entry.2).map (entry.1, ·)).map Prod.fst).Sublist
      (entries.map Prod.fst) := by
  induction entries with
  | nil => exact .slnil
  | cons entry entries ih =>
      cases converted : convert entry.2 with
      | none =>
          simp only [List.filterMap_cons, converted, Option.map_none, List.map_cons]
          exact ih.cons _
      | some other =>
          simp only [List.filterMap_cons, converted, Option.map_some, List.map_cons]
          exact ih.cons_cons _

end Entries

end HttpRelay
