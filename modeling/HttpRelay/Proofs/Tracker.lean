import HttpRelay.Proofs.Entries
import HttpRelay.Tracker

/-!
# Exact counts

The counts of a tracker are those of the guards that are held (`Roster.IsExact`), and whatever is
done with a guard keeps them so. Whoever holds which guard determines both counts, in whatever
order the guards were made (`Roster.IsExact.congr`).
-/

namespace HttpRelay

namespace Tracker

variable {tracker : Tracker} {wasBusy : Bool}

theorem active_mark (tracker : Tracker) (wasBusy isBusy : Bool) :
    (tracker.mark wasBusy isBusy).active = tracker.active := by
  cases wasBusy <;> cases isBusy <;> rfl

theorem active_release (tracker : Tracker) (wasBusy : Bool) :
    (tracker.release wasBusy).active = tracker.active - 1 := by
  simp only [release, setActive, active_mark]

/-- What all other handlers add to the number of busy ones stays. -/
theorem busy_mark {others : Nat} (counted : tracker.busy = others + if wasBusy then 1 else 0)
    (isBusy : Bool) :
    (tracker.mark wasBusy isBusy).busy = others + if isBusy then 1 else 0 := by
  cases wasBusy <;> cases isBusy <;> simp [mark, setBusy, counted]

end Tracker

namespace Roster

variable {roster first second : Roster} {name : String} {wasBusy isBusy : Bool}

section Lookup

theorem isBusy?_mark (roster : Roster) (name other : String) (isBusy : Bool) :
    (roster.mark name isBusy).isBusy? other =
      if other = name then (roster.isBusy? name).map fun _ => isBusy
      else roster.isBusy? other := by
  cases found : roster.isBusy? name with
  | none =>
      simp only [mark, found]
      by_cases same : other = name <;> simp [same, found]
  | some wasBusy =>
      simp only [mark, found]
      simp only [isBusy?] at found
      simp only [isBusy?, Entries.lookup_replace, found]

theorem lookup_others (roster : Roster) (name other : String) :
    (roster.others name).lookup other =
      if other = name then none else roster.isBusy? other :=
  Entries.lookup_filter roster.guards name other

theorem isBusy?_drop (roster : Roster) (name other : String) :
    (roster.drop name).isBusy? other =
      if other = name then none else roster.isBusy? other := by
  cases found : roster.isBusy? name with
  | none =>
      simp only [drop, found]
      by_cases same : other = name <;> simp [same, found]
  | some wasBusy =>
      simp only [drop, found]
      exact lookup_others roster name other

theorem isBusy?_track (isNew : roster.isBusy? name = none) (other : String) :
    (roster.track name).isBusy? other =
      if other = name then some false else roster.isBusy? other := by
  simp only [track, isNew]
  simp only [isBusy?] at isNew ⊢
  simp only [List.lookup_append, Entries.lookup_cons_ite, List.lookup_nil]
  by_cases same : other = name <;> simp [same, isNew]

end Lookup

/-- Every name has at most one guard, and the counts are those of the guards. -/
structure IsExact (roster : Roster) : Prop where
  distinct : (roster.guards.map Prod.fst).Nodup
  active : roster.tracker.active = roster.guards.length
  busy : roster.tracker.busy = roster.guards.countP Prod.snd

namespace IsExact

theorem empty : Roster.empty.IsExact :=
  ⟨List.nodup_nil, rfl, rfl⟩

theorem mem_guards_iff (exact : roster.IsExact) :
    (name, isBusy) ∈ roster.guards ↔ roster.isBusy? name = some isBusy :=
  Entries.mem_iff_lookup exact.distinct

theorem perm_cons_others (exact : roster.IsExact) (found : roster.isBusy? name = some wasBusy) :
    roster.guards.Perm ((name, wasBusy) :: roster.others name) :=
  Entries.perm_cons_filter exact.distinct found

theorem busy_eq (exact : roster.IsExact) (found : roster.isBusy? name = some wasBusy) :
    roster.tracker.busy =
      (roster.others name).countP Prod.snd + if wasBusy then 1 else 0 := by
  simp only [exact.busy, (exact.perm_cons_others found).countP_eq, List.countP_cons]

theorem mark (exact : roster.IsExact) (name : String) (isBusy : Bool) :
    (roster.mark name isBusy).IsExact := by
  cases found : roster.isBusy? name with
  | none =>
      simp only [Roster.mark, found]
      exact exact
  | some wasBusy =>
      have marked := Entries.perm_replace exact.distinct found isBusy
      simp only [Roster.mark, found]
      refine ⟨?_, ?_, ?_⟩
      · simp only [Entries.map_fst_replace]
        exact exact.distinct
      · simp only [Tracker.active_mark, List.length_map]
        exact exact.active
      · simp only [marked.countP_eq, List.countP_cons]
        exact Tracker.busy_mark (exact.busy_eq found) isBusy

theorem drop (exact : roster.IsExact) (name : String) : (roster.drop name).IsExact := by
  cases found : roster.isBusy? name with
  | none =>
      simp only [Roster.drop, found]
      exact exact
  | some wasBusy =>
      simp only [Roster.drop, found]
      refine ⟨Entries.nodup_filter exact.distinct name, ?_, ?_⟩
      · have active := exact.active.trans (exact.perm_cons_others found).length_eq
        simp only [Tracker.active_release, active, List.length_cons, Nat.add_sub_cancel]
      · exact Tracker.busy_mark (exact.busy_eq found) false

theorem track (exact : roster.IsExact) (isNew : roster.isBusy? name = none) :
    (roster.track name).IsExact := by
  simp only [Roster.track, isNew]
  refine ⟨?_, ?_, ?_⟩
  · simp only [List.map_append, List.map_cons, List.map_nil]
    exact Entries.nodup_concat exact.distinct isNew
  · simp only [Tracker.track, Tracker.setActive, exact.active, List.length_append,
      List.length_singleton]
  · simp only [List.countP_append]
    exact exact.busy

/-- The counts are determined by who is busy. -/
theorem congr (exact : first.IsExact) (otherExact : second.IsExact)
    (same : ∀ name, first.isBusy? name = second.isBusy? name) :
    first.tracker.active = second.tracker.active ∧ first.tracker.busy = second.tracker.busy := by
  have perm : first.guards.Perm second.guards := by
    apply (List.perm_ext_iff_of_nodup (.of_map _ exact.distinct)
      (.of_map _ otherExact.distinct)).mpr
    rintro ⟨name, isBusy⟩
    simp only [exact.mem_guards_iff, otherExact.mem_guards_iff, same]
  exact ⟨exact.active.trans (perm.length_eq.trans otherExact.active.symm),
    exact.busy.trans ((perm.countP_eq _).trans otherExact.busy.symm)⟩

theorem counts_of_free (exact : roster.IsExact) (free : ∀ name, roster.isBusy? name = none) :
    roster.tracker.active = 0 ∧ roster.tracker.busy = 0 :=
  exact.congr .empty free

end IsExact

end Roster

end HttpRelay
