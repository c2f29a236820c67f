import Mathlib.Data.List.Induction
import HttpRelay.Proofs.Tracker

/-!
# Histories of a tracker

What a tracker counts and publishes after any sequence of operations on guards. The guards that are
held are those that were made and not dropped since, each with the flag of its last mark
(`Roster.HasFlag`), and both counts and both gauges say the same about them
(`Roster.IsAccounted`). No operation takes anything from a count of zero (`Roster.CanApply`), and
operations under different names do not disturb each other.
-/

namespace HttpRelay

namespace Tracker

variable {tracker : Tracker}

/-- A handler that was busy is not marked idle unless it is counted. -/
def CanMark (tracker : Tracker) (wasBusy isBusy : Bool) : Prop :=
  wasBusy = true → isBusy = false → 0 < tracker.busy

/-- A handler does not go away unless it is counted. -/
def CanRelease (tracker : Tracker) (wasBusy : Bool) : Prop :=
  tracker.CanMark wasBusy false ∧ 0 < (tracker.mark wasBusy false).active

/-- A count is published once there was a reason for it, and then it is the current one. -/
def IsPublished (gauge : Option Nat) (count : Nat) (reason : Prop) : Prop :=
  (reason → gauge = some count) ∧ (¬reason → gauge = Option.none)

theorem activeGauge_mark (tracker : Tracker) (wasBusy isBusy : Bool) :
    (tracker.mark wasBusy isBusy).activeGauge = tracker.activeGauge := by
  cases wasBusy <;> cases isBusy <;> rfl

theorem mark_self (tracker : Tracker) (isBusy : Bool) : tracker.mark isBusy isBusy = tracker := by
  cases isBusy <;> rfl

theorem busyGauge_mark_of_ne {wasBusy isBusy : Bool} (turns : wasBusy ≠ isBusy) :
    (tracker.mark wasBusy isBusy).busyGauge = some (tracker.mark wasBusy isBusy).busy := by
  cases wasBusy <;> cases isBusy <;> first | rfl | contradiction

theorem IsPublished.now {gauge : Option Nat} {count : Nat} {reason : Prop}
    (published : gauge = some count) (isReason : reason) : IsPublished gauge count reason :=
  ⟨fun _ => published, fun noReason => (noReason isReason).elim⟩

/-- A mark publishes the number of busy handlers when it turns a flag, and only then. -/
theorem IsPublished.mark {wasBusy isBusy : Bool} {before after : Prop}
    (published : IsPublished tracker.busyGauge tracker.busy before)
    (turned : wasBusy ≠ isBusy → after) (kept : wasBusy = isBusy → (after ↔ before)) :
    IsPublished (tracker.mark wasBusy isBusy).busyGauge (tracker.mark wasBusy isBusy).busy
      after := by
  by_cases same : wasBusy = isBusy
  · subst isBusy
    rw [mark_self, kept rfl]
    exact published
  · exact .now (busyGauge_mark_of_ne same) (turned same)

end Tracker

namespace Roster

variable {roster : Roster} {steps : List (String × Operation)} {name other : String}
  {wasBusy isBusy : Bool}

/-- The guards after a sequence of operations, each with the name of its guard. -/
def run (steps : List (String × Operation)) : Roster :=
  steps.foldl (fun roster step => roster.apply step.1 step.2) empty

/-- Everything that an operation takes from a count is there. -/
def CanApply (roster : Roster) (name : String) : Operation → Prop
  | .track => ∀ wasBusy ∈ roster.isBusy? name, roster.tracker.track.CanRelease wasBusy
  | .mark isBusy => ∀ wasBusy ∈ roster.isBusy? name, roster.tracker.CanMark wasBusy isBusy
  | .drop => ∀ wasBusy ∈ roster.isBusy? name, roster.tracker.CanRelease wasBusy

/-- The operations under a name. -/
def own (name : String) (steps : List (String × Operation)) : List Operation :=
  (steps.filter (·.1 == name)).map Prod.snd

/-- A guard that was made and not dropped since, with the flag of its last mark. -/
def HasFlag (name : String) (steps : List (String × Operation)) (isBusy : Bool) : Prop :=
  ∃ (earlier : List Operation) (marks : List Bool),
    own name steps = earlier ++ .track :: marks.map .mark ∧ marks.getLast?.getD false = isBusy

/-- Some guard was made. -/
def HasMade (steps : List (String × Operation)) : Prop :=
  ∃ name, (name, .track) ∈ steps

/-- Some mark turned the flag of a guard. -/
def HasTurned (steps : List (String × Operation)) : Prop :=
  ∃ before name isBusy after,
    steps = before ++ (name, .mark isBusy) :: after ∧ HasFlag name before (!isBusy)

/-- What is counted and published after a sequence of operations is what the operations say. -/
structure IsAccounted (steps : List (String × Operation)) (roster : Roster) : Prop where
  distinct : (roster.guards.map Prod.fst).Nodup
  guards : ∀ name isBusy, (name, isBusy) ∈ roster.guards ↔ HasFlag name steps isBusy
  active : roster.tracker.active = roster.guards.length
  busy : roster.tracker.busy = roster.guards.countP Prod.snd
  busy_le : roster.tracker.busy ≤ roster.tracker.active
  activeGauge : Tracker.IsPublished roster.tracker.activeGauge roster.tracker.active
    (HasMade steps)
  busyGauge : Tracker.IsPublished roster.tracker.busyGauge roster.tracker.busy (HasTurned steps)

/-- Two trackers with the same counts, and the same flags under the same names. -/
def Agrees (first second : Roster) : Prop :=
  first.tracker.active = second.tracker.active ∧ first.tracker.busy = second.tracker.busy ∧
    ∀ name, first.isBusy? name = second.isBusy? name

section Flags

/-- The flag of a guard after an operation under its name, if there is a guard. -/
def Operation.flag? (before : Option Bool) : Operation → Option Bool
  | .track => some false
  | .mark isBusy => before.map fun _ => isBusy
  | .drop => none

theorem run_concat (steps : List (String × Operation)) (name : String) (operation : Operation) :
    run (steps ++ [(name, operation)]) = (run steps).apply name operation := by
  simp only [run, List.foldl_append, List.foldl_cons, List.foldl_nil]

/-- An operation changes the flag under its name, and no other. -/
theorem isBusy?_apply (roster : Roster) (name other : String) (operation : Operation) :
    (roster.apply name operation).isBusy? other =
      if other = name then operation.flag? (roster.isBusy? name) else roster.isBusy? other := by
  cases operation with
  | mark isBusy => exact isBusy?_mark roster name other isBusy
  | drop => exact isBusy?_drop roster name other
  | track =>
      cases found : roster.isBusy? name with
      | none => exact isBusy?_track found other
      | some wasBusy =>
          simp only [apply, track, found]
          exact Entries.lookup_filter_concat roster.guards name other false

theorem own_concat (steps : List (String × Operation)) (name other : String)
    (operation : Operation) :
    own other (steps ++ [(name, operation)]) =
      own other steps ++ if other = name then [operation] else [] := by
  by_cases same : other = name
  · simp [own, same]
  · simp [own, same, Ne.symm same]

theorem not_hasFlag_nil : ¬HasFlag name [] isBusy := by
  rintro ⟨earlier, marks, same, -⟩
  simp [own] at same

theorem hasFlag_concat_of_ne (different : other ≠ name) (operation : Operation) :
    HasFlag other (steps ++ [(name, operation)]) isBusy ↔ HasFlag other steps isBusy := by
  simp only [HasFlag, own_concat, if_neg different, List.append_nil]

/-- What the last operation under a name leaves of the ones before it. -/
theorem hasFlag_concat (steps : List (String × Operation)) (name : String)
    (operation : Operation) (isBusy : Bool) :
    HasFlag name (steps ++ [(name, operation)]) isBusy ↔
      match operation with
      | .track => isBusy = false
      | .mark marked => marked = isBusy ∧ ∃ wasBusy, HasFlag name steps wasBusy
      | .drop => False := by
  simp only [HasFlag, own_concat, if_pos]
  constructor
  · rintro ⟨earlier, marks, same, flag⟩
    rcases List.eq_nil_or_concat marks with rfl | ⟨marks, marked, rfl⟩
    · obtain ⟨-, last⟩ := List.append_inj' same rfl
      obtain rfl := List.singleton_inj.mp last
      exact flag.symm
    · have split : own name steps ++ [operation] =
          (earlier ++ .track :: marks.map .mark) ++ [.mark marked] := by
        simpa using same
      obtain ⟨before, last⟩ := List.append_inj' split rfl
      obtain rfl := List.singleton_inj.mp last
      exact ⟨by simpa using flag, _, earlier, marks, before, rfl⟩
  · intro left
    cases operation with
    | track => exact ⟨own name steps, [], rfl, left.symm⟩
    | mark marked =>
        obtain ⟨rfl, -, earlier, marks, before, -⟩ := left
        exact ⟨earlier, marks ++ [marked], by simp [before], by simp⟩
    | drop => exact left.elim

/-- The guards that are held are those that the operations left. -/
theorem isBusy?_run_iff (steps : List (String × Operation)) (name : String) (isBusy : Bool) :
    (run steps).isBusy? name = some isBusy ↔ HasFlag name steps isBusy := by
  induction steps using List.reverseRecOn generalizing isBusy with
  | nil => exact iff_of_false (by simp [run, empty, isBusy?]) not_hasFlag_nil
  | append_singleton steps step ih =>
      rcases step with ⟨changed, operation⟩
      rw [run_concat, isBusy?_apply]
      by_cases same : name = changed
      · subst changed
        rw [if_pos rfl, hasFlag_concat]
        cases operation with
        | track => simp [Operation.flag?, eq_comm]
        | mark marked => simp [Operation.flag?, ← ih, and_comm]
        | drop => simp [Operation.flag?]
      · rw [if_neg same, hasFlag_concat_of_ne same, ih]

theorem hasTurned_concat (steps : List (String × Operation)) (name : String)
    (operation : Operation) :
    HasTurned (steps ++ [(name, operation)]) ↔
      HasTurned steps ∨ ∃ isBusy, operation = .mark isBusy ∧ HasFlag name steps (!isBusy) := by
  constructor
  · rintro ⟨before, turned, isBusy, after, same, flag⟩
    rcases List.eq_nil_or_concat after with rfl | ⟨after, last, rfl⟩
    · obtain ⟨rfl, last⟩ := List.append_inj' same rfl
      obtain ⟨rfl, rfl⟩ := Prod.mk.inj (List.singleton_inj.mp last)
      exact .inr ⟨isBusy, rfl, flag⟩
    · have split : steps ++ [(name, operation)] =
          (before ++ (turned, .mark isBusy) :: after) ++ [last] := by
        simpa using same
      obtain ⟨rfl, -⟩ := List.append_inj' split rfl
      exact .inl ⟨before, turned, isBusy, after, rfl, flag⟩
  · rintro (⟨before, turned, isBusy, after, rfl, flag⟩ | ⟨isBusy, rfl, flag⟩)
    · exact ⟨before, turned, isBusy, after ++ [(name, operation)], by simp, flag⟩
    · exact ⟨steps, name, isBusy, [], rfl, flag⟩

/-- A guard that is busy has been turned. -/
theorem hasTurned_of_busy (busy : HasFlag name steps true) : HasTurned steps := by
  induction steps using List.reverseRecOn generalizing name with
  | nil => exact (not_hasFlag_nil busy).elim
  | append_singleton steps step ih =>
      rcases step with ⟨changed, operation⟩
      rw [hasTurned_concat]
      by_cases same : name = changed
      · subst changed
        rw [hasFlag_concat] at busy
        cases operation with
        | track => contradiction
        | mark marked =>
            obtain ⟨rfl, wasBusy, before⟩ := busy
            -- The mark turned the guard, unless an earlier one did.
            cases wasBusy with
            | false => exact .inr ⟨true, rfl, before⟩
            | true => exact .inl (ih before)
        | drop => exact busy.elim
      · exact .inl (ih ((hasFlag_concat_of_ne same operation).mp busy))

end Flags

section Counts

/-- A guard that takes the place of another counts as it did. -/
theorem IsExact.retrack (exact : roster.IsExact) (found : roster.isBusy? name = some wasBusy) :
    (roster.track name).IsExact := by
  simp only [Roster.track, found]
  have active := exact.active.trans (exact.perm_cons_others found).length_eq
  have absent : (roster.others name).lookup name = none := by
    rw [lookup_others, if_pos rfl]
  refine ⟨?_, ?_, ?_⟩
  · simp only [List.map_append, List.map_cons, List.map_nil]
    exact Entries.nodup_concat (Entries.nodup_filter exact.distinct name) absent
  · simp only [Tracker.active_release, Tracker.track, Tracker.setActive, active, List.length_cons,
      List.length_append, List.length_nil, Nat.add_sub_cancel]
  · have counted : roster.tracker.track.busy = _ := exact.busy_eq found
    rw [List.countP_append]
    exact Tracker.busy_mark counted false

theorem IsExact.apply (exact : roster.IsExact) (name : String) (operation : Operation) :
    (roster.apply name operation).IsExact := by
  cases operation with
  | track =>
      cases found : roster.isBusy? name with
      | none => exact exact.track found
      | some wasBusy => exact exact.retrack found
  | mark isBusy => exact exact.mark name isBusy
  | drop => exact exact.drop name

theorem isExact_run (steps : List (String × Operation)) : (run steps).IsExact := by
  induction steps using List.reverseRecOn with
  | nil => exact .empty
  | append_singleton steps step ih =>
      rw [run_concat]
      exact ih.apply step.1 step.2

theorem IsExact.busy_le (exact : roster.IsExact) : roster.tracker.busy ≤ roster.tracker.active := by
  rw [exact.busy, exact.active]
  exact List.countP_le_length

theorem IsExact.canMark (exact : roster.IsExact) (found : roster.isBusy? name = some wasBusy)
    (isBusy : Bool) : roster.tracker.CanMark wasBusy isBusy := by
  rintro rfl -
  rw [exact.busy_eq found]
  exact Nat.succ_pos _

theorem IsExact.active_pos (exact : roster.IsExact) (found : roster.isBusy? name = some wasBusy) :
    0 < roster.tracker.active := by
  rw [exact.active, (exact.perm_cons_others found).length_eq]
  exact Nat.succ_pos _

/-- Counts that are those of the guards have what any operation takes from them. -/
theorem IsExact.canApply (exact : roster.IsExact) (name : String) (operation : Operation) :
    roster.CanApply name operation := by
  cases operation with
  | mark isBusy =>
      intro wasBusy found
      exact exact.canMark found isBusy
  | drop =>
      intro wasBusy found
      refine ⟨exact.canMark found false, ?_⟩
      rw [Tracker.active_mark]
      exact exact.active_pos found
  | track =>
      intro wasBusy found
      refine ⟨exact.canMark found false, ?_⟩
      rw [Tracker.active_mark]
      exact Nat.succ_pos _

end Counts

section Gauges

theorem hasMade_of_hasFlag (held : HasFlag name steps isBusy) : HasMade steps := by
  obtain ⟨earlier, marks, same, -⟩ := held
  have isIn : .track ∈ own name steps := by simp [same]
  exact ⟨name, by simpa [own] using isIn⟩

theorem hasMade_concat_of_ne (name : String) (operation : Operation)
    (different : operation ≠ .track) :
    HasMade (steps ++ [(name, operation)]) ↔ HasMade steps := by
  simp [HasMade, different.symm]

theorem activeGauge_run (steps : List (String × Operation)) :
    Tracker.IsPublished (run steps).tracker.activeGauge (run steps).tracker.active
      (HasMade steps) := by
  induction steps using List.reverseRecOn with
  | nil => exact ⟨by simp [HasMade], fun _ => rfl⟩
  | append_singleton steps step ih =>
      rcases step with ⟨name, operation⟩
      rw [run_concat]
      cases operation with
      | track =>
          have published : ((run steps).track name).tracker.activeGauge =
              some ((run steps).track name).tracker.active := by
            cases found : (run steps).isBusy? name <;> simp only [track, found] <;> rfl
          exact .now published ⟨name, by simp⟩
      | mark marked =>
          rw [hasMade_concat_of_ne name (.mark marked) (by simp)]
          cases found : (run steps).isBusy? name with
          | none => simpa only [apply, mark, found] using ih
          | some wasBusy =>
              simpa only [apply, mark, found, Tracker.activeGauge_mark,
                Tracker.active_mark] using ih
      | drop =>
          rw [hasMade_concat_of_ne name .drop (by simp)]
          cases found : (run steps).isBusy? name with
          | none => simpa only [apply, drop, found] using ih
          | some wasBusy =>
              have made := hasMade_of_hasFlag ((isBusy?_run_iff steps name wasBusy).mp found)
              simp only [apply, drop, found]
              exact .now rfl made

/-- On the number of busy handlers every operation acts as a mark does. A guard that is not there
counts as one that is idle. -/
theorem busy_apply (roster : Roster) (name : String) (operation : Operation) :
    let marked := roster.tracker.mark ((roster.isBusy? name).getD false)
      ((operation.flag? (roster.isBusy? name)).getD false)
    (roster.apply name operation).tracker.busy = marked.busy ∧
      (roster.apply name operation).tracker.busyGauge = marked.busyGauge := by
  cases found : roster.isBusy? name with
  | none => cases operation <;> simp only [apply, track, mark, drop, found] <;> exact ⟨rfl, rfl⟩
  | some wasBusy =>
      cases operation <;> cases wasBusy <;> simp only [apply, track, mark, drop, found] <;>
        exact ⟨rfl, rfl⟩

/-- An operation that is no effective mark turns a flag only if it was turned before. -/
theorem hasTurned_of_ne {operation : Operation}
    (turns : ((run steps).isBusy? name).getD false ≠
      (operation.flag? ((run steps).isBusy? name)).getD false) :
    HasTurned (steps ++ [(name, operation)]) := by
  rw [hasTurned_concat]
  cases found : (run steps).isBusy? name with
  | none => cases operation <;> simp [found, Operation.flag?] at turns
  | some wasBusy =>
      have held := (isBusy?_run_iff steps name wasBusy).mp found
      cases operation with
      | mark isBusy =>
          have differs : wasBusy = !isBusy :=
            Bool.eq_not.mpr (by simpa [found, Operation.flag?] using turns)
          exact .inr ⟨isBusy, rfl, differs ▸ held⟩
      | track | drop =>
          obtain rfl : wasBusy = true := by simpa [found, Operation.flag?] using turns
          exact .inl (hasTurned_of_busy held)

theorem hasTurned_iff_of_eq {operation : Operation}
    (stays : ((run steps).isBusy? name).getD false =
      (operation.flag? ((run steps).isBusy? name)).getD false) :
    HasTurned (steps ++ [(name, operation)]) ↔ HasTurned steps := by
  rw [hasTurned_concat, or_iff_left]
  rintro ⟨isBusy, rfl, held⟩
  have found := (isBusy?_run_iff steps name (!isBusy)).mpr held
  simp [found, Operation.flag?] at stays

theorem busyGauge_run (steps : List (String × Operation)) :
    Tracker.IsPublished (run steps).tracker.busyGauge (run steps).tracker.busy
      (HasTurned steps) := by
  induction steps using List.reverseRecOn with
  | nil =>
      refine ⟨?_, fun _ => rfl⟩
      rintro ⟨before, name, isBusy, after, same, -⟩
      simp at same
  | append_singleton steps step ih =>
      rcases step with ⟨name, operation⟩
      obtain ⟨busy, gauge⟩ := busy_apply (run steps) name operation
      rw [run_concat, busy, gauge]
      exact ih.mark hasTurned_of_ne hasTurned_iff_of_eq

end Gauges

section Independence

theorem isAccounted_run (steps : List (String × Operation)) : (run steps).IsAccounted steps where
  distinct := (isExact_run steps).distinct
  guards name isBusy := by rw [(isExact_run steps).mem_guards_iff, isBusy?_run_iff]
  active := (isExact_run steps).active
  busy := (isExact_run steps).busy
  busy_le := (isExact_run steps).busy_le
  activeGauge := activeGauge_run steps
  busyGauge := busyGauge_run steps

theorem isBusy?_apply_of_ne (different : other ≠ name) (operation : Operation) :
    (roster.apply name operation).isBusy? other = roster.isBusy? other := by
  rw [isBusy?_apply, if_neg different]

theorem IsExact.apply_comm (exact : roster.IsExact) (different : name ≠ other)
    (operation otherOperation : Operation) :
    Agrees ((roster.apply name operation).apply other otherOperation)
      ((roster.apply other otherOperation).apply name operation) := by
  have flags : ∀ third,
      ((roster.apply name operation).apply other otherOperation).isBusy? third =
        ((roster.apply other otherOperation).apply name operation).isBusy? third := by
    intro third
    simp only [isBusy?_apply, if_neg different, if_neg different.symm]
    by_cases isFirst : third = name
    · simp only [isFirst, if_neg different, if_pos]
    · simp only [if_neg isFirst]
  obtain ⟨active, busy⟩ := ((exact.apply name operation).apply other otherOperation).congr
    ((exact.apply other otherOperation).apply name operation) flags
  exact ⟨active, busy, flags⟩

/-- After any operations on guards, both counts and both gauges are those of the guards that are
held. Whatever is done next takes nothing from a count of zero and leaves all other guards as they
are, and it does not matter which of two operations under different names comes first. -/
theorem accounts_run (steps : List (String × Operation)) :
    (run steps).IsAccounted steps ∧
      ∀ name operation, (run steps).CanApply name operation ∧
        ∀ other, other ≠ name →
          ((run steps).apply name operation).isBusy? other = (run steps).isBusy? other ∧
            ∀ otherOperation,
              Agrees (run (steps ++ [(name, operation), (other, otherOperation)]))
                (run (steps ++ [(other, otherOperation), (name, operation)])) := by
  have exact := isExact_run steps
  refine ⟨isAccounted_run steps, fun name operation => ⟨exact.canApply name operation, ?_⟩⟩
  intro other different
  refine ⟨isBusy?_apply_of_ne different operation, fun otherOperation => ?_⟩
  have split : ∀ first second : String × Operation,
      run (steps ++ [first, second]) =
        ((run steps).apply first.1 first.2).apply second.1 second.2 := by
    intro first second
    rw [← run_concat, ← run_concat, List.append_assoc]
    rfl
  rw [split, split]
  exact exact.apply_comm different.symm operation otherOperation

/-- A busy guard whose name is tracked again makes way for an idle one. -/
example :
    (run [("g", .track), ("h", .track), ("g", .mark true), ("g", .track)]).tracker =
      ⟨2, 0, some 2, some 0⟩ := by
  decide

end Independence

end Roster

end HttpRelay
