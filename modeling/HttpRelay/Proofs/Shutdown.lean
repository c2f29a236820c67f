import Mathlib.Logic.Relation
import HttpRelay.Proofs.Entries
import HttpRelay.Shutdown

/-!
# Who is told of a shutdown

Which signals are triggered after any history of operations on coordinators and signals. A history
says which coordinator a name stands for (`Shutdown.maker?`), which coordinator a signal descends
from (`Shutdown.origin?`) and which coordinators are clones of each other, in any number of steps
(`Shutdown.Connected`), with no channel mentioned. A signal is triggered if and only if some
coordinator that is connected with its origin was (`Shutdown.IsTriggered`), and waits for it come
to the same, whenever they began.

Every step is known by the number of steps before it, and a coordinator by the step that made it.
-/

namespace HttpRelay

namespace Shutdown

variable {history earlier : List Operation} {operation : Operation}
  {name other source : String} {coordinator parent origin channel : Nat}

/-- The state after a history, which has the latest operation first. -/
def after : List Operation → Shutdown
  | [] => empty
  | operation :: earlier => (after earlier).apply operation

/-- The coordinator that a name stands for. A clone of a coordinator that is not there is none. -/
def maker? : List Operation → String → Option Nat
  | [], _ => none
  | .create made :: earlier, name =>
      if name = made then some earlier.length else maker? earlier name
  | .clone made source :: earlier, name =>
      if name = made then ((maker? earlier source).map fun _ => earlier.length).or
        (maker? earlier name)
      else maker? earlier name
  | .drop dropped :: earlier, name => if name = dropped then none else maker? earlier name
  | .subscribe _ _ :: earlier, name | .cloneSignal _ _ :: earlier, name
  | .trigger _ :: earlier, name | .dropSignal _ :: earlier, name => maker? earlier name

/-- The coordinator that the signal of a name descends from. -/
def origin? : List Operation → String → Option Nat
  | [], _ => none
  | .subscribe made source :: earlier, name =>
      if name = made then (maker? earlier source).or (origin? earlier name)
      else origin? earlier name
  | .cloneSignal made source :: earlier, name =>
      if name = made then (origin? earlier source).or (origin? earlier name)
      else origin? earlier name
  | .dropSignal dropped :: earlier, name => if name = dropped then none else origin? earlier name
  | .create _ :: earlier, name | .clone _ _ :: earlier, name
  | .trigger _ :: earlier, name | .drop _ :: earlier, name => origin? earlier name

/-- Some step of a history is as described, given the steps before it. -/
def Occurs (history : List Operation) (described : Operation → List Operation → Prop) : Prop :=
  ∃ later operation earlier, history = later ++ operation :: earlier ∧
    described operation earlier

/-- A coordinator is a clone that some step made of another one. -/
def Cloned (history : List Operation) (coordinator parent : Nat) : Prop :=
  Occurs history fun operation earlier => ∃ name source, operation = .clone name source ∧
    maker? earlier source = some parent ∧ coordinator = earlier.length

/-- Coordinators that are the same up to any chain of clones. -/
def Connected (history : List Operation) : Nat → Nat → Prop :=
  Relation.EqvGen (Cloned history)

/-- Some step triggered a coordinator. -/
def Triggers (history : List Operation) (coordinator : Nat) : Prop :=
  Occurs history fun operation earlier => ∃ name, operation = .trigger name ∧
    maker? earlier name = some coordinator

/-- Some step triggered a coordinator that is connected with this one. -/
def IsTriggered (history : List Operation) (origin : Nat) : Prop :=
  ∃ coordinator, Triggers history coordinator ∧ Connected history coordinator origin

section Bindings

theorem lookup_bind (name other : String) (channel : Nat) (bound : List (String × Nat)) :
    (bind name channel bound).lookup other =
      if other = name then some channel else bound.lookup other :=
  Entries.lookup_filter_concat bound name other channel

theorem lookup_bindLike (name source other : String) (channels bound : List (String × Nat)) :
    (bindLike name source channels bound).lookup other =
      if other = name then (channels.lookup source).or (bound.lookup other)
      else bound.lookup other := by
  cases found : channels.lookup source with
  | none => simp [bindLike, found]
  | some channel => simp [bindLike, found, lookup_bind]

theorem getD_concat_false (channels : List Bool) (channel : Nat) :
    (channels ++ [false]).getD channel false = channels.getD channel false := by
  simp only [List.getD_eq_getElem?_getD]
  by_cases isOld : channel < channels.length
  · rw [List.getElem?_append_left isOld]
  · have isNew : channels.length ≤ channel := Nat.le_of_not_lt isOld
    rw [List.getElem?_append_right isNew, List.getElem?_eq_none isNew]
    cases channel - channels.length <;> rfl

theorem getD_set_true (channels : List Bool) (set channel : Nat) :
    (channels.set set true).getD channel false = true ↔
      channels.getD channel false = true ∨ channel < channels.length ∧ set = channel := by
  simp only [List.getD_eq_getElem?_getD, List.getElem?_set]
  by_cases same : set = channel
  · by_cases isThere : channel < channels.length <;> simp [same, isThere]
  · simp [same]

/-- A channel is triggered through its coordinators and in no other way, and stays so. -/
theorem wasTriggered_apply (shutdown : Shutdown) (operation : Operation) (channel : Nat) :
    (shutdown.apply operation).wasTriggered channel = true ↔
      shutdown.wasTriggered channel = true ∨
        channel < shutdown.channels.length ∧ ∃ name, operation = .trigger name ∧
          shutdown.coordinators.lookup name = some channel := by
  cases operation with
  | create name =>
      simp only [wasTriggered, apply, getD_concat_false, reduceCtorEq, false_and, exists_false,
        and_false, or_false]
  | trigger name =>
      simp only [wasTriggered, apply, Operation.trigger.injEq, exists_eq_left']
      cases found : shutdown.coordinators.lookup name with
      | none => simp
      | some set => simp only [getD_set_true, Option.some.injEq]
  | clone name source | subscribe name source | cloneSignal name source | drop name
  | dropSignal name => simp [wasTriggered, apply]

theorem length_channels_apply (shutdown : Shutdown) (operation : Operation) :
    shutdown.channels.length ≤ (shutdown.apply operation).channels.length := by
  cases operation with
  | trigger name => cases found : shutdown.coordinators.lookup name <;> simp [apply, found]
  | create name | clone name source | subscribe name source | cloneSignal name source
  | drop name | dropSignal name => simp [apply]

end Bindings

section Steps

theorem not_occurs_nil {described : Operation → List Operation → Prop} :
    ¬Occurs [] described := by
  rintro ⟨later, operation, earlier, same, -⟩
  simp at same

theorem occurs_cons_iff {described : Operation → List Operation → Prop} :
    Occurs (operation :: earlier) described ↔
      Occurs earlier described ∨ described operation earlier := by
  constructor
  · rintro ⟨later, latest, before, same, holds⟩
    cases later with
    | nil =>
        obtain ⟨rfl, rfl⟩ := List.cons.inj same
        exact .inr holds
    | cons _ later =>
        obtain ⟨rfl, rfl⟩ := List.cons.inj same
        exact .inl ⟨later, latest, before, rfl, holds⟩
  · rintro (⟨later, latest, before, rfl, holds⟩ | holds)
    · exact ⟨operation :: later, latest, before, rfl, holds⟩
    · exact ⟨[], operation, earlier, rfl, holds⟩

end Steps

section Makers

/-- An operation makes a coordinator, which may be a clone of one that is there. -/
def Makes (operation : Operation) (earlier : List Operation) : Prop :=
  (∃ made, operation = .create made) ∨
    ∃ made source parent, operation = .clone made source ∧ maker? earlier source = some parent

/-- A name stands for a coordinator from before, or for the one that the latest step made. -/
theorem maker?_cons_eq_some (stands : maker? (operation :: earlier) name = some coordinator) :
    (∃ other, maker? earlier other = some coordinator) ∨
      coordinator = earlier.length ∧ Makes operation earlier := by
  cases operation with
  | create made =>
      simp only [maker?] at stands
      split at stands
      · exact .inr ⟨(Option.some.inj stands).symm, .inl ⟨made, rfl⟩⟩
      · exact .inl ⟨name, stands⟩
  | clone made source =>
      simp only [maker?] at stands
      split at stands
      · cases found : maker? earlier source with
        | none =>
            rw [found] at stands
            exact .inl ⟨name, stands⟩
        | some parent =>
            rw [found] at stands
            exact .inr ⟨(Option.some.inj stands).symm, .inr ⟨made, source, parent, rfl, found⟩⟩
      · exact .inl ⟨name, stands⟩
  | drop dropped =>
      simp only [maker?] at stands
      split at stands
      · contradiction
      · exact .inl ⟨name, stands⟩
  | subscribe made source | cloneSignal made source | trigger triggered | dropSignal dropped =>
      exact .inl ⟨name, stands⟩

/-- Some name once stood for a coordinator. -/
inductive IsMade : List Operation → Nat → Prop
  | now {history : List Operation} {name : String} {coordinator : Nat}
      (stands : maker? history name = some coordinator) : IsMade history coordinator
  | before {earlier : List Operation} {operation : Operation} {coordinator : Nat}
      (isMade : IsMade earlier coordinator) : IsMade (operation :: earlier) coordinator

theorem IsMade.cons_cases (isMade : IsMade (operation :: earlier) coordinator) :
    IsMade earlier coordinator ∨ coordinator = earlier.length ∧ Makes operation earlier := by
  cases isMade with
  | before isMade => exact .inl isMade
  | now stands =>
      rcases maker?_cons_eq_some stands with ⟨other, stands⟩ | isNew
      · exact .inl (.now stands)
      · exact .inr isNew

theorem IsMade.lt (isMade : IsMade history coordinator) : coordinator < history.length := by
  induction history with
  | nil =>
      cases isMade with
      | now stands => contradiction
  | cons operation earlier ih =>
      rcases isMade.cons_cases with isOld | ⟨rfl, -⟩
      · exact Nat.lt_succ_of_lt (ih isOld)
      · exact Nat.lt_succ_self _

theorem maker?_lt (stands : maker? history name = some coordinator) :
    coordinator < history.length :=
  (IsMade.now stands).lt

/-- A signal descends from a coordinator that was made. -/
theorem IsMade.of_origin? (descends : origin? history name = some origin) :
    IsMade history origin := by
  induction history generalizing name with
  | nil => contradiction
  | cons operation earlier ih =>
      apply IsMade.before
      cases operation with
      | subscribe made source =>
          simp only [origin?] at descends
          split at descends
          · rcases Option.or_eq_some_iff.mp descends with stands | ⟨-, kept⟩
            · exact .now stands
            · exact ih kept
          · exact ih descends
      | cloneSignal made source =>
          simp only [origin?] at descends
          split at descends
          · rcases Option.or_eq_some_iff.mp descends with shared | ⟨-, kept⟩
            · exact ih shared
            · exact ih kept
          · exact ih descends
      | dropSignal dropped =>
          simp only [origin?] at descends
          split at descends
          · contradiction
          · exact ih descends
      | create made | clone made source | trigger triggered | drop dropped => exact ih descends

end Makers

section Channels

/-- The number of the channel of a coordinator. -/
def channelOf : List Operation → Nat → Nat
  | [], _ => 0
  | operation :: earlier, coordinator =>
      if coordinator < earlier.length then channelOf earlier coordinator
      else match operation with
        | .clone _ source => ((maker? earlier source).map (channelOf earlier)).getD 0
        | _ => (after earlier).channels.length

theorem channelOf_cons_of_lt (isOld : coordinator < earlier.length) :
    channelOf (operation :: earlier) coordinator = channelOf earlier coordinator := by
  simp only [channelOf, if_pos isOld]

theorem channelOf_cons_create (earlier : List Operation) (name : String) :
    channelOf (.create name :: earlier) earlier.length = (after earlier).channels.length := by
  simp only [channelOf, Nat.lt_irrefl, if_false]

theorem channelOf_cons_clone (stands : maker? earlier source = some parent) (name : String) :
    channelOf (.clone name source :: earlier) earlier.length = channelOf earlier parent := by
  simp only [channelOf, Nat.lt_irrefl, if_false, stands, Option.map_some, Option.getD_some]

theorem map_channelOf_cons (operation : Operation) {made : Option Nat}
    (areOld : ∀ coordinator, made = some coordinator → coordinator < earlier.length) :
    made.map (channelOf (operation :: earlier)) = made.map (channelOf earlier) := by
  cases made with
  | none => rfl
  | some coordinator =>
      exact congrArg some (channelOf_cons_of_lt (areOld coordinator rfl))

/-- A coordinator sends on the channel of the one that its name stands for. -/
theorem lookup_coordinators (history : List Operation) (name : String) :
    (after history).coordinators.lookup name = (maker? history name).map (channelOf history) := by
  induction history generalizing name with
  | nil => rfl
  | cons operation earlier ih =>
      have old := fun other : String => map_channelOf_cons operation
        fun coordinator (stands : maker? earlier other = some coordinator) => maker?_lt stands
      cases operation with
      | create made =>
          simp only [after, apply, lookup_bind, maker?]
          split
          · rw [Option.map_some, channelOf_cons_create]
          · rw [ih, old]
      | clone made source =>
          simp only [after, apply, lookup_bindLike, maker?]
          split
          · rw [Option.map_or, old, ih, ih]
            cases found : maker? earlier source with
            | none => rfl
            | some parent =>
                simp only [Option.map_some, channelOf_cons_clone found]
          · rw [ih, old]
      | trigger triggered =>
          simp only [maker?]
          rw [old, ← ih]
          simp only [after, apply]
          split <;> rfl
      | drop dropped =>
          simp only [after, apply, maker?, Entries.lookup_filter]
          split
          · rfl
          · rw [ih, old]
      | subscribe made source | cloneSignal made source | dropSignal dropped =>
          simp only [after, apply, maker?]
          rw [ih, old]

/-- A signal listens on the channel of the coordinator that it descends from. -/
theorem lookup_signals (history : List Operation) (name : String) :
    (after history).signals.lookup name = (origin? history name).map (channelOf history) := by
  induction history generalizing name with
  | nil => rfl
  | cons operation earlier ih =>
      have old := fun other : String => map_channelOf_cons operation
        fun origin (descends : origin? earlier other = some origin) =>
          (IsMade.of_origin? descends).lt
      have oldMaker := fun other : String => map_channelOf_cons operation
        fun coordinator (stands : maker? earlier other = some coordinator) => maker?_lt stands
      cases operation with
      | subscribe made source =>
          simp only [after, apply, lookup_bindLike, origin?]
          split
          · rw [Option.map_or, old, oldMaker, ih, lookup_coordinators]
          · rw [ih, old]
      | cloneSignal made source =>
          simp only [after, apply, lookup_bindLike, origin?]
          split
          · rw [Option.map_or, old, old, ih, ih]
          · rw [ih, old]
      | trigger triggered =>
          simp only [origin?]
          rw [old, ← ih]
          simp only [after, apply]
          split <;> rfl
      | dropSignal dropped =>
          simp only [after, apply, origin?, Entries.lookup_filter]
          split
          · rfl
          · rw [ih, old]
      | create made | clone made source | drop dropped =>
          simp only [after, apply, origin?]
          rw [ih, old]

theorem channelOf_lt (isMade : IsMade history coordinator) :
    channelOf history coordinator < (after history).channels.length := by
  induction history generalizing coordinator with
  | nil => exact absurd isMade.lt (Nat.not_lt_zero _)
  | cons operation earlier ih =>
      have grows := length_channels_apply (after earlier) operation
      rcases isMade.cons_cases with isOld | ⟨rfl, ⟨made, rfl⟩ | ⟨made, source, parent, rfl, stands⟩⟩
      · rw [channelOf_cons_of_lt isOld.lt]
        exact Nat.lt_of_lt_of_le (ih isOld) grows
      · rw [channelOf_cons_create]
        simp [after, apply]
      · rw [channelOf_cons_clone stands]
        exact ih (.now stands)

end Channels

section Families

theorem Connected.cons (connected : Connected earlier coordinator origin) :
    Connected (operation :: earlier) coordinator origin :=
  connected.mono fun _ _ cloned => occurs_cons_iff.mpr (.inl cloned)

theorem IsMade.of_cloned (cloned : Cloned history coordinator parent) :
    coordinator < history.length ∧ IsMade history parent ∧
      channelOf history coordinator = channelOf history parent := by
  induction history with
  | nil => exact absurd cloned not_occurs_nil
  | cons operation earlier ih =>
      rcases occurs_cons_iff.mp cloned with isOld | ⟨name, source, rfl, stands, rfl⟩
      · obtain ⟨isLt, isMade, same⟩ := ih isOld
        rw [channelOf_cons_of_lt isLt, channelOf_cons_of_lt isMade.lt]
        exact ⟨Nat.lt_succ_of_lt isLt, .before isMade, same⟩
      · rw [channelOf_cons_clone stands, channelOf_cons_of_lt (maker?_lt stands)]
        exact ⟨Nat.lt_succ_self _, .before (.now stands), rfl⟩

/-- Coordinators that are connected share a channel. -/
theorem Connected.channelOf_eq (connected : Connected history coordinator origin) :
    channelOf history coordinator = channelOf history origin := by
  induction connected with
  | rel _ _ cloned => exact (IsMade.of_cloned cloned).2.2
  | refl _ => rfl
  | symm _ _ _ ih => exact ih.symm
  | trans _ _ _ _ _ ih ih' => exact ih.trans ih'

/-- After one more step a coordinator has a channel of its own, or it shares one with a coordinator
from before. -/
theorem IsMade.is_new_or_connected (isMade : IsMade (operation :: earlier) coordinator) :
    (coordinator = earlier.length ∧
        channelOf (operation :: earlier) coordinator = (after earlier).channels.length) ∨
      ∃ older, IsMade earlier older ∧
        channelOf (operation :: earlier) coordinator = channelOf earlier older ∧
        Connected (operation :: earlier) coordinator older := by
  rcases isMade.cons_cases with isOld | ⟨rfl, ⟨made, rfl⟩ | ⟨made, source, parent, rfl, stands⟩⟩
  · exact .inr ⟨coordinator, isOld, channelOf_cons_of_lt isOld.lt, .refl _⟩
  · exact .inl ⟨rfl, channelOf_cons_create earlier made⟩
  · have cloned : Cloned (.clone made source :: earlier) earlier.length parent :=
      occurs_cons_iff.mpr (.inr ⟨made, source, rfl, stands, rfl⟩)
    exact .inr ⟨parent, .now stands, channelOf_cons_clone stands made, .rel _ _ cloned⟩

/-- Coordinators that share a channel are connected. -/
theorem connected_of_channelOf_eq (isMade : IsMade history coordinator)
    (isMade' : IsMade history origin)
    (same : channelOf history coordinator = channelOf history origin) :
    Connected history coordinator origin := by
  induction history generalizing coordinator origin with
  | nil => exact absurd isMade.lt (Nat.not_lt_zero _)
  | cons operation earlier ih =>
      rcases isMade.is_new_or_connected with ⟨rfl, isNew⟩ | ⟨older, isOld, shared, connected⟩ <;>
        rcases isMade'.is_new_or_connected with
          ⟨rfl, isNew'⟩ | ⟨older', isOld', shared', connected'⟩
      -- The number of a channel of one's own is one that no older coordinator has.
      · exact .refl _
      · have bound := channelOf_lt isOld'
        omega
      · have bound := channelOf_lt isOld
        omega
      · have joined := ih isOld isOld' (shared.symm.trans (same.trans shared'))
        exact .trans _ _ _ connected (.trans _ _ _ joined.cons (.symm _ _ connected'))

end Families

section Triggers

theorem triggers_cons_iff :
    Triggers (operation :: earlier) coordinator ↔
      Triggers earlier coordinator ∨
        ∃ name, operation = .trigger name ∧ maker? earlier name = some coordinator :=
  occurs_cons_iff

theorem Triggers.isMade (triggers : Triggers history coordinator) : IsMade history coordinator := by
  induction history with
  | nil => exact absurd triggers not_occurs_nil
  | cons operation earlier ih =>
      apply IsMade.before
      rcases triggers_cons_iff.mp triggers with isOld | ⟨name, rfl, stands⟩
      · exact ih isOld
      · exact .now stands

/-- A channel is triggered if some step triggered a coordinator that sends on it. -/
theorem wasTriggered_iff (history : List Operation) (channel : Nat) :
    (after history).wasTriggered channel = true ↔
      ∃ coordinator, Triggers history coordinator ∧ channelOf history coordinator = channel := by
  induction history with
  | nil =>
      simp only [after, empty, wasTriggered, List.getD_nil, Bool.false_eq_true, false_iff]
      rintro ⟨coordinator, triggers, -⟩
      exact absurd triggers.isMade.lt (Nat.not_lt_zero _)
  | cons operation earlier ih =>
      rw [after, wasTriggered_apply, ih]
      constructor
      · rintro (⟨coordinator, triggers, rfl⟩ | ⟨-, name, rfl, found⟩)
        · exact ⟨coordinator, triggers_cons_iff.mpr (.inl triggers),
            channelOf_cons_of_lt triggers.isMade.lt⟩
        · rw [lookup_coordinators] at found
          obtain ⟨coordinator, stands, rfl⟩ := Option.map_eq_some_iff.mp found
          exact ⟨coordinator, triggers_cons_iff.mpr (.inr ⟨name, rfl, stands⟩),
            channelOf_cons_of_lt (maker?_lt stands)⟩
      · rintro ⟨coordinator, triggers, rfl⟩
        rcases triggers_cons_iff.mp triggers with isOld | ⟨name, rfl, stands⟩
        · exact .inl ⟨coordinator, isOld, (channelOf_cons_of_lt isOld.isMade.lt).symm⟩
        · rw [channelOf_cons_of_lt (maker?_lt stands)]
          refine .inr ⟨channelOf_lt (.now stands), name, rfl, ?_⟩
          rw [lookup_coordinators, stands]
          rfl

/-- The channel of a coordinator is triggered if and only if a connected one was. -/
theorem isTriggered_iff (isMade : IsMade history origin) :
    (after history).wasTriggered (channelOf history origin) = true ↔
      IsTriggered history origin := by
  rw [wasTriggered_iff]
  constructor
  · rintro ⟨coordinator, triggers, same⟩
    exact ⟨coordinator, triggers, connected_of_channelOf_eq triggers.isMade isMade same⟩
  · rintro ⟨coordinator, triggers, connected⟩
    exact ⟨coordinator, triggers, connected.channelOf_eq⟩

end Triggers

section Waits

theorem wait_eq_resolved_iff (shutdown : Shutdown) (channel : Nat) :
    shutdown.wait channel = .resolved ↔ shutdown.wasTriggered channel = true := by
  unfold wait
  split
  · simp [*]
  · split <;> simp [*]

theorem wait_eq_never_iff (shutdown : Shutdown) (channel : Nat) :
    shutdown.wait channel = .never ↔
      shutdown.wasTriggered channel = false ∧ shutdown.isClosed channel = true := by
  unfold wait
  split
  · simp [*]
  · split <;> simp [*]

theorem isClosed_iff (shutdown : Shutdown) (channel : Nat) :
    shutdown.isClosed channel = true ↔
      ∀ name other, (name, other) ∈ shutdown.coordinators → other ≠ channel := by
  simp [isClosed]

theorem mem_or_eq_of_mem_bind {bound : List (String × Nat)} {shared : Nat}
    (isIn : (other, channel) ∈ bind name shared bound) :
    (other, channel) ∈ bound ∨ channel = shared := by
  simp only [bind, List.mem_append, List.mem_filter, List.mem_singleton, Prod.mk.injEq] at isIn
  exact isIn.imp And.left And.right

/-- No coordinator of a channel comes back once they are all gone. -/
theorem isClosed_apply {shutdown : Shutdown} (isThere : channel < shutdown.channels.length)
    (isClosed : shutdown.isClosed channel = true) (operation : Operation) :
    (shutdown.apply operation).isClosed channel = true := by
  rw [isClosed_iff] at isClosed ⊢
  intro name sends isIn
  cases operation with
  | create made =>
      rcases mem_or_eq_of_mem_bind isIn with isOld | rfl
      · exact isClosed name sends isOld
      · exact (Nat.ne_of_lt isThere).symm
  | clone made source =>
      simp only [apply, bindLike] at isIn
      split at isIn
      · exact isClosed name sends isIn
      · rename_i shared found
        rcases mem_or_eq_of_mem_bind isIn with isOld | rfl
        · exact isClosed name sends isOld
        · exact isClosed source sends (Entries.mem_of_lookup found)
  | trigger triggered =>
      simp only [apply] at isIn
      split at isIn <;> exact isClosed name sends isIn
  | drop dropped => exact isClosed name sends (List.mem_of_mem_filter isIn)
  | subscribe made source | cloneSignal made source | dropSignal dropped =>
      exact isClosed name sends isIn

/-- A wait that has resolved or given up would come to the same later. -/
theorem wait_apply {shutdown : Shutdown} (isThere : channel < shutdown.channels.length)
    (isSettled : shutdown.wait channel ≠ .pending) (operation : Operation) :
    (shutdown.apply operation).wait channel = shutdown.wait channel := by
  cases outcome : shutdown.wait channel with
  | pending => contradiction
  | resolved =>
      rw [wait_eq_resolved_iff] at outcome ⊢
      exact (wasTriggered_apply shutdown operation channel).mpr (.inl outcome)
  | never =>
      rw [wait_eq_never_iff] at outcome ⊢
      obtain ⟨untriggered, isClosed⟩ := outcome
      refine ⟨?_, isClosed_apply isThere isClosed operation⟩
      rw [← Bool.not_eq_true, wasTriggered_apply]
      rintro (triggered | ⟨-, name, -, found⟩)
      · simp [untriggered] at triggered
      · have isIn := Entries.mem_of_lookup found
        exact (isClosed_iff shutdown channel).mp isClosed name channel isIn rfl

theorem length_channels_append (later earlier : List Operation) :
    (after earlier).channels.length ≤ (after (later ++ earlier)).channels.length := by
  induction later with
  | nil => exact Nat.le_refl _
  | cons operation later ih => exact Nat.le_trans ih (length_channels_apply _ operation)

theorem wait_append (isThere : channel < (after earlier).channels.length)
    (isSettled : (after earlier).wait channel ≠ .pending) (later : List Operation) :
    (after (later ++ earlier)).wait channel = (after earlier).wait channel := by
  induction later with
  | nil => rfl
  | cons operation later ih =>
      have stillThere := Nat.lt_of_lt_of_le isThere (length_channels_append later earlier)
      rw [List.cons_append, after, wait_apply stillThere (ih.trans_ne isSettled), ih]

/-- What a wait comes to that looks at the channel when it begins and after each of some further
groups of operations, the latest first. Once it has resolved or given up it does not look again. -/
def waitThrough (channel : Nat) (begun : List Operation) : List (List Operation) → Wait
  | [] => (after begun).wait channel
  | latest :: groups =>
      match waitThrough channel begun groups with
      | .pending => (after (latest ++ (groups.flatten ++ begun))).wait channel
      | .resolved => .resolved
      | .never => .never

/-- It does not matter when a wait began and how often it looked. -/
theorem waitThrough_eq {begun : List Operation} (isThere : channel < (after begun).channels.length)
    (groups : List (List Operation)) :
    waitThrough channel begun groups = (after (groups.flatten ++ begun)).wait channel := by
  induction groups with
  | nil => rfl
  | cons latest groups ih =>
      have stillThere :=
        Nat.lt_of_lt_of_le isThere (length_channels_append groups.flatten begun)
      rw [waitThrough, List.flatten_cons, List.append_assoc, ih]
      cases outcome : (after (groups.flatten ++ begun)).wait channel with
      | pending => rfl
      | resolved | never =>
          have isSettled : (after (groups.flatten ++ begun)).wait channel ≠ .pending := by
            simp [outcome]
          rw [wait_append stillThere isSettled, outcome]

end Waits

section Signals

/-- No later step triggers a coordinator that is connected with this one. -/
def Spares (later history : List Operation) (origin : Nat) : Prop :=
  ∀ newer name older coordinator, later = newer ++ .trigger name :: older →
    maker? (older ++ history) name = some coordinator →
      ¬Connected (later ++ history) coordinator origin

/-- Later steps make no difference to the signals of a channel. -/
def Keeps (later history : List Operation) (channel : Nat) : Prop :=
  (after (later ++ history)).wasTriggered channel = (after history).wasTriggered channel ∧
    ((after (later ++ history)).wait channel = .resolved ↔
      (after history).wait channel = .resolved)

/-- The channel of a signal tells whether a coordinator was triggered that is connected with the
one that the signal descends from. -/
structure IsFaithful (history : List Operation) (channel origin : Nat) : Prop where
  triggered : (after history).wasTriggered channel = true ↔ IsTriggered history origin
  resolves : ∀ groups, waitThrough channel history groups = .resolved ↔
    IsTriggered (groups.flatten ++ history) origin
  stays : ∀ later, (after history).wasTriggered channel = true →
    (after (later ++ history)).wasTriggered channel = true
  /-- Coordinators may go away, all of them even, and others may come. -/
  quiet : ∀ later, (∀ name, .trigger name ∉ later) → Keeps later history channel
  /-- Coordinators of other channels may be triggered too. -/
  spared : ∀ later, Spares later history origin → Keeps later history channel

/-- The name of the signal that an operation makes or drops. -/
def Operation.signal? : Operation → Option String
  | .subscribe name _ | .cloneSignal name _ | .dropSignal name => some name
  | .create _ | .clone _ _ | .trigger _ | .drop _ => none

theorem wasTriggered_append (triggered : (after earlier).wasTriggered channel = true)
    (later : List Operation) : (after (later ++ earlier)).wasTriggered channel = true := by
  induction later with
  | nil => exact triggered
  | cons operation later ih => exact (wasTriggered_apply _ operation channel).mpr (.inl ih)

theorem IsMade.append (isMade : IsMade earlier coordinator) (later : List Operation) :
    IsMade (later ++ earlier) coordinator := by
  induction later with
  | nil => exact isMade
  | cons operation later ih => exact .before ih

theorem channelOf_append (isMade : IsMade earlier coordinator) (later : List Operation) :
    channelOf (later ++ earlier) coordinator = channelOf earlier coordinator := by
  induction later with
  | nil => rfl
  | cons operation later ih => exact (channelOf_cons_of_lt (isMade.append later).lt).trans ih

theorem triggers_append {later : List Operation}
    (triggers : Triggers (later ++ earlier) coordinator) :
    Triggers earlier coordinator ∨
      ∃ newer name older, later = newer ++ .trigger name :: older ∧
        maker? (older ++ earlier) name = some coordinator := by
  induction later with
  | nil => exact .inl triggers
  | cons operation later ih =>
      rcases triggers_cons_iff.mp triggers with isOld | ⟨name, rfl, stands⟩
      · rcases ih isOld with before | ⟨newer, name, older, rfl, stands⟩
        · exact .inl before
        · exact .inr ⟨operation :: newer, name, older, rfl, stands⟩
      · exact .inr ⟨[], name, later, rfl, stands⟩

theorem keeps_of_spares {later : List Operation} (isMade : IsMade history origin)
    (spares : Spares later history origin) : Keeps later history (channelOf history origin) := by
  have same : (after (later ++ history)).wasTriggered (channelOf history origin) =
      (after history).wasTriggered (channelOf history origin) := by
    apply Bool.eq_iff_iff.mpr
    refine ⟨?_, fun triggered => wasTriggered_append triggered later⟩
    rw [wasTriggered_iff, wasTriggered_iff]
    rintro ⟨coordinator, triggers, shared⟩
    rcases triggers_append triggers with before | ⟨newer, name, older, isLater, stands⟩
    · rw [channelOf_append before.isMade] at shared
      exact ⟨coordinator, before, shared⟩
    · rw [← channelOf_append isMade later] at shared
      have connected := connected_of_channelOf_eq triggers.isMade (isMade.append later) shared
      exact absurd connected (spares newer name older coordinator isLater stands)
  refine ⟨same, ?_⟩
  rw [wait_eq_resolved_iff, wait_eq_resolved_iff, same]

theorem origin?_cons_of_ne (history : List Operation)
    (isOther : operation.signal? ≠ some name) :
    origin? (operation :: history) name = origin? history name := by
  cases operation with
  | subscribe made source | cloneSignal made source | dropSignal made =>
      have different : name ≠ made := by
        rintro rfl
        exact isOther rfl
      simp only [origin?, if_neg different]
  | create made | clone made source | trigger triggered | drop dropped => rfl

theorem isFaithful (isMade : IsMade history origin) :
    IsFaithful history (channelOf history origin) origin where
  triggered := isTriggered_iff isMade
  resolves groups := by
    rw [waitThrough_eq (channelOf_lt isMade), wait_eq_resolved_iff,
      ← channelOf_append isMade groups.flatten, isTriggered_iff (isMade.append _)]
  stays later triggered := wasTriggered_append triggered later
  quiet later noTrigger := by
    apply keeps_of_spares isMade
    rintro newer name older coordinator rfl -
    exact absurd (by simp) (noTrigger name)
  spared later spares := keeps_of_spares isMade spares

/-- After any history there is a signal of a name if the history made one and did not drop it
since. It is triggered if and only if a coordinator was triggered that is connected with the one
that the signal descends from, and a wait that begins now resolves if and only if one was by the
time it looks last. It stays so, and no operation but a trigger of such a coordinator makes a
difference, even if all coordinators go away. The signal itself is not changed as long as its name
is not used again. -/
theorem signals_after (history : List Operation) (name : String) :
    ((after history).signals.lookup name = none ↔ origin? history name = none) ∧
      ∀ channel ∈ (after history).signals.lookup name, ∀ origin ∈ origin? history name,
        IsFaithful history channel origin ∧
          ∀ operation : Operation, operation.signal? ≠ some name →
            (after (operation :: history)).signals.lookup name = some channel ∧
              origin? (operation :: history) name = some origin := by
  rw [lookup_signals]
  refine ⟨Option.map_eq_none_iff, ?_⟩
  intro channel found origin descends
  rw [descends, Option.map_some] at found
  obtain rfl := Option.some.inj found
  have isMade := IsMade.of_origin? descends
  refine ⟨isFaithful isMade, ?_⟩
  intro operation isOther
  have kept := (origin?_cons_of_ne history isOther).trans descends
  refine ⟨?_, kept⟩
  rw [lookup_signals, kept, Option.map_some, channelOf_cons_of_lt isMade.lt]

/-- A coordinator that is cloned after a signal was made is still the origin of the signal. -/
theorem signals_after_lateClone :
    let history : List Operation := [.clone "b" "a", .subscribe "s" "a", .create "a"]
    (after history).signals.lookup "s" = some 0 ∧ origin? history "s" = some 0 ∧
      IsFaithful history 0 0 := by
  intro history
  have found : (after history).signals.lookup "s" = some 0 := by decide
  have descends : origin? history "s" = some 0 := by decide
  exact ⟨found, descends, ((signals_after history "s").2 0 found 0 descends).1⟩

/-- A signal hears of a clone that was made after it, and of nothing when all are gone. -/
example :
    (after [.trigger "b", .drop "a", .clone "b" "a", .subscribe "s" "a", .create "a"]).wait 0 =
        .resolved ∧
      (after [.drop "b", .drop "a", .clone "b" "a", .subscribe "s" "a", .create "a"]).wait 0 =
        .never := by
  decide

end Signals

end Shutdown

end HttpRelay
