import HttpRelay.Monitor
import HttpRelay.Proofs.Tracker.History

/-!
# Reports in time

What a monitor says from its start on, while guards come and go, and when. If the clock is looked
at whenever a report is due (`Watch.IsPunctual`), the reports are those of the multiples of the
interval before shutdown, each with the counts of the guards that are held then.

The argument follows one invariant: while a monitor goes on, its next report is due at the first
multiple of the interval that is still to come (`Monitor.IsOnTime`). A step of the clock that goes
past no report makes the report of its last moment, if that is such a multiple, and keeps the
invariant; nothing else moves the clock.
-/

namespace HttpRelay

namespace Monitor

variable {interval now due finish middle time : Nat} {shutdown? : Option Nat}

/-- The times after the present one, up to another, at which a report is made: the multiples of
the interval that are before shutdown. -/
def reportTimes (interval now finish : Nat) (shutdown? : Option Nat) : List Nat :=
  (List.range' (now + 1) (finish - now)).filter fun time =>
    interval ∣ time ∧ ∀ shutdown ∈ shutdown?, time < shutdown

/-- The next report is due at the first multiple of the interval after the present time. -/
structure IsOnTime (interval now due : Nat) : Prop where
  isMultiple : interval ∣ due
  isAhead : now < due
  isFirst : ∀ time, now < time → interval ∣ time → due ≤ time

theorem isOnTime_start (positive : 0 < interval) : IsOnTime interval 0 interval where
  isMultiple := Nat.dvd_refl interval
  isAhead := positive
  isFirst := by
    intro time isLater isMultiple
    exact Nat.le_of_dvd isLater isMultiple

/-- Until the next report is due, the clock can go on. -/
theorem IsOnTime.of_lt (onTime : IsOnTime interval now due) (isLater : now ≤ time)
    (isEarly : time < due) : IsOnTime interval time due where
  isMultiple := onTime.isMultiple
  isAhead := isEarly
  isFirst := by
    intro other otherLater isMultiple
    apply onTime.isFirst other _ isMultiple
    omega

theorem IsOnTime.at_due (onTime : IsOnTime interval now due) (positive : 0 < interval) :
    IsOnTime interval due (due + interval) where
  isMultiple := Nat.dvd_add onTime.isMultiple (Nat.dvd_refl interval)
  isAhead := by omega
  isFirst := by
    intro time isLater isMultiple
    -- Two multiples of the interval are at least one interval apart.
    have apart : interval ∣ time - due := Nat.dvd_sub isMultiple onTime.isMultiple
    have atLeast := Nat.le_of_dvd (by omega) apart
    omega

theorem reportsDue_of_lt (isEarly : now < due) : reportsDue interval now due = (0, due) := by
  rw [reportsDue, if_neg]
  omega

/-- A report that is made when it is due is the only one then. -/
theorem reportsDue_self (positive : 0 < interval) :
    reportsDue interval due due = (1, due + interval) := by
  have next : nextDue interval due due = due + interval := by
    rw [nextDue, if_pos]
    omega
  rw [reportsDue, if_pos ⟨Nat.le_refl due, positive⟩, next, reportsDue_of_lt]
  omega

section ReportTimes

theorem mem_reportTimes :
    time ∈ reportTimes interval now finish shutdown? ↔
      now < time ∧ time ≤ finish ∧ interval ∣ time ∧ ∀ shutdown ∈ shutdown?, time < shutdown := by
  simp only [reportTimes, List.mem_filter, List.mem_range'_1, decide_eq_true_eq]
  constructor
  · rintro ⟨⟨isLater, isEarly⟩, isReported⟩
    exact ⟨by omega, by omega, isReported⟩
  · rintro ⟨isLater, isEarly, isReported⟩
    exact ⟨⟨by omega, by omega⟩, isReported⟩

theorem reportTimes_append (first : now ≤ middle) (second : middle ≤ finish) :
    reportTimes interval now finish shutdown? =
      reportTimes interval now middle shutdown? ++
        reportTimes interval middle finish shutdown? := by
  have split : List.range' (now + 1) (finish - now) =
      List.range' (now + 1) (middle - now) ++ List.range' (middle + 1) (finish - middle) := by
    have start : middle + 1 = now + 1 + (middle - now) := by omega
    have length : finish - now = (middle - now) + (finish - middle) := by omega
    rw [start, List.range'_append_1, length]
  simp only [reportTimes, split, List.filter_append]

theorem reportTimes_eq_nil (silent : ∀ time, now < time → time ≤ finish → interval ∣ time →
    ∃ shutdown ∈ shutdown?, shutdown ≤ time) :
    reportTimes interval now finish shutdown? = [] := by
  apply List.eq_nil_iff_forall_not_mem.mpr
  intro time isReported
  rcases mem_reportTimes.mp isReported with ⟨isLater, isEarly, isMultiple, isBefore⟩
  rcases silent time isLater isEarly isMultiple with ⟨shutdown, isShutdown, isOver⟩
  have := isBefore shutdown isShutdown
  omega

theorem reportTimes_self : reportTimes interval now now shutdown? = [] := by
  apply reportTimes_eq_nil
  intro time isLater isEarly
  omega

theorem IsOnTime.reportTimes_of_lt (onTime : IsOnTime interval now due) (isEarly : finish < due) :
    reportTimes interval now finish shutdown? = [] := by
  apply reportTimes_eq_nil
  intro time isLater isWithin isMultiple
  have := onTime.isFirst time isLater isMultiple
  omega

theorem IsOnTime.reportTimes_due (onTime : IsOnTime interval now due)
    (isBefore : ∀ shutdown ∈ shutdown?, due < shutdown) :
    reportTimes interval now due shutdown? = [due] := by
  have isAhead := onTime.isAhead
  have none : reportTimes interval now (due - 1) shutdown? = [] := by
    apply onTime.reportTimes_of_lt
    omega
  have last : reportTimes interval (due - 1) due shutdown? = [due] := by
    have one : List.range' (due - 1 + 1) (due - (due - 1)) = [due] := by
      have start : due - 1 + 1 = due := by omega
      have length : due - (due - 1) = 1 := by omega
      rw [start, length]
      rfl
    simp only [reportTimes, one]
    apply List.filter_eq_self.mpr
    intro time isOne
    obtain rfl := List.mem_singleton.mp isOne
    exact decide_eq_true ⟨onTime.isMultiple, isBefore⟩
  rw [reportTimes_append (by omega : now ≤ due - 1) (by omega), none, last, List.nil_append]

end ReportTimes

end Monitor

namespace Watch

open Monitor

variable {interval now due time milliseconds : Nat} {isListening : Bool} {roster : Roster}
  {watch : Watch} {event : Event} {events : List Event}

/-- The time at which events are over that begin at the given time. -/
def endTime : Nat → List Event → Nat
  | now, [] => now
  | now, .elapsed milliseconds :: events => endTime (now + milliseconds) events
  | now, .shutdown :: events | now, .abandoned :: events | now, .guard _ _ :: events =>
      endTime now events

/-- The time at which shutdown is announced, if it is before all who could do so are gone. -/
def announcedAt? : Nat → List Event → Option Nat
  | _, [] | _, .abandoned :: _ => none
  | now, .shutdown :: _ => some now
  | now, .elapsed milliseconds :: events => announcedAt? (now + milliseconds) events
  | now, .guard _ _ :: events => announcedAt? now events

/-- The time at which a monitor hears of shutdown that is started at time zero. -/
def shutdownAt? (signal : Shutdown.Wait) (events : List Event) : Option Nat :=
  match signal with
  | .resolved => some 0
  | .pending => announcedAt? 0 events
  | .never => none

/-- The operations on guards, each with its time. -/
def operations : Nat → List Event → List (Nat × String × Roster.Operation)
  | _, [] => []
  | now, .guard name operation :: events => (now, name, operation) :: operations now events
  | now, .elapsed milliseconds :: events => operations (now + milliseconds) events
  | now, .shutdown :: events | now, .abandoned :: events => operations now events

/-- The operations before a time. -/
def operationsBefore (time : Nat) (operations : List (Nat × String × Roster.Operation)) :
    List (String × Roster.Operation) :=
  (operations.filter (·.1 < time)).map Prod.snd

/-- The guards at a time, after all operations before it. -/
def rosterAt (time : Nat) (events : List Event) : Roster :=
  .run (operationsBefore time (operations 0 events))

/-- The clock goes past no time at which a report is due: it is looked at then. -/
def IsPunctual (interval : Nat) : Nat → List Event → Prop
  | _, [] => True
  | now, .elapsed milliseconds :: events =>
      (∀ time, now < time → time < now + milliseconds → ¬interval ∣ time) ∧
        IsPunctual interval (now + milliseconds) events
  | now, .shutdown :: events | now, .abandoned :: events | now, .guard _ _ :: events =>
      IsPunctual interval now events

/-- What the monitor says to some events, and when. -/
def log : Watch → List Event → List (Nat × MonitorEntry)
  | _, [] => []
  | watch, event :: events =>
      let (next, entries) := watch.step event
      entries.map (next.monitor.now, ·) ++ log next events

/-- The watch after some events. -/
def after : Watch → List Event → Watch
  | watch, [] => watch
  | watch, event :: events => after (watch.step event).1 events

/-- All that the monitor says from its start on, and when. -/
def transcript (interval : Nat) (signal : Shutdown.Wait) (events : List Event) :
    List (Nat × MonitorEntry) :=
  let (watch, entries) := start interval signal
  entries.map (0, ·) ++ log watch events

/-- A watch whose monitor goes on. -/
def ongoing (interval now due : Nat) (isListening : Bool) (roster : Roster) : Watch :=
  ⟨⟨interval, now, due, isListening, false⟩, roster⟩

/-- The time at which a monitor hears of shutdown that goes on and may be listening. -/
def heardAt? (isListening : Bool) (now : Nat) (events : List Event) : Option Nat :=
  if isListening then announcedAt? now events else none

section Timeline

theorem le_endTime (now : Nat) (events : List Event) : now ≤ endTime now events := by
  induction events generalizing now with
  | nil => exact Nat.le_refl now
  | cons event events ih =>
      cases event with
      | elapsed milliseconds =>
          have later := ih (now + milliseconds)
          simp only [endTime]
          omega
      | shutdown | abandoned | guard name operation => exact ih now

theorem le_of_announcedAt? (announced : time ∈ announcedAt? now events) : now ≤ time := by
  induction events generalizing now with
  | nil => cases announced
  | cons event events ih =>
      cases event with
      | elapsed milliseconds =>
          have later := ih announced
          omega
      | shutdown => exact Nat.le_of_eq (Option.some.inj announced)
      | abandoned => cases announced
      | guard name operation => exact ih announced

theorem le_of_heardAt? (heard : time ∈ heardAt? isListening now events) : now ≤ time := by
  cases isListening with
  | false => cases heard
  | true => exact le_of_announcedAt? heard

theorem le_of_mem_operations {step : String × Roster.Operation}
    (isDone : (time, step) ∈ operations now events) : now ≤ time := by
  induction events generalizing now with
  | nil => cases isDone
  | cons event events ih =>
      cases event with
      | elapsed milliseconds =>
          have later := ih isDone
          omega
      | shutdown | abandoned => exact ih isDone
      | guard name operation =>
          rcases List.mem_cons.mp isDone with isFirst | isLater
          · exact Nat.le_of_eq (congrArg Prod.fst isFirst).symm
          · exact ih isLater

theorem operationsBefore_eq_nil (isEarly : time ≤ now) (events : List Event) :
    operationsBefore time (operations now events) = [] := by
  simp only [operationsBefore, List.map_eq_nil_iff, List.filter_eq_nil_iff, decide_eq_true_eq]
  rintro ⟨done, step⟩ isDone
  have later := le_of_mem_operations isDone
  simp only
  omega

theorem operationsBefore_guard (isLater : now < time) (name : String)
    (operation : Roster.Operation) (events : List Event) :
    operationsBefore time (operations now (.guard name operation :: events)) =
      (name, operation) :: operationsBefore time (operations now events) := by
  simp only [operationsBefore, operations, List.filter_cons, decide_eq_true isLater, if_true,
    List.map_cons]

end Timeline

section Steps

theorem step_elapsed (interval now due : Nat) (isListening : Bool) (roster : Roster)
    (milliseconds : Nat) :
    (ongoing interval now due isListening roster).step (.elapsed milliseconds) =
      (ongoing interval (now + milliseconds) (reportsDue interval (now + milliseconds) due).2
          isListening roster,
        List.replicate (reportsDue interval (now + milliseconds) due).1
          (report roster.tracker)) := rfl

theorem step_shutdown (interval now due : Nat) (roster : Roster) :
    (ongoing interval now due true roster).step .shutdown =
      (⟨⟨interval, now, due, true, true⟩, roster⟩, [exiting]) := rfl

theorem isFinished_step (finished : watch.monitor.isFinished = true) (event : Event) :
    (watch.step event).1.monitor.isFinished = true ∧ (watch.step event).2 = [] := by
  cases event <;>
    simp [step, Monitor.advance, Monitor.stop, Monitor.unlisten, finished]

/-- A monitor that has finished stays so, and says no more. -/
theorem silent_of_isFinished (finished : watch.monitor.isFinished = true) (events : List Event) :
    (watch.after events).monitor.isFinished = true ∧ log watch events = [] := by
  induction events generalizing watch with
  | nil => exact ⟨finished, rfl⟩
  | cons event events ih =>
      rcases isFinished_step finished event with ⟨stillFinished, silent⟩
      rcases ih stillFinished with ⟨after, later⟩
      refine ⟨after, ?_⟩
      simp only [log, silent, later, List.map_nil, List.append_nil]

/-- A monitor has finished once it has heard of shutdown, however late its reports were. -/
theorem isFinished_after (interval now due : Nat) (isListening : Bool) (roster : Roster)
    (events : List Event) :
    ((ongoing interval now due isListening roster).after events).monitor.isFinished =
      (heardAt? isListening now events).isSome := by
  induction events generalizing now due isListening roster with
  | nil => cases isListening <;> rfl
  | cons event events ih =>
      cases event with
      | elapsed milliseconds =>
          simp only [after, step_elapsed, ih]
          rfl
      | shutdown =>
          cases isListening with
          | false => exact ih now due false roster
          | true =>
              simp only [after, step_shutdown]
              exact (silent_of_isFinished rfl events).1
      | abandoned =>
          have gone := ih now due false roster
          cases isListening <;> exact gone
      | guard name operation => exact ih now due isListening (roster.apply name operation)

end Steps

section Reports

/-- The guards at a time that is to come, with the operations that are done until then. -/
def rosterFrom (roster : Roster) (time : Nat)
    (operations : List (Nat × String × Roster.Operation)) : Roster :=
  (operationsBefore time operations).foldl (fun roster step => roster.apply step.1 step.2) roster

/-- What a monitor is to say that goes on: its reports, and at shutdown that it ends. -/
def account (interval now : Nat) (isListening : Bool) (roster : Roster) (events : List Event) :
    List (Nat × MonitorEntry) :=
  let shutdown? := heardAt? isListening now events
  (reportTimes interval now (endTime now events) shutdown?).map
      (fun time => (time, report (rosterFrom roster time (operations now events)).tracker)) ++
    shutdown?.toList.map fun shutdown => (shutdown, exiting)

theorem account_nil (interval now : Nat) (isListening : Bool) (roster : Roster) :
    account interval now isListening roster [] = [] := by
  have silent : heardAt? isListening now [] = none := by cases isListening <;> rfl
  simp only [account, silent, endTime, reportTimes_self]
  rfl

theorem account_shutdown (interval now : Nat) (roster : Roster) (events : List Event) :
    account interval now true roster (.shutdown :: events) = [(now, exiting)] := by
  have heard : heardAt? true now (.shutdown :: events) = some now := rfl
  have none : reportTimes interval now (endTime now (.shutdown :: events)) (some now) = [] := by
    apply reportTimes_eq_nil
    intro time isLater _ _
    exact ⟨now, rfl, Nat.le_of_lt isLater⟩
  simp only [account, heard, none]
  rfl

theorem account_guard (interval now : Nat) (isListening : Bool) (roster : Roster) (name : String)
    (operation : Roster.Operation) (events : List Event) :
    account interval now isListening roster (.guard name operation :: events) =
      account interval now isListening (roster.apply name operation) events := by
  have heard : heardAt? isListening now (.guard name operation :: events) =
      heardAt? isListening now events := rfl
  simp only [account, heard, endTime]
  congr 1
  apply List.map_congr_left
  intro time isReported
  have isLater := (mem_reportTimes.mp isReported).1
  simp only [rosterFrom, operationsBefore_guard isLater, List.foldl_cons]

/-- While the clock goes on, the guards stay as they are. -/
theorem account_elapsed (interval now milliseconds : Nat) (isListening : Bool) (roster : Roster)
    (events : List Event) :
    account interval now isListening roster (.elapsed milliseconds :: events) =
      (reportTimes interval now (now + milliseconds)
          (heardAt? isListening (now + milliseconds) events)).map
        (fun time => (time, report roster.tracker)) ++
        account interval (now + milliseconds) isListening roster events := by
  have heard : heardAt? isListening now (.elapsed milliseconds :: events) =
      heardAt? isListening (now + milliseconds) events := rfl
  have isLater := Nat.le_add_right now milliseconds
  have ends := le_endTime (now + milliseconds) events
  simp only [account, heard, endTime, operations, reportTimes_append isLater ends,
    List.map_append, List.append_assoc]
  congr 1
  apply List.map_congr_left
  intro time isReported
  have isEarly := (mem_reportTimes.mp isReported).2.1
  simp only [rosterFrom, operationsBefore_eq_nil isEarly, List.foldl_nil]

/-- A monitor that is looked at whenever a report is due says what it is to say. -/
theorem log_ongoing (positive : 0 < interval) (onTime : IsOnTime interval now due)
    (punctual : IsPunctual interval now events)
    (apart : ∀ shutdown ∈ heardAt? isListening now events,
      0 < shutdown → ¬interval ∣ shutdown) (roster : Roster) :
    log (ongoing interval now due isListening roster) events =
      account interval now isListening roster events := by
  induction events generalizing now due isListening roster with
  | nil =>
      rw [account_nil]
      rfl
  | cons event events ih =>
      cases event with
      | elapsed milliseconds =>
          rcases punctual with ⟨looked, punctual⟩
          have notPast : now + milliseconds ≤ due := by
            by_contra isPast
            exact looked due onTime.isAhead (by omega) onTime.isMultiple
          rcases Nat.lt_or_eq_of_le notPast with isEarly | isDue
          · have stillOnTime := onTime.of_lt (Nat.le_add_right now milliseconds) isEarly
            simp only [log, step_elapsed, reportsDue_of_lt isEarly]
            rw [account_elapsed, onTime.reportTimes_of_lt isEarly,
              ← ih stillOnTime punctual apart]
            rfl
          · subst due
            have isBefore : ∀ shutdown ∈ heardAt? isListening (now + milliseconds) events,
                now + milliseconds < shutdown := by
              intro shutdown heard
              have isLater := le_of_heardAt? heard
              have isAhead := onTime.isAhead
              have notDue : shutdown ≠ now + milliseconds := by
                rintro rfl
                exact apart _ heard (by omega) onTime.isMultiple
              omega
            simp only [log, step_elapsed, reportsDue_self positive]
            rw [account_elapsed, onTime.reportTimes_due isBefore,
              ← ih (onTime.at_due positive) punctual apart]
            rfl
      | shutdown =>
          cases isListening with
          | false => exact ih onTime punctual apart roster
          | true =>
              have finished :
                  (Watch.mk ⟨interval, now, due, true, true⟩ roster).monitor.isFinished :=
                rfl
              rw [account_shutdown]
              simp only [log, step_shutdown, (silent_of_isFinished finished events).2]
              rfl
      | abandoned =>
          have unheard : heardAt? isListening now (.abandoned :: events) = none := by
            cases isListening <;> rfl
          have unheardLater : ∀ shutdown ∈ heardAt? false now events,
              0 < shutdown → ¬interval ∣ shutdown := by
            intro shutdown heard
            cases heard
          simp only [account, unheard]
          exact ih onTime punctual unheardLater roster
      | guard name operation =>
          rw [account_guard]
          exact ih onTime punctual apart (roster.apply name operation)

end Reports

section Looking

/-- The same events with the clock looked at every millisecond. -/
def inMilliseconds : List Event → List Event
  | [] => []
  | .elapsed milliseconds :: events =>
      List.replicate milliseconds (.elapsed 1) ++ inMilliseconds events
  | .shutdown :: events => .shutdown :: inMilliseconds events
  | .abandoned :: events => .abandoned :: inMilliseconds events
  | .guard name operation :: events => .guard name operation :: inMilliseconds events

/-- The same happens at the same times, however often the clock is looked at. -/
structure IsAlike (first second : List Event) : Prop where
  endTime : endTime 0 first = endTime 0 second
  announcedAt? : announcedAt? 0 first = announcedAt? 0 second
  operations : operations 0 first = operations 0 second

theorem replicate_elapsed {Result : Type} (timed : Nat → List Event → Result)
    (moves : ∀ now events, timed now (.elapsed 1 :: events) = timed (now + 1) events)
    (now milliseconds : Nat) (events : List Event) :
    timed now (List.replicate milliseconds (.elapsed 1) ++ events) =
      timed (now + milliseconds) events := by
  induction milliseconds generalizing now with
  | zero => rfl
  | succ milliseconds ih =>
      have later : now + (milliseconds + 1) = now + 1 + milliseconds := by omega
      rw [List.replicate_succ, List.cons_append, moves, ih, later]

theorem timed_inMilliseconds (now : Nat) (events : List Event) :
    endTime now (inMilliseconds events) = endTime now events ∧
      announcedAt? now (inMilliseconds events) = announcedAt? now events ∧
      operations now (inMilliseconds events) = operations now events := by
  induction events generalizing now with
  | nil => exact ⟨rfl, rfl, rfl⟩
  | cons event events ih =>
      rcases ih now with ⟨sameEnd, sameAnnounced, sameOperations⟩
      cases event with
      | elapsed milliseconds =>
          simp only [inMilliseconds, replicate_elapsed endTime (fun _ _ => rfl),
            replicate_elapsed announcedAt? (fun _ _ => rfl),
            replicate_elapsed operations (fun _ _ => rfl)]
          exact ih (now + milliseconds)
      | shutdown => exact ⟨sameEnd, rfl, sameOperations⟩
      | abandoned => exact ⟨sameEnd, rfl, sameOperations⟩
      | guard name operation =>
          exact ⟨sameEnd, sameAnnounced, congrArg (List.cons _) sameOperations⟩

theorem isAlike_inMilliseconds (events : List Event) : IsAlike (inMilliseconds events) events :=
  ⟨(timed_inMilliseconds 0 events).1, (timed_inMilliseconds 0 events).2.1,
    (timed_inMilliseconds 0 events).2.2⟩

/-- No time is gone past between one millisecond and the next. -/
theorem isPunctual_inMilliseconds (interval now : Nat) (events : List Event) :
    IsPunctual interval now (inMilliseconds events) := by
  induction events generalizing now with
  | nil => trivial
  | cons event events ih =>
      cases event with
      | elapsed milliseconds =>
          have moves : ∀ now events, IsPunctual interval now (.elapsed 1 :: events) =
              IsPunctual interval (now + 1) events := by
            intro now events
            apply propext
            refine ⟨And.right, fun punctual => ⟨?_, punctual⟩⟩
            intro time isLater isEarly
            omega
          simp only [inMilliseconds, replicate_elapsed (IsPunctual interval) moves]
          exact ih (now + milliseconds)
      | shutdown | abandoned | guard name operation => exact ih now

end Looking

section Start

theorem start_of_ne_resolved (positive : 0 < interval) {signal : Shutdown.Wait}
    (untriggered : signal ≠ .resolved) :
    start interval signal =
      (ongoing interval 0 interval (signal != .never) .empty, [starting]) := by
  have isOn : interval ≠ 0 := by omega
  cases signal with
  | resolved => exact absurd rfl untriggered
  | pending | never => simp [start, Monitor.start, isOn, ongoing]

theorem heardAt?_zero {signal : Shutdown.Wait} (untriggered : signal ≠ .resolved)
    (events : List Event) :
    heardAt? (signal != .never) 0 events = shutdownAt? signal events := by
  cases signal with
  | resolved => exact absurd rfl untriggered
  | pending | never => rfl

theorem transcript_of_zero (signal : Shutdown.Wait) (events : List Event) :
    (start 0 signal).1.monitor.isFinished = true ∧
      transcript 0 signal events = [(0, disabled)] := by
  have finished : (start 0 signal).1.monitor.isFinished = true := rfl
  refine ⟨finished, ?_⟩
  simp only [transcript, (silent_of_isFinished finished events).2]
  rfl

theorem transcript_of_resolved (positive : 0 < interval) (events : List Event) :
    (start interval .resolved).1.monitor.isFinished = true ∧
      transcript interval .resolved events = [(0, starting), (0, exiting)] := by
  have isOn : interval ≠ 0 := by omega
  have begun : start interval .resolved =
      (⟨⟨interval, 0, interval, true, true⟩, .empty⟩, [starting, exiting]) := by
    simp [start, Monitor.start, isOn, stop]
  have finished : (Watch.mk ⟨interval, 0, interval, true, true⟩ .empty).monitor.isFinished :=
    rfl
  simp only [transcript, begun, (silent_of_isFinished finished events).2, true_and]
  rfl

theorem transcript_of_isPunctual (positive : 0 < interval) {signal : Shutdown.Wait}
    (untriggered : signal ≠ .resolved) (punctual : IsPunctual interval 0 events)
    (apart : ∀ shutdown ∈ shutdownAt? signal events, 0 < shutdown → ¬interval ∣ shutdown) :
    transcript interval signal events =
      (0, starting) ::
        (reportTimes interval 0 (endTime 0 events) (shutdownAt? signal events)).map
          (fun time => (time, report (rosterAt time events).tracker)) ++
        (shutdownAt? signal events).toList.map fun shutdown => (shutdown, exiting) := by
  rw [← heardAt?_zero untriggered] at apart ⊢
  have said := log_ongoing positive (isOnTime_start positive) punctual apart .empty
  simp only [transcript, start_of_ne_resolved positive untriggered, said]
  rfl

theorem isFinished_after_start (positive : 0 < interval) {signal : Shutdown.Wait}
    (untriggered : signal ≠ .resolved) (events : List Event) :
    ((start interval signal).1.after events).monitor.isFinished =
      (shutdownAt? signal events).isSome := by
  rw [← heardAt?_zero untriggered]
  simp only [start_of_ne_resolved positive untriggered, isFinished_after]

/-- A clock that goes past the time of a report makes it late, with the counts at that time. -/
example :
    transcript 10 .pending [.elapsed 13, .guard "g" .track, .elapsed 7] =
      [(0, starting), (13, report .none), (20, report ⟨1, 0, some 1, none⟩)] := by
  cbv

end Start

end Watch

end HttpRelay
