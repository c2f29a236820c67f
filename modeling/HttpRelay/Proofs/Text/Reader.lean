import Mathlib.Data.List.TakeWhile
import HttpRelay.Text.Reader

/-!
# What readers look at

A reader decides by the characters that it takes and by the one behind them. So it reads the same
with other text behind it, as long as that text begins with a character that ends the value anyway
(`Reader.StopsBefore`). Beside it stands what a reader takes: a part of its text, counted from the
front, of characters of some class (`Reader.TakesOnly`). Both carry over from the parts of a reader
to the whole of it.
-/

namespace HttpRelay.Text.Reader

variable {Value Other : Type} {text rest suffix : List Char} {isMember : Char → Bool}
  {reader second : Reader Value} {next : Value → Reader Other}

section Run

theorem run_bind_eq_some_iff {other : Other} :
    (reader >>= next).run text = some (other, rest) ↔
      ∃ value between, reader.run text = some (value, between) ∧
        (next value).run between = some (other, rest) := by
  simp [StateT.run_bind, Option.bind_eq_some_iff, Prod.exists]

theorem run_bind_of_some {value : Value} (ran : reader.run text = some (value, rest)) :
    (reader >>= next).run text = (next value).run rest := by
  simp [StateT.run_bind, ran]

theorem run_bind_of_none (failed : reader.run text = none) :
    (reader >>= next).run text = none := by
  simp [StateT.run_bind, failed]

theorem run_orElse (reader second : Reader Value) (text : List Char) :
    (reader <|> second).run text = (reader.run text <|> second.run text) := rfl

theorem run_optional (reader : Reader Value) (text : List Char) :
    (optional reader).run text =
      match reader.run text with
      | some (value, rest) => some (some value, rest)
      | none => some (none, text) := by
  have optionalEq : optional reader = (some <$> reader <|> pure none) := rfl
  rw [optionalEq, run_orElse, StateT.run_map]
  cases reader.run text <;> rfl

theorem run_expect_self (char : Char) (rest : List Char) :
    (expect char).run (char :: rest) = some ((), rest) := by
  change (if char = char then some ((), rest) else none) = _
  rw [if_pos rfl]

theorem run_expect_of_ne {wanted : Char} (differs : text.head? ≠ some wanted) :
    (expect wanted).run text = none := by
  cases text with
  | nil => rfl
  | cons char rest =>
      have ne : char ≠ wanted := fun same => differs (congrArg some same)
      change (if char = wanted then some ((), rest) else none) = none
      rw [if_neg ne]

theorem run_expect_of_notMem {wanted : Char} (notIn : wanted ∉ text) :
    (expect wanted).run text = none := by
  apply run_expect_of_ne
  intro isFirst
  exact notIn (List.mem_of_mem_head? isFirst)

theorem run_span (isMember : Char → Bool) (text : List Char) :
    (span isMember).run text = some (text.takeWhile isMember, text.dropWhile isMember) := rfl

/-- What is read whole is read with nothing left. -/
theorem whole?_eq_some_iff {value : Value} :
    whole? reader text = some value ↔ reader.run text = some (value, []) := by
  rw [whole?]
  split
  · rename_i other ran
    simp [ran]
  · rename_i left
    simp only [reduceCtorEq, false_iff]
    exact left value

end Run

/-- A reader that comes to the same, whether a text stands behind its own or not. -/
def StopsBefore (suffix : List Char) (reader : Reader Value) : Prop :=
  ∀ text, reader.run (text ++ suffix) =
    (reader.run text).map fun (value, rest) => (value, rest ++ suffix)

theorem stopsBefore_pure (value : Value) : StopsBefore suffix (pure value : Reader Value) :=
  fun _ => rfl

theorem stopsBefore_failure : StopsBefore suffix (failure : Reader Value) :=
  fun _ => rfl

theorem stopsBefore_liftM (value : Option Value) :
    StopsBefore suffix (liftM value : Reader Value) := by
  intro text
  cases value <;> rfl

theorem stopsBefore_expect {wanted : Char} (differs : suffix.head? ≠ some wanted) :
    StopsBefore suffix (expect wanted) := by
  intro text
  cases text with
  | nil =>
      rw [List.nil_append, run_expect_of_ne differs]
      rfl
  | cons char rest =>
      change (if char = wanted then some ((), rest ++ suffix) else none) =
        (if char = wanted then some ((), rest) else none).map _
      split <;> rfl

theorem stopsBefore_span (ends : suffix.head?.any isMember = false) :
    StopsBefore suffix (span isMember) := by
  intro text
  rw [run_span, run_span]
  induction text with
  | nil =>
      cases suffix with
      | nil => rfl
      | cons char suffix =>
          have notMember : isMember char = false := ends
          simp [notMember]
  | cons char text ih =>
      simp only [Option.map_some, Option.some.injEq, Prod.mk.injEq] at ih
      cases member : isMember char <;> simp [member, ih]

theorem StopsBefore.bind (stops : StopsBefore suffix reader)
    (behind : ∀ value, StopsBefore suffix (next value)) :
    StopsBefore suffix (reader >>= next) := by
  intro text
  have ran := stops text
  cases found : reader.run text with
  | none =>
      rw [found] at ran
      rw [run_bind_of_none found, run_bind_of_none ran]
      rfl
  | some taken =>
      rcases taken with ⟨value, between⟩
      rw [found] at ran
      rw [run_bind_of_some found, run_bind_of_some ran]
      exact behind value between

theorem StopsBefore.map (stops : StopsBefore suffix reader) (change : Value → Other) :
    StopsBefore suffix (change <$> reader) := by
  rw [map_eq_pure_bind]
  exact stops.bind fun value => stopsBefore_pure (change value)

theorem StopsBefore.seqRight {other : Reader Other} (stops : StopsBefore suffix reader)
    (behind : StopsBefore suffix other) : StopsBefore suffix (reader *> other) := by
  rw [seqRight_eq_bind]
  exact stops.bind fun _ => behind

theorem StopsBefore.orElse (stops : StopsBefore suffix reader)
    (otherwise : StopsBefore suffix second) : StopsBefore suffix (reader <|> second) := by
  intro text
  rw [run_orElse, run_orElse, stops text, otherwise text]
  cases reader.run text <;> rfl

theorem StopsBefore.optional (stops : StopsBefore suffix reader) :
    StopsBefore suffix (optional reader) :=
  (stops.map some).orElse (stopsBefore_pure none)

/-- A reader that takes only characters of a class, one after another from the front. -/
def TakesOnly (isMember : Char → Bool) (reader : Reader Value) : Prop :=
  ∀ text value rest, reader.run text = some (value, rest) →
    ∃ taken, text = taken ++ rest ∧ ∀ char ∈ taken, isMember char = true

theorem takesOnly_pure (value : Value) : TakesOnly isMember (pure value : Reader Value) := by
  rintro text value rest ran
  cases ran
  exact ⟨[], rfl, by simp⟩

theorem takesOnly_failure : TakesOnly isMember (failure : Reader Value) := by
  rintro text value rest ran
  cases ran

theorem takesOnly_expect {wanted : Char} (member : isMember wanted = true) :
    TakesOnly isMember (expect wanted) := by
  rintro text value rest ran
  cases text with
  | nil => cases ran
  | cons char text =>
      change (if char = wanted then some ((), text) else none) = some (value, rest) at ran
      split at ran
      · rename_i isWanted
        cases ran
        refine ⟨[char], rfl, ?_⟩
        simpa [isWanted] using member
      · cases ran

theorem takesOnly_span {isTaken : Char → Bool}
    (members : ∀ char, isTaken char = true → isMember char = true) :
    TakesOnly isMember (span isTaken) := by
  rintro text value rest ran
  cases ran
  refine ⟨text.takeWhile isTaken, List.takeWhile_append_dropWhile.symm, ?_⟩
  intro char isIn
  exact members char (List.mem_takeWhile_imp isIn)

theorem TakesOnly.bind (takes : TakesOnly isMember reader)
    (behind : ∀ value, TakesOnly isMember (next value)) :
    TakesOnly isMember (reader >>= next) := by
  intro text other rest ran
  rcases run_bind_eq_some_iff.mp ran with ⟨value, between, first, others⟩
  rcases takes text value between first with ⟨taken, rfl, members⟩
  rcases behind value between other rest others with
    ⟨further, rfl, furtherMembers⟩
  refine ⟨taken ++ further, (List.append_assoc _ _ _).symm, ?_⟩
  intro char isIn
  rcases List.mem_append.mp isIn with inTaken | inFurther
  · exact members char inTaken
  · exact furtherMembers char inFurther

/-- What is not in a text is not in what a reader leaves of it. -/
theorem TakesOnly.notMem {char : Char} {value : Value} (takes : TakesOnly isMember reader)
    (absent : char ∉ text) (ran : reader.run text = some (value, rest)) : char ∉ rest := by
  rcases takes text value rest ran with ⟨taken, rfl, -⟩
  exact fun isIn => absent (List.mem_append_right taken isIn)

end HttpRelay.Text.Reader
