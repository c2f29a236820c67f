import HttpRelay.Address
import HttpRelay.Proofs.Config.Violations
import HttpRelay.Proofs.Text.Numeral
import HttpRelay.Proofs.Text.Reader

/-!
# Hosts and endpoints

A host that is read from a text is read again from the endpoint that is written with it. The
readers of both kinds of address stop at the character that is written behind the host
(`Ipv4.stopsBefore_reader`, `Ipv6.stopsBefore_reader`), and a colon tells the kinds apart: the older
kind has none (`Ipv4.notMem_of_whole?`), and the newer kind is not read without one
(`Ipv6.run_reader_of_notMem`). So the brackets stand where the reader of endpoints looks for them.
-/

namespace HttpRelay

open Text Text.Reader

/-- A text with which neither a number nor an address goes on. -/
structure IsBehindAddress (suffix : List Char) : Prop where
  noDigit : ∀ base, suffix.head?.any (fun char => (digit? base char).isSome) = false
  noPoint : suffix.head? ≠ some '.'

theorem isBehindAddress_colon (rest : List Char) : IsBehindAddress (':' :: rest) := by
  refine ⟨fun base => ?_, by simp⟩
  simp [digit?]

theorem isBehindAddress_bracket (rest : List Char) : IsBehindAddress (']' :: rest) := by
  refine ⟨fun base => ?_, by simp⟩
  simp [digit?]

section Numbers

variable {suffix : List Char} {base bound : Nat} {most : Option Nat}

theorem stopsBefore_numberBelow
    (noDigit : suffix.head?.any (fun char => (digit? base char).isSome) = false) :
    StopsBefore suffix (numberBelow base most bound) := by
  apply (stopsBefore_span noDigit).bind
  intro digits
  split
  · exact stopsBefore_failure
  · split
    · split
      · exact stopsBefore_pure _
      · exact stopsBefore_failure
    · exact stopsBefore_failure

theorem takesOnly_numberBelow {isMember : Char → Bool}
    (members : ∀ char, (digit? base char).isSome = true → isMember char = true) :
    TakesOnly isMember (numberBelow base most bound) := by
  apply (takesOnly_span members).bind
  intro digits
  split
  · exact takesOnly_failure
  · split
    · split
      · exact takesOnly_pure _
      · exact takesOnly_failure
    · exact takesOnly_failure

/-- A number is read from its decimal digits. -/
theorem run_numberBelow_toDigits {number : Nat} (small : number < bound) :
    (numberBelow 10 none bound).run (Nat.toDigits 10 number) = some (number, []) := by
  have areDigits : ∀ char ∈ Nat.toDigits 10 number, (digit? 10 char).isSome = true := by
    intro char isIn
    simp [digit?_ten, Nat.isDigit_of_mem_toDigits (by decide) (by decide) isIn]
  have spanned := run_span (fun char => (digit? 10 char).isSome) (Nat.toDigits 10 number)
  rw [List.takeWhile_eq_self_iff.mpr areDigits, List.dropWhile_eq_nil_iff.mpr areDigits] at spanned
  rw [numberBelow, run_bind_of_some spanned]
  simp [numeral?_toDigits, small]

end Numbers

namespace Ipv4

variable {suffix : List Char}

theorem hasLeadingZero_cons (char : Char) (text : List Char) :
    hasLeadingZero (char :: text) =
      (char == '0' && text.head?.any fun next => (digit? 10 next).isSome) := by
  unfold hasLeadingZero
  split
  case h_1 starts =>
    cases starts
    rfl
  case h_2 differs =>
    cases text with
    | nil => simp
    | cons next text =>
        have notZero : char ≠ '0' := fun isZero => differs next text (by rw [isZero])
        simp [notZero]

theorem hasLeadingZero_append (behind : IsBehindAddress suffix) (text : List Char) :
    hasLeadingZero (text ++ suffix) = hasLeadingZero text := by
  cases text with
  | nil =>
      cases suffix with
      | nil => rfl
      | cons char suffix =>
          have notZero : char ≠ '0' := by
            rintro rfl
            cases behind.noDigit 10
          rw [List.nil_append, hasLeadingZero_cons]
          simp [notZero, hasLeadingZero]
  | cons char text =>
      rw [List.cons_append, hasLeadingZero_cons, hasLeadingZero_cons]
      cases text with
      | nil => rw [List.nil_append, behind.noDigit 10]; rfl
      | cons next text => rfl

theorem stopsBefore_octet (behind : IsBehindAddress suffix) : StopsBefore suffix octet := by
  intro text
  change (if hasLeadingZero (text ++ suffix) then none else _) = Option.map _ (if _ then _ else _)
  rw [hasLeadingZero_append behind]
  split
  · rfl
  · rw [stopsBefore_numberBelow (behind.noDigit 10) text, Option.map_map, Option.map_map]
    rfl

theorem stopsBefore_reader (behind : IsBehindAddress suffix) : StopsBefore suffix reader := by
  have octet := stopsBefore_octet behind
  have point := stopsBefore_expect behind.noPoint
  apply octet.bind
  intro first
  apply point.bind
  intro _
  apply octet.bind
  intro second
  apply point.bind
  intro _
  apply octet.bind
  intro third
  apply point.bind
  intro _
  apply octet.bind
  intro fourth
  exact stopsBefore_pure _

/-- The characters of an address of the older kind. -/
def isCharacter (char : Char) : Bool :=
  char.isDigit || char == '.'

theorem takesOnly_octet : TakesOnly isCharacter octet := by
  intro text value rest ran
  change (if hasLeadingZero text then none else _) = _ at ran
  split at ran
  · cases ran
  · rcases Option.map_eq_some_iff.mp ran with ⟨⟨number, behind⟩, read, valueEq⟩
    cases valueEq
    apply takesOnly_numberBelow _ text number _ read
    intro char digit
    have isDigit : char.isDigit = true := by
      rw [digit?_ten] at digit
      by_contra notDigit
      rw [if_neg notDigit] at digit
      cases digit
    rw [isCharacter, isDigit, Bool.true_or]

theorem takesOnly_reader : TakesOnly isCharacter reader := by
  have point : TakesOnly isCharacter (expect '.') := takesOnly_expect (by decide)
  apply takesOnly_octet.bind
  intro first
  apply point.bind
  intro _
  apply takesOnly_octet.bind
  intro second
  apply point.bind
  intro _
  apply takesOnly_octet.bind
  intro third
  apply point.bind
  intro _
  apply takesOnly_octet.bind
  intro fourth
  exact takesOnly_pure _

theorem notMem_of_whole? {text : List Char} {address : Ipv4}
    (read : reader.run text = some (address, [])) : ':' ∉ text := by
  rcases takesOnly_reader text address [] read with ⟨taken, rfl, members⟩
  intro isIn
  rw [List.append_nil] at isIn
  exact absurd (members ':' isIn) (by decide)

end Ipv4

namespace Ipv6

variable {suffix text : List Char}

/-- The last two groups as an address of the older kind, where there is room for two. -/
def embedded (limit : Nat) (isFirst : Bool) : Reader (Option Ipv4) :=
  if limit = 0 then pure none else optional (separator isFirst *> Ipv4.reader)

/-- Groups that are read one by one as long as there is another. -/
def plainGroups (limit : Nat) (isFirst : Bool) : Reader (List UInt16 × Bool) := do
  match ← optional (separator isFirst *> group) with
  | none => return ([], false)
  | some first =>
      let (others, isEmbedded) ← groupsUpTo limit false
      return (first :: others, isEmbedded)

theorem groupsUpTo_succ (limit : Nat) (isFirst : Bool) :
    groupsUpTo (limit + 1) isFirst = (do
      match ← embedded limit isFirst with
      | some address => return (address.toGroups, true)
      | none => plainGroups limit isFirst) := by
  rw [groupsUpTo, embedded]
  split <;> rfl

theorem stopsBefore_group (behind : IsBehindAddress suffix) : StopsBefore suffix group := by
  apply (stopsBefore_numberBelow (behind.noDigit 16)).bind
  intro number
  exact stopsBefore_pure _

theorem stopsBefore_separator (noColon : suffix.head? ≠ some ':') (isFirst : Bool) :
    StopsBefore suffix (separator isFirst) := by
  cases isFirst
  · exact stopsBefore_expect noColon
  · exact stopsBefore_pure ()

theorem stopsBefore_groupsUpTo (behind : IsBehindAddress suffix)
    (noColon : suffix.head? ≠ some ':') (limit : Nat) (isFirst : Bool) :
    StopsBefore suffix (groupsUpTo limit isFirst) := by
  induction limit generalizing isFirst with
  | zero => exact stopsBefore_pure _
  | succ limit ih =>
      have separated := stopsBefore_separator noColon isFirst
      rw [groupsUpTo_succ]
      apply StopsBefore.bind
      · rw [embedded]
        split
        · exact stopsBefore_pure none
        · exact (separated.seqRight (Ipv4.stopsBefore_reader behind)).optional
      · intro address
        split
        · exact stopsBefore_pure _
        · apply (separated.seqRight (stopsBefore_group behind)).optional.bind
          intro first
          split
          · exact stopsBefore_pure _
          · exact (ih false).bind fun _ => stopsBefore_pure _

theorem stopsBefore_reader (behind : IsBehindAddress suffix) (noColon : suffix.head? ≠ some ':') :
    StopsBefore suffix reader := by
  have groups := stopsBefore_groupsUpTo behind noColon
  have colon := stopsBefore_expect noColon
  apply (groups 8 true).bind
  rintro ⟨head, isEmbedded⟩
  dsimp only
  split
  · exact stopsBefore_liftM _
  · split
    · exact stopsBefore_failure
    · apply colon.bind
      intro _
      apply colon.bind
      intro _
      apply (groups _ true).bind
      rintro ⟨tail, isEmbedded⟩
      exact stopsBefore_liftM _

/-- No group follows another without a colon between them. -/
theorem run_groupsUpTo_of_notMem (noColon : ':' ∉ text) (limit : Nat) :
    (groupsUpTo limit false).run text = some (([], false), text) := by
  cases limit with
  | zero => rfl
  | succ limit =>
      have separated {Value : Type} (reader : Reader Value) :
          (optional (separator false *> reader)).run text = some (none, text) := by
        have stuck : (separator false *> reader).run text = none := by
          rw [seqRight_eq_bind]
          exact run_bind_of_none (run_expect_of_notMem noColon)
        rw [run_optional, stuck]
      have absent : (embedded limit false).run text = some (none, text) := by
        rw [embedded]
        split
        · rfl
        · exact separated Ipv4.reader
      rw [groupsUpTo_succ, run_bind_of_some absent]
      dsimp only
      rw [plainGroups, run_bind_of_some (separated group)]
      rfl

theorem takesOnly_group : TakesOnly (fun _ => true) group := by
  apply (takesOnly_numberBelow fun _ _ => rfl).bind
  intro number
  exact takesOnly_pure _

/-- Without a colon there is one group at most, or one address of the older kind. -/
theorem exists_run_groupsUpTo_of_notMem (noColon : ':' ∉ text) (limit : Nat) :
    ∃ head isEmbedded rest, (groupsUpTo (limit + 1) true).run text =
      some ((head, isEmbedded), rest) ∧ head.length ≤ 2 ∧ ':' ∉ rest := by
  have first {Value : Type} (reader : Reader Value) :
      separator true *> reader = reader := rfl
  rw [groupsUpTo_succ]
  have found : ∃ address rest, (embedded limit true).run text = some (address, rest) ∧
      (address = none → rest = text) ∧ ':' ∉ rest := by
    rw [embedded]
    split
    · exact ⟨none, text, rfl, fun _ => rfl, noColon⟩
    · rw [first, run_optional]
      split
      · rename_i address rest ran
        exact ⟨some address, rest, rfl, nofun, Ipv4.takesOnly_reader.notMem noColon ran⟩
      · exact ⟨none, text, rfl, fun _ => rfl, noColon⟩
  rcases found with ⟨address, rest, ran, unchanged, absent⟩
  rw [run_bind_of_some ran]
  cases address with
  | some address => exact ⟨address.toGroups, true, rest, rfl, le_rfl, absent⟩
  | none =>
      cases unchanged rfl
      dsimp only
      rw [plainGroups, first]
      cases read : group.run text with
      | none =>
          have stuck : (optional group).run text = some (none, text) := by rw [run_optional, read]
          rw [run_bind_of_some stuck]
          exact ⟨[], false, text, rfl, by simp, noColon⟩
      | some taken =>
          rcases taken with ⟨number, behind⟩
          have taken : (optional group).run text = some (some number, behind) := by
            rw [run_optional, read]
          have stillAbsent := takesOnly_group.notMem noColon read
          rw [run_bind_of_some taken]
          dsimp only
          rw [run_bind_of_some (run_groupsUpTo_of_notMem stillAbsent limit)]
          exact ⟨[number], false, behind, rfl, by simp, stillAbsent⟩

/-- An address of the newer kind has a colon in its text. -/
theorem run_reader_of_notMem (noColon : ':' ∉ text) : reader.run text = none := by
  rcases exists_run_groupsUpTo_of_notMem noColon 7 with
    ⟨head, isEmbedded, rest, ran, short, absent⟩
  rw [reader, run_bind_of_some ran]
  dsimp only
  rw [if_neg (by omega)]
  split
  · rfl
  · exact run_bind_of_none (run_expect_of_notMem absent)

end Ipv6

namespace Host

variable {text : List Char} {host : Host}

/-- A host is read from a text without colons if it is of the older kind, and from one with
colons if it is of the newer kind. -/
theorem cases_of_ofText? (read : ofText? text = some host) :
    (∃ address, host = .v4 address ∧ Ipv4.reader.run text = some (address, []) ∧ ':' ∉ text) ∨
      ∃ address, host = .v6 address ∧ Ipv6.reader.run text = some (address, []) ∧ ':' ∈ text := by
  have ran := whole?_eq_some_iff.mp read
  rw [reader, run_orElse, StateT.run_map, StateT.run_map] at ran
  cases older : Ipv4.reader.run text with
  | some taken =>
      rcases taken with ⟨address, rest⟩
      rw [older] at ran
      cases ran
      exact .inl ⟨address, rfl, rfl, Ipv4.notMem_of_whole? older⟩
  | none =>
      rw [older] at ran
      cases newer : Ipv6.reader.run text with
      | none =>
          rw [newer] at ran
          cases ran
      | some taken =>
          rcases taken with ⟨address, rest⟩
          rw [newer] at ran
          cases ran
          refine .inr ⟨address, rfl, rfl, ?_⟩
          by_contra noColon
          rw [Ipv6.run_reader_of_notMem noColon] at newer
          cases newer

end Host

namespace Endpoint

variable {text : List Char}

theorem run_portNumber (port : UInt16) :
    portNumber.run (':' :: Nat.toDigits 10 port.toNat) = some (port, []) := by
  rw [portNumber, run_bind_of_some (run_expect_self ':' _),
    run_bind_of_some (run_numberBelow_toDigits port.toNat_lt)]
  simp

/-- An address of the older kind is read with the port behind it. -/
theorem ofText?_of_ipv4 {address : Ipv4} (read : Ipv4.reader.run text = some (address, []))
    (port : UInt16) :
    ofText? (text ++ ':' :: Nat.toDigits 10 port.toNat) = some ⟨.v4 address, 0, port⟩ := by
  have inFront : Ipv4.reader.run (text ++ ':' :: Nat.toDigits 10 port.toNat) =
      some (address, ':' :: Nat.toDigits 10 port.toNat) := by
    rw [Ipv4.stopsBefore_reader (isBehindAddress_colon _), read]
    rfl
  have ran : readerV4.run (text ++ ':' :: Nat.toDigits 10 port.toNat) =
      some (⟨.v4 address, 0, port⟩, []) := by
    rw [readerV4, run_bind_of_some inFront, run_bind_of_some (run_portNumber port)]
    rfl
  rw [ofText?, whole?_eq_some_iff, run_orElse, ran]
  rfl

/-- An address of the newer kind is read from its brackets with the port behind them. -/
theorem ofText?_of_ipv6 {address : Ipv6} (read : Ipv6.reader.run text = some (address, []))
    (port : UInt16) :
    ofText? ('[' :: text ++ ']' :: ':' :: Nat.toDigits 10 port.toNat) =
      some ⟨.v6 address, 0, port⟩ := by
  have notOlder (rest : List Char) : readerV4.run ('[' :: rest) = none := by
    rw [readerV4]
    apply run_bind_of_none
    rfl
  have inFront : Ipv6.reader.run (text ++ ']' :: ':' :: Nat.toDigits 10 port.toNat) =
      some (address, ']' :: ':' :: Nat.toDigits 10 port.toNat) := by
    rw [Ipv6.stopsBefore_reader (isBehindAddress_bracket _) (by simp), read]
    rfl
  have noZone (rest : List Char) :
      (optional zoneNumber).run (']' :: rest) = some (none, ']' :: rest) := by
    rw [run_optional]
    rfl
  have ran : readerV6.run ('[' :: text ++ ']' :: ':' :: Nat.toDigits 10 port.toNat) =
      some (⟨.v6 address, 0, port⟩, []) := by
    rw [readerV6, List.cons_append, run_bind_of_some (run_expect_self '[' _),
      run_bind_of_some inFront, run_bind_of_some (noZone _),
      run_bind_of_some (run_expect_self ']' _), run_bind_of_some (run_portNumber port)]
    rfl
  rw [ofText?, whole?_eq_some_iff, run_orElse, List.cons_append, notOlder, ← List.cons_append, ran]
  rfl

end Endpoint

namespace Config

variable {host : Host} {text : String}

/-- The endpoint that is read from a host with a port is that host and that port. -/
theorem ofText?_withPort (read : Host.ofText? text.toList = some host) (port : UInt16) :
    Endpoint.ofText? (withPort text port).toList = some ⟨host, 0, port⟩ := by
  rcases Host.cases_of_ofText? read with
    ⟨address, rfl, older, noColon⟩ | ⟨address, rfl, newer, colon⟩
  case inl =>
    have plain : (withPort text port).toList =
        text.toList ++ ':' :: Nat.toDigits 10 port.toNat := by
      simp [withPort, noColon]
    rw [plain, Endpoint.ofText?_of_ipv4 older]
  case inr =>
    have bracketed : (withPort text port).toList =
        '[' :: text.toList ++ ']' :: ':' :: Nat.toDigits 10 port.toNat := by
      simp [withPort, colon]
    rw [bracketed, Endpoint.ofText?_of_ipv6 newer]

/-- A valid configuration listens on the address that its host is read as, whatever form the host
is written in, and on its port. The host is in brackets exactly if it is of the newer kind. -/
theorem ofText?_bindAddress {config : Config} (valid : config.validated = .ok config) :
    ∃ host, Host.ofText? config.listener.bindHost.toList = some host ∧
      Endpoint.ofText? config.bindAddress.toList = some ⟨host, 0, config.listener.port⟩ ∧
      ((∃ address, host = .v6 address) ↔ ':' ∈ config.listener.bindHost.toList) := by
  have satisfied := (violations_eq_nil_iff config).mp (validated_eq_ok_iff.mp valid).1
  rcases Option.isSome_iff_exists.mp (satisfied .bindHost) with ⟨host, read⟩
  refine ⟨host, read, ofText?_withPort read config.listener.port, ?_⟩
  rcases Host.cases_of_ofText? read with
    ⟨address, rfl, -, noColon⟩ | ⟨address, rfl, -, colon⟩
  · simp [noColon]
  · simp [colon]

/-- Groups in both cases, a run of zeros that is left out, and the last two groups as an address
of the older kind. -/
theorem ofText?_bindAddress_mixed :
    let config : Config :=
      { default with
        listener := { Listener.default with bindHost := "2001:dB8::192.0.2.1", port := 8080 }
        target := { Target.default with address := "backend", port := 3000 } }
    let host : Host := .v6 ⟨[0x2001, 0xDB8, 0, 0, 0, 0, 0xC000, 0x201], rfl⟩
    config.validated = .ok config ∧ config.bindAddress = "[2001:dB8::192.0.2.1]:8080" ∧
      Endpoint.ofText? "[2001:dB8::192.0.2.1]:8080".toList = some ⟨host, 0, 8080⟩ := by
  intro config host
  have valid : config.validated = .ok config := by
    rw [validated_eq_ok_iff, and_iff_left rfl]
    decide +kernel
  have written : config.bindAddress = "[2001:dB8::192.0.2.1]:8080" := by decide +kernel
  rcases ofText?_bindAddress valid with ⟨other, read, endpoint, _⟩
  have isHost : Host.ofText? config.listener.bindHost.toList = some host := by decide +kernel
  cases isHost.symm.trans read
  exact ⟨valid, written, written ▸ endpoint⟩

end Config

end HttpRelay
