import Mathlib.Data.List.TakeWhile
import HttpRelay.Message.Header
import HttpRelay.Proofs.Text.Numeral
import HttpRelay.Proofs.Text.Utf8

/-!
# The fields of a header, read at once

A receiver takes up the fields of a header one at a time. What it has afterwards is a
function of the list of the fields it received: `FieldsSoFar.ofFields`. The first defect is
found by looking at each field with those before it (`Field.defect?`), and there is none
exactly if the list as a whole makes sound claims about the body (`Field.AreSound`).
-/

namespace HttpRelay

namespace Field

variable {fields : List Field} {field : Field}

/-- The values of the fields with a name, as far as they are text. -/
def textsOf (name : Bytes) (fields : List Field) : List (List Char) :=
  (fields.filter (·.name == name)).filterMap text?

def codings (fields : List Field) : List Coding :=
  (textsOf transferEncoding fields).flatMap codingsOf

/-- The transfer codings that change anything. -/
def namedCodings (fields : List Field) : List Coding :=
  (codings fields).filter (· != .identity)

def lengthElements (fields : List Field) : List (List Char) :=
  (textsOf contentLength fields).flatMap listElements

def isKept (field : Field) : Bool :=
  field.name != upgrade && field.name != connection

/-- What is forwarded in place of received fields: a `connection` field that says `close` in
the place of the first one, and the fields that are kept around it. -/
def forwarded (fields : List Field) : List Field :=
  let before := fields.takeWhile (·.name != connection)
  let after := fields.dropWhile (·.name != connection)
  before.filter isKept ++ (if after.isEmpty then [] else [⟨connection, close⟩]) ++
    after.filter isKept

/-- What is wrong with an element of a `content-length` value, given the first element of
them all. -/
def lengthDefect? (value : List Char) (first : Option (List Char)) (element : List Char) :
    Option Malformed :=
  match Text.numeral? 10 element with
  | none => some (.invalidContentLength value)
  | some count =>
      if Text.wordBound ≤ count then some (.contentLengthOutOfRange value)
      else if first.bind (Text.numeral? 10) = some count then none
      else some .conflictingContentLength

/-- What is wrong with what a field says about the body, given the fields before it. -/
def defect? (earlier : List Field) (field : Field) : Option Malformed :=
  if field.name = transferEncoding then
    if field.text?.isNone then some .transferEncodingNotText else none
  else if field.name = contentLength then
    match field.text? with
    | none => some .contentLengthNotText
    | some value =>
        let elements := listElements value
        elements.findSome? (lengthDefect? value (lengthElements earlier ++ elements).head?)
  else none

/-- Fields whose claims about the body are well-formed and agree. -/
structure AreSound (fields : List Field) : Prop where
  text : ∀ field ∈ fields, field.name = transferEncoding ∨ field.name = contentLength →
    Utf8.IsText field.value
  lengths : ∃ count < Text.wordBound, ∀ element ∈ lengthElements fields,
    Text.numeral? 10 element = some count

theorem textsOf_append (name : Bytes) (fields : List Field) (field : Field) :
    textsOf name (fields ++ [field]) =
      textsOf name fields ++ if field.name = name then field.text?.toList else [] := by
  by_cases named : field.name = name
  · cases text : field.text? <;> simp [textsOf, named, text]
  · simp [textsOf, named]

theorem codings_append (fields : List Field) (field : Field) :
    codings (fields ++ [field]) =
      codings fields ++
        if field.name = transferEncoding then field.text?.toList.flatMap codingsOf else [] := by
  simp only [codings, textsOf_append, List.flatMap_append]
  split <;> rfl

theorem lengthElements_append (fields : List Field) (field : Field) :
    lengthElements (fields ++ [field]) =
      lengthElements fields ++
        if field.name = contentLength then field.text?.toList.flatMap listElements else [] := by
  simp only [lengthElements, textsOf_append, List.flatMap_append]
  split <;> rfl

theorem forwarded_append (fields : List Field) (field : Field) :
    forwarded (fields ++ [field]) =
      forwarded fields ++
        if field.name = connection then
          if fields.any (·.name == connection) then [] else [⟨connection, close⟩]
        else if field.isKept then [field] else [] := by
  cases found : fields.find? (·.name == connection) with
  | none =>
      have others : ∀ field ∈ fields, field.name ≠ connection := by simpa using found
      have before : ∀ field ∈ fields, (field.name != connection) = true := by simpa using others
      have notSeen : fields.any (·.name == connection) = false := by simpa using others
      simp only [forwarded, List.takeWhile_append_of_pos before,
        List.dropWhile_append_of_pos before, List.takeWhile_eq_self_iff.mpr before,
        List.dropWhile_eq_nil_iff.mpr before, notSeen]
      by_cases named : field.name = connection <;> cases kept : field.isKept <;>
        simp_all [isKept, List.filter_cons]
  | some first =>
      rcases List.find?_eq_some_iff_append.mp found with ⟨named, before, after, rfl, others⟩
      have kept : ∀ field ∈ before, (field.name != connection) = true := by simpa using others
      have name : first.name = connection := by simpa using named
      simp only [forwarded, List.append_assoc, List.cons_append,
        List.takeWhile_append_of_pos kept, List.dropWhile_append_of_pos kept]
      by_cases again : field.name = connection <;> cases keep : field.isKept <;>
        simp_all [isKept]

theorem lengthDefect?_eq_none_iff {value : List Char} {first : Option (List Char)}
    {element : List Char} :
    lengthDefect? value first element = none ↔
      ∃ count < Text.wordBound, Text.numeral? 10 element = some count ∧
        first.bind (Text.numeral? 10) = some count := by
  simp only [lengthDefect?]
  cases numeral : Text.numeral? 10 element with
  | none => simp
  | some count =>
      by_cases large : Text.wordBound ≤ count
      · simp only [large, if_true, Option.some.injEq]
        constructor
        · intro impossible
          cases impossible
        · rintro ⟨_, small, rfl, _⟩
          exact absurd small (Nat.not_lt_of_le large)
      · simp only [large, if_false, Option.some.injEq]
        constructor
        · intro agrees
          refine ⟨count, Nat.lt_of_not_le large, rfl, ?_⟩
          by_contra differs
          simp [differs] at agrees
        · rintro ⟨_, _, rfl, agrees⟩
          simp only [if_pos agrees]

theorem exists_length_append_iff {earlier elements : List (List Char)} :
    (∃ count < Text.wordBound, ∀ element ∈ earlier ++ elements,
        Text.numeral? 10 element = some count) ↔
      (∃ count < Text.wordBound, ∀ element ∈ earlier, Text.numeral? 10 element = some count) ∧
        ∀ element ∈ elements, ∃ count < Text.wordBound, Text.numeral? 10 element = some count ∧
          (earlier ++ elements).head?.bind (Text.numeral? 10) = some count := by
  constructor
  · rintro ⟨count, small, agree⟩
    refine ⟨⟨count, small, fun element isIn => agree element (List.mem_append_left _ isIn)⟩, ?_⟩
    intro element isIn
    refine ⟨count, small, agree element (List.mem_append_right _ isIn), ?_⟩
    cases all : earlier ++ elements with
    | nil => simp_all
    | cons first others => exact agree first (by simp [all])
  · rintro ⟨⟨count, small, earlierAgree⟩, agree⟩
    cases earlier with
    | nil =>
        cases elements with
        | nil => exact ⟨count, small, by simp⟩
        | cons first others =>
            rcases agree first List.mem_cons_self with ⟨length, lengthSmall, firstLength, _⟩
            refine ⟨length, lengthSmall, ?_⟩
            intro element isIn
            rcases agree element isIn with ⟨_, _, elementLength, sameLength⟩
            exact elementLength.trans (sameLength.symm.trans firstLength)
    | cons first others =>
        refine ⟨count, small, ?_⟩
        intro element isIn
        rcases List.mem_append.mp isIn with isEarlier | isLater
        · exact earlierAgree element isEarlier
        · rcases agree element isLater with ⟨_, _, elementLength, sameLength⟩
          have firstLength := earlierAgree first List.mem_cons_self
          exact elementLength.trans (sameLength.symm.trans firstLength)

theorem areSound_nil : AreSound [] where
  text := by simp
  lengths := ⟨0, by decide, by simp [lengthElements, textsOf]⟩

/-- Sound claims stay sound with a field that has no defect next to them, and with no
other. -/
theorem areSound_append :
    AreSound (fields ++ [field]) ↔ AreSound fields ∧ defect? fields field = none := by
  have textIff : (∀ other ∈ fields ++ [field],
      other.name = transferEncoding ∨ other.name = contentLength → Utf8.IsText other.value) ↔
      (∀ other ∈ fields, other.name = transferEncoding ∨ other.name = contentLength →
        Utf8.IsText other.value) ∧
        (field.name = transferEncoding ∨ field.name = contentLength → field.text?.isSome) := by
    rw [List.forall_mem_append, List.forall_mem_singleton, text?, ← Utf8.isText_iff]
  have lengthsIff := @exists_length_append_iff (lengthElements fields)
    (if field.name = contentLength then field.text?.toList.flatMap listElements else [])
  rw [← lengthElements_append] at lengthsIff
  have ne : transferEncoding ≠ contentLength := by decide
  have soundIff : ∀ fields, AreSound fields ↔ _ ∧ _ := fun fields =>
    ⟨fun sound => ⟨sound.text, sound.lengths⟩, fun sound => ⟨sound.1, sound.2⟩⟩
  rw [soundIff, soundIff, textIff, lengthsIff, defect?, and_and_and_comm]
  refine and_congr_right fun _ => ?_
  by_cases isEncoding : field.name = transferEncoding
  · cases text : field.text? <;> simp [isEncoding, ne]
  · by_cases isLength : field.name = contentLength
    · cases text : field.text? with
      | none => simp [isLength, ne.symm]
      | some value =>
          simp [isLength, ne.symm, List.findSome?_eq_none_iff, lengthDefect?_eq_none_iff,
            lengthElements_append, text]
    · simp [isEncoding, isLength]

theorem AreSound.of_append {later : List Field} (sound : AreSound (fields ++ later)) :
    AreSound fields := by
  induction later generalizing fields with
  | nil => simpa using sound
  | cons field later ih =>
      rw [List.append_cons] at sound
      exact (areSound_append.mp (ih sound)).1

/-- How fields with sound claims frame the body. -/
def Frames (fields : List Field) : Framing → Prop
  | .chunked => namedCodings fields = [.chunked]
  | .length count =>
      namedCodings fields = [] ∧
        ∃ element ∈ lengthElements fields, Text.numeral? 10 element = some count
  | .empty => namedCodings fields = [] ∧ lengthElements fields = []

end Field

/-- What fields say about the body. -/
def BodyClaims.ofFields (fields : List Field) : BodyClaims where
  codings := Field.codings fields
  encodings := Field.textsOf Field.transferEncoding fields
  length := (Field.lengthElements fields).head?.bind (Text.numeral? 10)

/-- What a receiver has of the fields that it received. -/
def FieldsSoFar.ofFields (fields : List Field) : FieldsSoFar where
  forwarded := (Field.forwarded fields).toArray
  connectionSeen := fields.any (·.name == Field.connection)
  claims := .ofFields fields

namespace BodyClaims

variable {claims : BodyClaims}

theorem addLengthElement_eq (value : List Char) (earlier : List (List Char)) (element : List Char)
    (known : ∀ first ∈ earlier.head?, (Text.numeral? 10 first).isSome)
    (length : claims.length = earlier.head?.bind (Text.numeral? 10)) :
    addLengthElement value claims element =
      match Field.lengthDefect? value (earlier ++ [element]).head? element with
      | .some defect => .error defect
      | .none =>
          .ok { claims with length := (earlier ++ [element]).head?.bind (Text.numeral? 10) } := by
  rw [addLengthElement, Field.lengthDefect?, Text.numeral?_ten]
  cases isNumeral : element.isEmpty || !element.all Char.isDigit with
  | true => simp
  | false =>
      have numeral : Text.numeral? 10 element =
          .some (Text.ofDigits 10 (element.map fun char => char.toNat - '0'.toNat)) := by
        simp only [Text.numeral?_ten, isNumeral]
        rfl
      simp only [Bool.false_eq_true, if_false]
      split
      · rfl
      · cases earlier with
        | nil =>
            simp only [List.head?_nil, Option.bind_none] at length
            simp [length, numeral]
        | cons first others =>
            rcases Option.isSome_iff_exists.mp (known first rfl) with ⟨count, firstCount⟩
            have lengthEq : claims.length = .some count := length.trans firstCount
            simp only [lengthEq, List.cons_append, List.head?_cons, Option.bind_some, firstCount,
              Option.some.injEq]
            split <;> simp [← lengthEq]

theorem foldlM_addLengthElement (value : List Char) (elements earlier : List (List Char))
    (claims : BodyClaims) (known : ∀ first ∈ earlier.head?, (Text.numeral? 10 first).isSome)
    (length : claims.length = earlier.head?.bind (Text.numeral? 10)) :
    elements.foldlM (addLengthElement value) claims =
      match elements.findSome? (Field.lengthDefect? value (earlier ++ elements).head?) with
      | .some defect => .error defect
      | .none =>
          .ok { claims with length := (earlier ++ elements).head?.bind (Text.numeral? 10) } := by
  induction elements generalizing earlier claims with
  | nil => simp [← length, pure, Except.pure]
  | cons element elements ih =>
      have first : (earlier ++ element :: elements).head? = (earlier ++ [element]).head? := by
        cases earlier <;> rfl
      rw [List.foldlM_cons, List.findSome?_cons,
        addLengthElement_eq value earlier element known length, first]
      cases defect : Field.lengthDefect? value (earlier ++ [element]).head? element with
      | some defect => rfl
      | none =>
          have isKnown : ∀ first ∈ (earlier ++ [element]).head?,
              (Text.numeral? 10 first).isSome := by
            intro first isFirst
            rcases Field.lengthDefect?_eq_none_iff.mp defect with ⟨count, _, _, firstCount⟩
            simp only [Option.mem_def] at isFirst
            simp only [isFirst, Option.bind_some] at firstCount
            simp only [firstCount, Option.isSome_some]
          have same :
              ((earlier ++ [element]) ++ elements).head? = (earlier ++ [element]).head? := by
            cases earlier <;> rfl
          have others := ih (earlier ++ [element])
            { claims with length := (earlier ++ [element]).head?.bind (Text.numeral? 10) }
            isKnown rfl
          simp only [same] at others
          exact others

theorem framing_ofFields_eq_ok_iff {fields : List Field} (sound : Field.AreSound fields)
    {framing : Framing} :
    (ofFields fields).framing = .ok framing ↔ Field.Frames fields framing := by
  rcases sound.lengths with ⟨length, _, agree⟩
  have codingsEq : (Field.codings fields).filter (· != .identity) = Field.namedCodings fields := rfl
  simp only [BodyClaims.framing, ofFields, codingsEq]
  cases named : Field.namedCodings fields with
  | nil =>
      cases elements : Field.lengthElements fields with
      | nil => cases framing <;> simp [Field.Frames, named, elements]
      | cons first others =>
          have firstLength := agree first (by simp [elements])
          have found : ∀ count, (∃ element ∈ first :: others,
              Text.numeral? 10 element = some count) ↔ length = count := by
            intro count
            constructor
            · rintro ⟨element, isIn, count⟩
              simp only [agree element (elements ▸ isIn)] at count
              exact Option.some.inj count
            · rintro rfl
              exact ⟨first, List.mem_cons_self, firstLength⟩
          cases framing <;> simp [-List.mem_cons, Field.Frames, named, elements, firstLength, found]
  | cons coding codings =>
      cases codings with
      | nil => cases coding <;> cases framing <;> simp [Field.Frames, named]
      | cons second codings => cases framing <;> simp [Field.Frames, named]

end BodyClaims

namespace FieldsSoFar

variable {fields : List Field} {field : Field}

theorem ofFields_append (fields : List Field) (field : Field) :
    ofFields (fields ++ [field]) =
      { forwarded := (Field.forwarded fields ++
          if field.name = Field.connection then
            if fields.any (·.name == Field.connection) then []
            else [⟨Field.connection, Field.close⟩]
          else if field.isKept then [field] else []).toArray
        connectionSeen := fields.any (·.name == Field.connection) || field.name == Field.connection
        claims :=
          { codings := Field.codings fields ++
              if field.name = Field.transferEncoding then field.text?.toList.flatMap codingsOf
              else []
            encodings := Field.textsOf Field.transferEncoding fields ++
              if field.name = Field.transferEncoding then field.text?.toList else []
            length := (Field.lengthElements fields ++
              if field.name = Field.contentLength then field.text?.toList.flatMap listElements
              else []).head?.bind (Text.numeral? 10) } } := by
  simp [ofFields, BodyClaims.ofFields, Field.forwarded_append, Field.codings_append,
    Field.textsOf_append, Field.lengthElements_append]

theorem addLength_ofFields (sound : Field.AreSound fields) (value : List Char) :
    (BodyClaims.ofFields fields).addLength value =
      match (listElements value).findSome? (Field.lengthDefect? value
        (Field.lengthElements fields ++ listElements value).head?) with
      | .some defect => .error defect
      | .none =>
          .ok { BodyClaims.ofFields fields with
            length := (Field.lengthElements fields ++ listElements value).head?.bind
              (Text.numeral? 10) } := by
  have known : ∀ first ∈ (Field.lengthElements fields).head?,
      (Text.numeral? 10 first).isSome := by
    intro first isFirst
    rcases sound.lengths with ⟨count, _, agree⟩
    simp only [agree first (List.mem_of_mem_head? isFirst), Option.isSome_some]
  exact BodyClaims.foldlM_addLengthElement value _ _ _ known rfl

/-- Taking up one more field is reading it with those before it. -/
theorem add_ofFields (sound : Field.AreSound fields) (field : Field) :
    (ofFields fields).add field =
      match Field.defect? fields field with
      | .some defect => .error defect
      | .none => .ok (ofFields (fields ++ [field])) := by
  have upgradeNe : Field.upgrade ≠ Field.connection ∧ Field.upgrade ≠ Field.transferEncoding ∧
      Field.upgrade ≠ Field.contentLength := by decide
  have connectionNe : Field.connection ≠ Field.transferEncoding ∧
      Field.connection ≠ Field.contentLength := by decide
  have encodingNe : Field.transferEncoding ≠ Field.contentLength := by decide
  simp only [ofFields_append, add, Field.defect?]
  by_cases isUpgrade : field.name = Field.upgrade
  · simp [isUpgrade, upgradeNe, ofFields, Field.isKept, BodyClaims.ofFields]
  · by_cases isConnection : field.name = Field.connection
    · cases seen : fields.any (·.name == Field.connection) <;>
        simp [isConnection, connectionNe, upgradeNe.1.symm, ofFields, seen, BodyClaims.ofFields]
    · by_cases isEncoding : field.name = Field.transferEncoding
      · cases text : field.text? <;>
          simp [isEncoding, encodingNe, upgradeNe.2.1.symm, connectionNe.1.symm, ofFields,
            Field.isKept, BodyClaims.ofFields, BodyClaims.addEncoding]
      · by_cases isLength : field.name = Field.contentLength
        · cases text : field.text? with
          | none => simp [isLength, encodingNe.symm, upgradeNe.2.2.symm, connectionNe.2.symm]
          | some value =>
              have taken := addLength_ofFields sound value
              simp only [isLength, encodingNe.symm, upgradeNe.2.2.symm, connectionNe.2.symm,
                if_true, if_false, ofFields, taken]
              cases (listElements value).findSome? (Field.lengthDefect? value
                (Field.lengthElements fields ++ listElements value).head?) with
              | some defect => rfl
              | none =>
                  simp [-List.head?_append, Field.isKept, isLength, upgradeNe.2.2.symm,
                    connectionNe.2.symm, BodyClaims.ofFields]
        · simp [isUpgrade, isConnection, isEncoding, isLength, ofFields, Field.isKept,
            BodyClaims.ofFields]

end FieldsSoFar

end HttpRelay
