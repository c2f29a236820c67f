import HttpRelay.Proofs.Message.LineLimit

/-!
# The lines of a byte string

A byte string cut at its line feeds: the lines that have one, and the bytes behind the last.
Cutting loses nothing, and a byte string either has no line feed or begins with a line, which
is the induction that all facts about lines go by.
-/

namespace HttpRelay

namespace Text

variable {Item : Type} [BEq Item] [LawfulBEq Item] {separator : Item}
  {text first second rest more : List Item}

theorem split_of_notMem (notIn : separator ∉ text) : split (· == separator) text = [text] := by
  induction text with
  | nil => rfl
  | cons item text ih =>
      simp only [List.mem_cons, not_or] at notIn
      have ne : item ≠ separator := Ne.symm notIn.1
      simp [split, ne, ih notIn.2, extendFirst]

theorem split_first (notIn : separator ∉ first) (rest : List Item) :
    split (· == separator) (first ++ separator :: rest) = first :: split (· == separator) rest := by
  rw [split_append_cons (· == separator) (beq_self_eq_true separator), split_of_notMem notIn,
    List.singleton_append]

theorem append_separator_inj (firstNotIn : separator ∉ first) (secondNotIn : separator ∉ second) :
    first ++ separator :: rest = second ++ separator :: more ↔ first = second ∧ rest = more := by
  constructor
  · intro same
    have parts := congrArg (split (· == separator)) same
    simp only [split_first firstNotIn, split_first secondNotIn, List.cons.injEq] at parts
    rcases parts with ⟨rfl, _⟩
    simpa using same
  · rintro ⟨rfl, rfl⟩
    rfl

theorem notMem_or_exists_first (separator : Item) (text : List Item) :
    separator ∉ text ∨ ∃ first rest, separator ∉ first ∧ text = first ++ separator :: rest := by
  by_cases isIn : separator ∈ text
  · rcases List.eq_append_cons_of_mem isIn with ⟨first, rest, textEq, notIn⟩
    exact Or.inr ⟨first, rest, notIn, textEq⟩
  · exact Or.inl isIn

end Text

namespace Line

/-- A line with its terminator, and its content, which is within a limit. -/
def IsWhole (limit : Nat) (content line : Bytes) : Prop :=
  ∃ raw, Bytes.lineFeed ∉ raw ∧ line = raw ++ [Bytes.lineFeed] ∧ Line.content raw = content ∧
    content.length ≤ limit

/-- The lines that have a line feed, without it, and the bytes behind the last of them. -/
def cut (bytes : Bytes) : List Bytes × Bytes :=
  let parts := Text.split (· == Bytes.lineFeed) bytes
  (parts.dropLast, parts.getLastD [])

/-- The bytes that were cut into the given lines. -/
def uncut (lines : List Bytes) (last : Bytes) : Bytes :=
  lines.flatMap (· ++ [Bytes.lineFeed]) ++ last

variable {raw rest : Bytes}

theorem uncut_cons (lines : List Bytes) (last : Bytes) :
    uncut (raw :: lines) last = raw ++ Bytes.lineFeed :: uncut lines last := by
  simp [uncut]

/-- A byte string has no line feed, or begins with a line. -/
@[elab_as_elim]
theorem induction {motive : Bytes → Prop}
    (last : ∀ raw, Bytes.lineFeed ∉ raw → motive raw)
    (line : ∀ raw rest, Bytes.lineFeed ∉ raw → motive rest →
      motive (raw ++ Bytes.lineFeed :: rest))
    (bytes : Bytes) : motive bytes := by
  rcases Text.notMem_or_exists_first Bytes.lineFeed bytes with notIn | ⟨raw, rest, notIn, rfl⟩
  · exact last bytes notIn
  · exact line raw rest notIn (induction last line rest)
termination_by bytes.length
decreasing_by
  subst bytes
  simp only [List.length_append, List.length_cons]
  omega

theorem cut_of_notMem (notIn : Bytes.lineFeed ∉ raw) : cut raw = ([], raw) := by
  simp [cut, Text.split_of_notMem notIn]

theorem cut_line (notIn : Bytes.lineFeed ∉ raw) (rest : Bytes) :
    cut (raw ++ Bytes.lineFeed :: rest) = (raw :: (cut rest).1, (cut rest).2) := by
  have nonempty := Text.split_ne_nil (· == Bytes.lineFeed) rest
  simp only [cut, Text.split_first notIn, List.dropLast_cons_of_ne_nil nonempty]
  cases others : Text.split (· == Bytes.lineFeed) rest with
  | nil => exact absurd others nonempty
  | cons first others => rfl

theorem uncut_cut (bytes : Bytes) : uncut (cut bytes).1 (cut bytes).2 = bytes := by
  induction bytes using Line.induction with
  | last raw notIn =>
      simp only [cut_of_notMem notIn]
      rfl
  | line raw rest notIn ih => rw [cut_line notIn, uncut_cons, ih]

end Line

end HttpRelay
