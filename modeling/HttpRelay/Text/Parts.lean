/-!
# Parts of a text

Cutting a text at a separator and taking the blanks off its ends. Both work on lists of any
kind of character, since header fields are cut as bytes and their values as decoded text.
-/

namespace HttpRelay.Text

variable {Item : Type}

/-- Puts one more item in front of the first part. -/
def extendFirst (item : Item) : List (List Item) → List (List Item)
  | [] => [[item]]
  | first :: others => (item :: first) :: others

/-- The parts between separators. There is always one part more than there are separators. -/
def split (isSeparator : Item → Bool) : List Item → List (List Item)
  | [] => [[]]
  | item :: rest =>
      if isSeparator item then [] :: split isSeparator rest
      else extendFirst item (split isSeparator rest)

/-- The text without the blanks at either end. -/
def trim (isBlank : Item → Bool) (text : List Item) : List Item :=
  ((text.dropWhile isBlank).reverse.dropWhile isBlank).reverse

/-- The texts with a separator between neighbours. -/
def join (separator : List Item) : List (List Item) → List Item
  | [] => []
  | [text] => text
  | text :: next :: others => text ++ separator ++ join separator (next :: others)

@[simp]
theorem split_nil (isSeparator : Item → Bool) : split isSeparator [] = [[]] := rfl

theorem split_ne_nil (isSeparator : Item → Bool) (text : List Item) :
    split isSeparator text ≠ [] := by
  cases text with
  | nil => simp
  | cons item rest =>
      rw [split]
      split
      · simp
      · cases split isSeparator rest <;> simp [extendFirst]

theorem extendFirst_append (item : Item) {parts : List (List Item)} (nonempty : parts ≠ [])
    (others : List (List Item)) :
    extendFirst item (parts ++ others) = extendFirst item parts ++ others := by
  cases parts with
  | nil => exact absurd rfl nonempty
  | cons first rest => rfl

/-- The parts around a separator are those before it and those after it. -/
theorem split_append_cons (isSeparator : Item → Bool) {separator : Item}
    (separates : isSeparator separator = true) (before after : List Item) :
    split isSeparator (before ++ separator :: after) =
      split isSeparator before ++ split isSeparator after := by
  induction before with
  | nil => simp [split, separates]
  | cons item rest ih =>
      simp only [List.cons_append, split, ih]
      split
      · rfl
      · exact extendFirst_append item (split_ne_nil isSeparator rest) _

end HttpRelay.Text
