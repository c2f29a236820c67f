/-!
# Configuration trees

The values of a configuration text, before it is known what they are for. A tree does not
tell in which format it was written.
-/

namespace HttpRelay.Config

/-- A value of a configuration text. -/
inductive Tree where
  | null
  | boolean (value : Bool)
  | integer (value : Int)
  /-- A number that is not written as an integer. -/
  | fraction
  | text (value : String)
  /-- A date, a time of day, or both. -/
  | moment
  | array (items : List Tree)
  | table (entries : List (String × Tree))
  deriving Repr, Inhabited

end HttpRelay.Config
