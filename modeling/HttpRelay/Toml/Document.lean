import HttpRelay.Toml.Value

/-!
# Documents of TOML

A document is a series of statements, one to a line: headers, which open a table, and
assignments, which go into the table that was opened last.
-/

namespace HttpRelay.Toml

open Config (Tree)
open Text

/-- One statement of a document. -/
inductive Statement where
  | header (path : List String) (key : String)
  /-- A header in double brackets, which adds a table to an array. -/
  | elementHeader (path : List String) (key : String)
  | assignment (path : List String) (key : String) (tree : Tree)

def header : Reader Statement := do
  Reader.expect '['
  let (path, last) ← key
  Reader.expect ']'
  return .header path last

def elementHeader : Reader Statement := do
  Reader.expect '['
  Reader.expect '['
  let (path, last) ← key
  Reader.expect ']'
  Reader.expect ']'
  return .elementHeader path last

def statement : Reader Statement := fun text =>
  match text with
  | '[' :: '[' :: _ => elementHeader.run text
  | '[' :: _ => header.run text
  | _ =>
      ((assignment (value (depthLimit - 1))).run text).map fun ((path, key, tree), rest) =>
        (.assignment path key tree, rest)

/-- One line, which holds a statement or none. -/
def line : Reader (Option Statement) := do
  blanks
  let read ← fun text =>
    match text with
    | [] | '\n' :: _ | '#' :: _ => some (none, text)
    | _ => (some <$> statement).run text
  lineRest
  return read

/-- The statements of a document. -/
def statements? (text : List Char) : Option (List Statement) :=
  if text.isEmpty then some []
  else
    match line.run text with
    | none => none
    | some (read, rest) =>
        if rest.length < text.length then (statements? rest).map (read.toList ++ ·) else none
termination_by text.length

/-- Tables under construction, and the path of the table that is open. -/
structure Draft where
  entries : Entries
  opened : List String

namespace Draft

def empty : Draft :=
  ⟨[], []⟩

/-- The draft after a statement, if that is allowed. -/
def add (draft : Draft) : Statement → Option Draft
  | .header path key => do
      return ⟨← draft.entries.openTable path key, path ++ [key]⟩
  | .elementHeader path key => do
      return ⟨← draft.entries.openElement path key, path ++ [key]⟩
  | .assignment path key tree => do
      let entries ← draft.entries.change .implied (fun _ inside => inside.assign path key tree)
        .stated draft.opened
      return { draft with entries := entries }

end Draft

/-- The document without the mark that some editors put in front. -/
def withoutMark : List Char → List Char
  | '\uFEFF' :: rest => rest
  | rest => rest

def ofText? (text : String) : Option Tree := do
  let statements ← statements? (withPlainBreaks (withoutMark text.toList))
  let draft ← statements.foldlM Draft.add Draft.empty
  return .table (Entries.toTrees draft.entries)

end HttpRelay.Toml
