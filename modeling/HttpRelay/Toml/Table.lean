import HttpRelay.Config.Tree

/-!
# Tables of TOML

A document builds its tables statement by statement, and each table may be defined once
only. How a table came to be decides what may still be added to it: one that a header names
is closed to dotted keys, one that only appeared on the way to another may still get a
header, and one that dotted keys made is open to dotted keys alone. A value, inline tables
included, is never added to.
-/

namespace HttpRelay.Toml

open Config (Tree)

/-- How a table came to be. -/
inductive Origin where
  | stated
  /-- On the way to a table with a header. -/
  | implied
  | dotted
  deriving DecidableEq, Repr

/-- What a key stands for while a document is being read. -/
inductive Item where
  | value (tree : Tree)
  | table (origin : Origin) (entries : List (String × Item))
  /-- The tables of one array, the last of which is still open. -/
  | tables (closed : List (List (String × Item))) (last : List (String × Item))

/-- The entries of a table while a document is being read. -/
abbrev Entries := List (String × Item)

mutual

/-- The tree of an item that is complete. -/
def Item.toTree : Item → Tree
  | .value tree => tree
  | .table _ entries => .table (Entries.toTrees entries)
  | .tables closed last =>
      .array (Entries.allToTrees closed ++ [.table (Entries.toTrees last)])

/-- The trees of all entries. -/
def Entries.toTrees : List (String × Item) → List (String × Tree)
  | [] => []
  | (key, item) :: others => (key, item.toTree) :: Entries.toTrees others

/-- The trees of several tables. -/
def Entries.allToTrees : List (List (String × Item)) → List Tree
  | [] => []
  | entries :: others => .table (Entries.toTrees entries) :: Entries.allToTrees others

end

namespace Entries

/-- Gives a key an item, in place of the one that it had. -/
def put (key : String) (item : Item) : Entries → Entries
  | [] => [(key, item)]
  | entry :: others =>
      if entry.1 = key then (key, item) :: others else entry :: put key item others

def insert (key : String) (tree : Tree) (entries : Entries) : Option Entries :=
  match entries.lookup key with
  | none => some (put key (.value tree) entries)
  | some _ => none

/-- Changes the table at the end of a path. Tables that are missing on the way are made and
get the given origin. What is done at the end is told how the table there came to be. -/
def change (origin : Origin) (finish : Origin → Entries → Option Entries) :
    (here : Origin) → List String → Entries → Option Entries
  | here, [], entries => finish here entries
  | _, key :: path, entries =>
      match entries.lookup key with
      | none => do
          let inside ← change origin finish origin path []
          return put key (.table origin inside) entries
      | some (.value _) => none
      | some (.tables closed last) => do
          let last ← change origin finish .stated path last
          return put key (.tables closed last) entries
      | some (.table made inside) =>
          if origin = .dotted ∧ made = .stated then none
          else do
            let inside ← change origin finish made path inside
            return put key (.table made inside) entries

/-- Gives a dotted key a value. -/
def assign (path : List String) (key : String) (tree : Tree) (entries : Entries) :
    Option Entries :=
  match path with
  | [] => entries.insert key tree
  | first :: others =>
      entries.change .dotted
        (fun here inside => if here = .dotted then inside.insert key tree else none)
        .stated (first :: others)

/-- Opens a table by its header. -/
def openTable (path : List String) (key : String) (entries : Entries) : Option Entries :=
  entries.change .implied
    (fun _ inside =>
      match inside.lookup key with
      | none => some (put key (.table .stated []) inside)
      | some (.table .implied made) => some (put key (.table .stated made) inside)
      | some _ => none)
    .stated path

/-- Opens the next table of an array. -/
def openElement (path : List String) (key : String) (entries : Entries) : Option Entries :=
  entries.change .implied
    (fun _ inside =>
      match inside.lookup key with
      | none => some (put key (.tables [] []) inside)
      | some (.tables closed last) => some (put key (.tables (closed ++ [last]) []) inside)
      | some _ => none)
    .stated path

/-- The table that consists of the given assignments. -/
def ofAssignments? (assignments : List (List String × String × Tree)) : Option Entries :=
  assignments.foldlM (fun entries (path, key, tree) => entries.assign path key tree) []

end Entries

end HttpRelay.Toml
