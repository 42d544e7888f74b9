import DiceNotation.Settings.Value

/-!
# The tables of a document while it is read

A document builds one tree of tables. A table may come into being because a header passes through it, a
dotted key may write into it, and a header may declare it. What a header declared, no other header
declares again and no dotted key writes into; what a dotted key wrote into is declared from the next
header on. Lists and tables that were written as values take nothing more.
-/

namespace DiceNotation.Toml

/-- How a table came to be: passed through, written into by the dotted keys under the header of the
given number, or declared by a header. -/
inductive Standing where
  | passed
  | dotted (header : Nat)
  | declared
deriving DecidableEq, Repr

/-- What stands under a key: a value, a table, or a list of tables with the last one first. -/
inductive Node where
  | value (v : Value)
  | table (standing : Standing) (entries : List (String × Node))
  | tables (items : List (List (String × Node)))

/-- The entries of a table. -/
abbrev Entries := List (String × Node)

namespace Entries

/-- The node under a key. -/
def find? (entries : Entries) (key : String) : Option Node := entries.lookup key

/-- The entries with a node under a key; a new key comes last. -/
def put (entries : Entries) (key : String) (node : Node) : Entries :=
  if entries.any (·.1 == key) then
    entries.map fun entry => if entry.1 == key then (key, node) else entry
  else entries ++ [(key, node)]

/-- Changes the table at the end of a path. Tables on the way that are missing are made, and of a list
of tables the last one is entered. -/
def within (change : Entries → Option Entries) : List String → Entries → Option Entries
  | [], entries => change entries
  | key :: path, entries =>
    match entries.find? key with
    | none => (within change path []).map fun inner => entries.put key (.table .passed inner)
    | some (.table standing inner) =>
      (within change path inner).map fun inner => entries.put key (.table standing inner)
    | some (.tables (inner :: older)) =>
      (within change path inner).map fun inner => entries.put key (.tables (inner :: older))
    | some (.tables []) => none
    | some (.value _) => none

/-- Declares a table in its parent. -/
def declare (key : String) (entries : Entries) : Option Entries :=
  match entries.find? key with
  | none => some (entries.put key (.table .declared []))
  | some (.table .passed inner) => some (entries.put key (.table .declared inner))
  | some _ => none

/-- Starts the next table of a list in its parent. -/
def extend (key : String) (entries : Entries) : Option Entries :=
  match entries.find? key with
  | none => some (entries.put key (.tables [[]]))
  | some (.tables items) => some (entries.put key (.tables ([] :: items)))
  | some _ => none

/-- Writes a value under a dotted key. `header` is the number of headers read so far. -/
def write (header : Nat) (v : Value) : List String → Entries → Option Entries
  | [], _ => none
  | [key], entries => if (entries.find? key).isSome then none else some (entries.put key (.value v))
  | key :: path, entries =>
    match entries.find? key with
    | none => (write header v path []).map fun inner => entries.put key (.table (.dotted header) inner)
    | some (.table standing inner) =>
      if standing = .passed || standing = .dotted header then
        (write header v path inner).map fun inner => entries.put key (.table (.dotted header) inner)
      else none
    | some _ => none

end Entries

mutual

/-- The value that a node stands for. -/
def Node.toValue : Node → Value
  | .value v => v
  | .table _ entries => .table (entryValues entries)
  | .tables items => .list (tableValues items).reverse

/-- The values of the entries of a table. -/
def entryValues : List (String × Node) → List (String × Value)
  | [] => []
  | (key, node) :: rest => (key, node.toValue) :: entryValues rest

/-- The values of several tables. -/
def tableValues : List (List (String × Node)) → List Value
  | [] => []
  | entries :: rest => .table (entryValues entries) :: tableValues rest

end

end DiceNotation.Toml
