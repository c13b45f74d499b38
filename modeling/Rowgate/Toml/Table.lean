import Rowgate.Keyed
import Rowgate.Toml.Value
/-
Tables of a TOML document while it is read.

Keys are defined once. A table may come to be in three ways: implied by the header of a table inside
it, by a header of its own, or by a dotted key. Only the first kind takes a header later, and only
the last kind takes further dotted keys; a value, inline tables included, is closed. A path that
meets tables in a row goes on in the last of them.
-/
set_option autoImplicit false

namespace Rowgate.Toml

/-- How a table came to be. -/
inductive Origin where
  | implied
  | header
  | dotted
deriving DecidableEq, Repr

/-- What a key of a table under construction holds. -/
inductive Node where
  | value (value : Value)
  | table (origin : Origin) (entries : List (String × Node))
  /-- tables in a row; the last one is open -/
  | tables (items : List (List (String × Node)))

/-- A table under construction, in the order of its keys' first mention. -/
abbrev Entries := List (String × Node)

/-- Changes what a key holds, if `change` allows for it; an absent key is put last. -/
def alter? (key : String) (change : Option Node → Option Node) : Entries → Option Entries
  | [] => (change none).map fun node => [(key, node)]
  | (k, node) :: rest =>
    if k = key then (change (some node)).map fun node => (k, node) :: rest
    else (alter? key change rest).map ((k, node) :: ·)

/-- Changes the last of some tables. -/
def alterLast? (change : Entries → Option Entries) : List Entries → Option (List Entries)
  | [] => none
  | [last] => (change last).map ([·])
  | item :: rest => (alterLast? change rest).map (item :: ·)

/-- Changes the table under a key, on the way to a table inside it; if there is none, it is
implied. -/
def descend? (key : String) (change : Entries → Option Entries) (entries : Entries) :
    Option Entries :=
  alter? key (fun
    | none => (change []).map (.table .implied)
    | some (.table origin sub) => (change sub).map (.table origin)
    | some (.tables items) => (alterLast? change items).map .tables
    | some (.value _) => none) entries

/-- Changes the table at a path. -/
def within? (change : Entries → Option Entries) : List String → Entries → Option Entries
  | [], entries => change entries
  | key :: path, entries => descend? key (fun sub => within? change path sub) entries

/-- A header: the table at the path is defined, and may not have been defined before. -/
def openTable? (path : List String) : Entries → Option Entries :=
  match path.getLast? with
  | none => fun _ => none
  | some last => within? (alter? last fun
      | none => some (.table .header [])
      | some (.table .implied sub) => some (.table .header sub)
      | some _ => none) path.dropLast

/-- A header of tables in a row: one more table is put under the path. -/
def appendTable? (path : List String) : Entries → Option Entries :=
  match path.getLast? with
  | none => fun _ => none
  | some last => within? (alter? last fun
      | none => some (.tables [[]])
      | some (.tables items) => some (.tables (items ++ [[]]))
      | some _ => none) path.dropLast

/-- Defines a key, which may be dotted. -/
def assign? (value : Value) : List String → Entries → Option Entries
  | [], _ => none
  | [key], entries => alter? key (fun
      | none => some (.value value)
      | some _ => none) entries
  | key :: path, entries => alter? key (fun
      | none => (assign? value path []).map (.table .dotted)
      | some (.table origin sub) =>
        if origin = .header ∨ (path.length = 1 ∧ origin ≠ .dotted) then none
        else (assign? value path sub).map (.table origin)
      | some (.tables items) =>
        if path.length = 1 then none else (alterLast? (assign? value path) items).map .tables
      | some (.value _) => none) entries

/-! ## The finished document -/

mutual

def Node.toValue : Node → Value
  | .value v => v
  | .table _ entries => .table (entriesToValues entries)
  | .tables items => .array (itemsToValues items)

def entriesToValues : List (String × Node) → Keyed Value
  | [] => []
  | (key, node) :: rest => Keyed.insert key node.toValue (entriesToValues rest)

def itemsToValues : List (List (String × Node)) → List Value
  | [] => []
  | entries :: rest => .table (entriesToValues entries) :: itemsToValues rest

end

end Rowgate.Toml
