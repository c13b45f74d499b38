/-
Tables with text keys, kept in the order of the keys' bytes.

A table is a list of pairs whose keys ascend. Comparing texts character by character orders them as
their bytes in UTF-8 do, so the order is that of the encoded keys. `insert` replaces the value of a
key that is present and puts a new key at its place; hence what a table holds depends on the last
value given to each key and not on the order in which keys arrive.
-/
set_option autoImplicit false

namespace Rowgate

/-- A table from texts to values. -/
abbrev Keyed (α : Type) := List (String × α)

namespace Keyed

variable {α β : Type}

/-- The table in which `key` has the value `value` and every other key its old one. -/
def insert (key : String) (value : α) : Keyed α → Keyed α
  | [] => [(key, value)]
  | (k, v) :: rest =>
    if key = k then (key, value) :: rest
    else if key < k then (key, value) :: (k, v) :: rest
    else (k, v) :: insert key value rest

/-- The value of a key. -/
def get? (key : String) : Keyed α → Option α
  | [] => none
  | (k, v) :: rest => if key = k then some v else get? key rest

/-- The table of the pairs, the last one with a key deciding its value. -/
def ofPairs (pairs : List (String × α)) : Keyed α :=
  pairs.foldl (fun table pair => insert pair.1 pair.2 table) []

/-- Inserts the pairs one after the other. -/
def insertAll (table : Keyed α) (pairs : List (String × α)) : Keyed α :=
  pairs.foldl (fun table pair => insert pair.1 pair.2 table) table

/-- The keys, in order. -/
def keys (table : Keyed α) : List String := table.map (·.1)

/-- The same keys with other values. -/
def mapValues (g : α → β) (table : Keyed α) : Keyed β := table.map fun (k, v) => (k, g v)

/-! ## What a table holds -/

theorem get?_insert (key key' : String) (value : α) (table : Keyed α) :
    get? key' (insert key value table) = if key' = key then some value else get? key' table := by
  induction table with
  | nil => simp [insert, get?]
  | cons pair rest ih =>
    obtain ⟨k, v⟩ := pair
    unfold insert
    split
    · rename_i h; subst h
      simp only [get?]
      split <;> simp_all
    · split
      · simp [get?]
      · simp only [get?, ih]
        split <;> rename_i h1
        · split
          · rename_i h2; subst h1 h2; contradiction
          · rfl
        · rfl

end Keyed

end Rowgate
