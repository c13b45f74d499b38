import Rowgate.Proofs.Sections
import Rowgate.Toml.Parser
/-
What a document holds.

A document is a table of sections. Reading it changes one key at a time, and what a key comes to
hold is a table, a row of tables or a value that was just read; so the keys of a document ascend,
and so do those of every section that is a table, written inline or not (`parse?_isDocument`). Hence
what a document holds is told by look-ups, and turning it into JSON, which cuts a section that is
written as a row to the places that its fields have, turns each look-up (`Value.part?_toJson`).
-/
set_option autoImplicit false

namespace Rowgate.Toml

/-! ## Looking into values -/

namespace Value

/-- The value under a key, if the value is a table that has it. -/
def get? (key : String) : Value → Option Value
  | .table entries => Keyed.get? key entries
  | _ => none

/-- What a section gives for one of its fields: the value under the key of the field or, where the
section is written as a row, the item at the place of the field. -/
def part? (key : String) (place : Nat) : Value → Option Value
  | .table entries => Keyed.get? key entries
  | .array items => items[place]?
  | _ => none

/-- A value whose keys ascend, if it is a table. -/
def Ordered (v : Value) : Prop := ∀ entries, v = .table entries → Keyed.Ascending entries

/-- A table with ascending keys whose values are ordered. -/
inductive IsDocument : Value → Prop where
  | table {entries : List (String × Value)} (hkeys : Keyed.Ascending entries)
    (hvalues : ∀ key v, Keyed.get? key entries = some v → v.Ordered) : IsDocument (.table entries)

end Value

/-! ## Tables while they are read -/

/-- The finished values in a table under construction are ordered. -/
def EntriesOrdered (entries : Entries) : Prop :=
  ∀ key v, (key, Node.value v) ∈ entries → v.Ordered

/-- A change of a key adds what it makes of the key, and nothing else. -/
theorem mem_alter? {key : String} {change : Option Node → Option Node} {entries entries' : Entries}
    (h : alter? key change entries = some entries') {entry : String × Node}
    (hentry : entry ∈ entries') : entry ∈ entries ∨ ∃ old, change old = some entry.2 := by
  induction entries generalizing entries' with
  | nil =>
    obtain ⟨node, hnode, rfl⟩ := Option.map_eq_some_iff.mp h
    obtain rfl := List.mem_singleton.mp hentry
    exact .inr ⟨_, hnode⟩
  | cons head rest ih =>
    obtain ⟨k, node⟩ := head
    rw [alter?] at h
    by_cases hkey : k = key
    · rw [if_pos hkey] at h
      obtain ⟨node', hnode', rfl⟩ := Option.map_eq_some_iff.mp h
      rcases List.mem_cons.mp hentry with rfl | hrest
      · exact .inr ⟨_, hnode'⟩
      · exact .inl (List.mem_cons_of_mem _ hrest)
    · rw [if_neg hkey] at h
      obtain ⟨rest', hrest', rfl⟩ := Option.map_eq_some_iff.mp h
      rcases List.mem_cons.mp hentry with rfl | hrest
      · exact .inl List.mem_cons_self
      · exact (ih hrest' hrest).imp_left (List.mem_cons_of_mem _)

theorem EntriesOrdered.alter {key : String} {change : Option Node → Option Node}
    {entries entries' : Entries} (hentries : EntriesOrdered entries)
    (hchange : ∀ old v, change old = some (.value v) → v.Ordered)
    (h : alter? key change entries = some entries') : EntriesOrdered entries' := by
  intro k v hmem
  rcases mem_alter? h hmem with hold | ⟨old, hnew⟩
  · exact hentries k v hold
  · exact hchange old v hnew

/-- Below a key there are tables, so the way through it adds no finished value. -/
theorem EntriesOrdered.descend {key : String} {change : Entries → Option Entries}
    {entries entries' : Entries} (hentries : EntriesOrdered entries)
    (h : descend? key change entries = some entries') : EntriesOrdered entries' := by
  refine hentries.alter ?_ h
  intro old v hnew
  split at hnew <;> simp at hnew

theorem EntriesOrdered.within {change : Entries → Option Entries} {path : List String}
    {entries entries' : Entries} (hentries : EntriesOrdered entries)
    (hchange : ∀ entries', change entries = some entries' → EntriesOrdered entries')
    (h : within? change path entries = some entries') : EntriesOrdered entries' := by
  cases path with
  | nil => exact hchange entries' h
  | cons key path => exact hentries.descend h

/-- A change at the end of a path that makes no finished value of a key adds none. -/
theorem EntriesOrdered.within_alter {last : String} {change : Option Node → Option Node}
    {path : List String} {entries entries' : Entries} (hentries : EntriesOrdered entries)
    (hchange : ∀ old v, change old ≠ some (.value v))
    (h : within? (alter? last change) path entries = some entries') : EntriesOrdered entries' := by
  refine hentries.within (fun other hother => hentries.alter ?_ hother) h
  exact fun old v hnew => absurd hnew (hchange old v)

theorem EntriesOrdered.openTable {path : List String} {entries entries' : Entries}
    (hentries : EntriesOrdered entries) (h : openTable? path entries = some entries') :
    EntriesOrdered entries' := by
  unfold openTable? at h
  cases hlast : path.getLast? with
  | none =>
    rw [hlast] at h
    contradiction
  | some last =>
    rw [hlast] at h
    refine hentries.within_alter (fun old v hnew => ?_) h
    split at hnew <;> simp at hnew

theorem EntriesOrdered.appendTable {path : List String} {entries entries' : Entries}
    (hentries : EntriesOrdered entries) (h : appendTable? path entries = some entries') :
    EntriesOrdered entries' := by
  unfold appendTable? at h
  cases hlast : path.getLast? with
  | none =>
    rw [hlast] at h
    contradiction
  | some last =>
    rw [hlast] at h
    refine hentries.within_alter (fun old v hnew => ?_) h
    split at hnew <;> simp at hnew

/-- Defining a key adds the value that it is given, or tables on the way to it. -/
theorem EntriesOrdered.assign {v : Value} (hv : v.Ordered) {path : List String}
    {entries entries' : Entries} (hentries : EntriesOrdered entries)
    (h : assign? v path entries = some entries') : EntriesOrdered entries' := by
  unfold assign? at h
  split at h
  · contradiction
  · refine hentries.alter ?_ h
    intro old w hnew
    split at hnew
    · simp at hnew
      exact hnew ▸ hv
    · contradiction
  · refine hentries.alter ?_ h
    intro old w hnew
    split at hnew
    · simp at hnew
    · split at hnew <;> simp at hnew
    · split at hnew <;> simp at hnew
    · contradiction

/-! ## Lines of a document -/

theorem ascending_entriesToValues (entries : Entries) :
    Keyed.Ascending (entriesToValues entries) := by
  induction entries with
  | nil => exact List.Pairwise.nil
  | cons head rest ih => exact ih.insert head.1 head.2.toValue

theorem scalarValue?_ordered {cs : List Char} {v : Value} (h : scalarValue? cs = some v) :
    v.Ordered := by
  rintro entries rfl
  unfold scalarValue? at h
  split at h
  · cases h
  split at h
  · cases h
  split at h
  · cases h
  rcases Option.or_eq_some_iff.mp h with hinteger | ⟨-, hreal⟩
  · obtain ⟨n, -, hn⟩ := Option.map_eq_some_iff.mp hinteger
    unfold Value.ofInteger at hn
    split at hn <;> contradiction
  rcases Option.or_eq_some_iff.mp hreal with hword | ⟨-, hfloat⟩
  · obtain ⟨x, -, hx⟩ := Option.map_eq_some_iff.mp hword
    contradiction
  · obtain ⟨x, -, hx⟩ := Option.map_eq_some_iff.mp hfloat
    unfold Value.ofFloat at hx
    split at hx <;> contradiction

/-- A table in the place of a value is inline, and ordered when it is finished. -/
theorem scanValue?_ordered {budget depth : Nat} {cs rest : List Char} {v : Value}
    (h : scanValue? budget depth cs = some (v, rest)) : v.Ordered := by
  rintro entries rfl
  unfold scanValue? at h
  split at h
  · contradiction
  split at h
  · obtain ⟨⟨text, after⟩, -, htext⟩ := Option.map_eq_some_iff.mp h
    cases htext
  · obtain ⟨⟨text, after⟩, -, htext⟩ := Option.map_eq_some_iff.mp h
    cases htext
  · contradiction
  · contradiction
  · obtain ⟨⟨items, after⟩, -, hitems⟩ := Option.map_eq_some_iff.mp h
    cases hitems
  · obtain ⟨⟨pairs, after⟩, -, hpairs⟩ := Option.map_eq_some_iff.mp h
    cases hpairs
    exact ascending_entriesToValues pairs
  · obtain ⟨w, hw, heq⟩ := Option.bind_eq_some_iff.mp h
    cases heq
    exact scalarValue?_ordered hw _ rfl

/-- A line adds ordered values. -/
theorem readLine?_ordered {reading reading' : Reading} {cs rest : List Char}
    (hreading : EntriesOrdered reading.entries)
    (h : readLine? reading cs = some (reading', rest)) : EntriesOrdered reading'.entries := by
  unfold readLine? at h
  split at h
  -- the header of a table in a row
  · obtain ⟨⟨path, after⟩, -, h⟩ := Option.bind_eq_some_iff.mp h
    split at h
    · obtain ⟨entries, hentries, h⟩ := Option.bind_eq_some_iff.mp h
      cases h
      exact hreading.appendTable hentries
    · contradiction
  -- the header of a table
  · obtain ⟨⟨path, after⟩, -, h⟩ := Option.bind_eq_some_iff.mp h
    split at h
    · obtain ⟨entries, hentries, h⟩ := Option.bind_eq_some_iff.mp h
      cases h
      exact hreading.openTable hentries
    · contradiction
  · cases h
    exact hreading
  · cases h
    exact hreading
  · split at h
    · cases h
      exact hreading
    -- a key with its value
    · obtain ⟨⟨path, after⟩, -, h⟩ := Option.bind_eq_some_iff.mp h
      split at h
      · obtain ⟨⟨v, after⟩, hv, h⟩ := Option.bind_eq_some_iff.mp h
        obtain ⟨entries, hentries, h⟩ := Option.bind_eq_some_iff.mp h
        cases h
        refine hreading.within (fun other hother => ?_) hentries
        exact hreading.assign (scanValue?_ordered hv) hother
      · contradiction

theorem readLines?_ordered {fuel : Nat} {reading reading' : Reading} {cs : List Char}
    (hreading : EntriesOrdered reading.entries) (h : readLines? fuel reading cs = some reading') :
    EntriesOrdered reading'.entries := by
  induction fuel generalizing reading cs with
  | zero => contradiction
  | succ fuel ih =>
    obtain ⟨⟨read, rest⟩, hline, h⟩ := Option.bind_eq_some_iff.mp h
    obtain ⟨rest', -, h⟩ := Option.bind_eq_some_iff.mp h
    have hread := readLine?_ordered hreading hline
    split at h
    · cases h
      exact hread
    · obtain ⟨following, -, h⟩ := Option.bind_eq_some_iff.mp h
      exact ih hread h

/-! ## Documents -/

theorem mem_entriesToValues {entries : Entries} {key : String} {v : Value}
    (h : (key, v) ∈ entriesToValues entries) :
    ∃ node, (key, node) ∈ entries ∧ v = node.toValue := by
  induction entries with
  | nil => contradiction
  | cons head rest ih =>
    rcases Keyed.mem_insert h with heq | hrest
    · obtain ⟨rfl, rfl⟩ := Prod.mk.inj heq
      exact ⟨_, List.mem_cons_self, rfl⟩
    · obtain ⟨node, hnode, hv⟩ := ih hrest
      exact ⟨node, List.mem_cons_of_mem _ hnode, hv⟩

theorem EntriesOrdered.toValue {entries : Entries} (hentries : EntriesOrdered entries)
    {key : String} {node : Node} (hnode : (key, node) ∈ entries) : node.toValue.Ordered := by
  cases node with
  | value v => exact hentries key v hnode
  | table origin sub =>
    rintro values htable
    cases htable
    exact ascending_entriesToValues sub
  | tables items =>
    rintro values hrow
    contradiction

/-- **Keys ascend**, those of a document and those of its sections. -/
theorem parse?_isDocument {text : String} {v : Value} (h : parse? text = some v) :
    v.IsDocument := by
  obtain ⟨reading, hreading, rfl⟩ := Option.map_eq_some_iff.mp h
  have hordered : EntriesOrdered reading.entries :=
    readLines?_ordered (fun _ _ hmem => absurd hmem List.not_mem_nil) hreading
  have hkeys := ascending_entriesToValues reading.entries
  refine .table hkeys fun key w hw => ?_
  obtain ⟨node, hnode, rfl⟩ := mem_entriesToValues (hkeys.get?_eq_some_iff.mp hw)
  exact hordered.toValue hnode

/-! ## Rows cut to their fields -/

/-- The value with at most `count` items, if it is an array. -/
def Value.cut (count : Nat) : Value → Value
  | .array items => .array (items.take count)
  | v => v

theorem Value.takeRow_table (key : String) (count : Nat) (entries : List (String × Value)) :
    (Value.table entries).takeRow key count =
      .table (entries.map fun entry =>
        (entry.1, if entry.1 = key then entry.2.cut count else entry.2)) := by
  refine congrArg Value.table (List.map_congr_left ?_)
  rintro ⟨k, v⟩ -
  cases v with
  | array items =>
    by_cases hkey : k = key
    · simp [hkey, Value.cut]
    · simp [hkey]
  | _ => simp [Value.cut]

/-- A place of a row within the cut holds what it held. -/
theorem Value.part?_cut (v : Value) {count place : Nat} (hplace : place < count) (key : String) :
    (v.cut count).part? key place = v.part? key place := by
  cases v with
  | array items => exact List.getElem?_take_of_lt hplace
  | _ => rfl

theorem Value.Ordered.cut {v : Value} (hv : v.Ordered) (count : Nat) : (v.cut count).Ordered := by
  cases v with
  | array items =>
    rintro entries htable
    contradiction
  | _ => exact hv

/-! ## Documents as JSON -/

/-- The value is that of the JSON. -/
def Value.Spells (v : Value) (j : Json) : Prop := v.toJson? = some j

theorem Value.itemsToJson?_eq_some_iff {items : List Value} {js : List Json} :
    Value.itemsToJson? items = some js ↔
      List.Forall₂ Value.Spells items js := by
  induction items generalizing js with
  | nil => simp [Value.itemsToJson?, eq_comm]
  | cons v items ih =>
    rw [Value.itemsToJson?, List.forall₂_cons_left_iff]
    simp only [Option.bind_eq_bind, Option.bind_eq_some_iff, Option.pure_def, Option.some.injEq, ih]
    constructor
    · rintro ⟨j, hj, rest, hrest, rfl⟩
      exact ⟨j, rest, hj, hrest, rfl⟩
    · rintro ⟨j, rest, hj, hrest, rfl⟩
      exact ⟨j, hj, rest, hrest, rfl⟩

theorem Value.entriesToJson?_eq_some_iff {entries : List (String × Value)}
    {members : List (String × Json)} :
    Value.entriesToJson? entries = some members ↔
      List.Forall₂ (fun entry pair => entry.1 = pair.1 ∧ entry.2.Spells pair.2)
        entries members := by
  induction entries generalizing members with
  | nil => simp [Value.entriesToJson?, eq_comm]
  | cons entry entries ih =>
    obtain ⟨key, v⟩ := entry
    rw [Value.entriesToJson?, List.forall₂_cons_left_iff]
    simp only [Option.bind_eq_bind, Option.bind_eq_some_iff, Option.pure_def, Option.some.injEq, ih]
    constructor
    · rintro ⟨j, hj, rest, hrest, rfl⟩
      exact ⟨(key, j), rest, ⟨rfl, hj⟩, hrest, rfl⟩
    · rintro ⟨⟨_, j⟩, rest, ⟨rfl, hj⟩, hrest, rfl⟩
      exact ⟨j, hj, rest, hrest, rfl⟩

/-- A row is JSON where all its items are. -/
theorem Value.isSome_itemsToJson?_iff {items : List Value} :
    (Value.itemsToJson? items).isSome = true ↔ ∀ v ∈ items, v.toJson?.isSome = true := by
  induction items with
  | nil => simp [Value.itemsToJson?]
  | cons v items ih =>
    rw [Value.itemsToJson?, List.forall_mem_cons, ← ih]
    cases v.toJson? with
    | none => simp
    | some j => cases Value.itemsToJson? items <;> simp

/-- A table is JSON where all its values are. -/
theorem Value.isSome_entriesToJson?_iff {entries : List (String × Value)} :
    (Value.entriesToJson? entries).isSome = true ↔
      ∀ entry ∈ entries, entry.2.toJson?.isSome = true := by
  induction entries with
  | nil => simp [Value.entriesToJson?]
  | cons entry entries ih =>
    obtain ⟨key, v⟩ := entry
    rw [Value.entriesToJson?, List.forall_mem_cons, ← ih]
    cases v.toJson? with
    | none => simp
    | some j => cases Value.entriesToJson? entries <;> simp

variable {α β : Type} {r : α → β → Prop}

theorem getElem?_rel {xs : List α} {ys : List β} (h : List.Forall₂ r xs ys) (place : Nat) :
    Option.Rel r xs[place]? ys[place]? := by
  induction h generalizing place with
  | nil => exact .none
  | cons hxy _ ih =>
    cases place with
    | zero => exact .some hxy
    | succ place => exact ih place

theorem get?_rel {xs : Keyed α} {ys : Keyed β}
    (h : List.Forall₂ (fun x y => x.1 = y.1 ∧ r x.2 y.2) xs ys) (key : String) :
    Option.Rel r (Keyed.get? key xs) (Keyed.get? key ys) := by
  induction h with
  | nil => exact .none
  | @cons x y xs ys hxy _ ih =>
    obtain ⟨k, a⟩ := x
    obtain ⟨k', b⟩ := y
    obtain ⟨rfl, hab⟩ := hxy
    rw [Keyed.get?, Keyed.get?]
    by_cases hkey : key = k
    · rw [if_pos hkey, if_pos hkey]
      exact .some hab
    · rw [if_neg hkey, if_neg hkey]
      exact ih

theorem ascending_of_forall₂ {xs : Keyed α} {ys : Keyed β}
    (h : List.Forall₂ (fun x y => x.1 = y.1 ∧ r x.2 y.2) xs ys) (hxs : Keyed.Ascending xs) :
    Keyed.Ascending ys := by
  have hkeys : xs.map (·.1) = ys.map (·.1) := by
    induction h with
    | nil => rfl
    | cons hxy _ ih => rw [List.map_cons, List.map_cons, hxy.1, ih (List.pairwise_cons.mp hxs).2]
  have hpairs : (ys.map (·.1)).Pairwise (· < ·) := hkeys ▸ List.pairwise_map.mpr hxs
  exact List.pairwise_map.mp hpairs

namespace Value

theorem Ordered.toJson {v : Value} (hv : v.Ordered) {j : Json} (h : v.Spells j) : j.Ordered := by
  rintro members rfl
  cases v with
  | table entries =>
    obtain ⟨members', hmembers, heq⟩ := Option.map_eq_some_iff.mp h
    cases heq
    exact ascending_of_forall₂ (entriesToJson?_eq_some_iff.mp hmembers) (hv entries rfl)
  | datetime text =>
    cases h
    exact List.pairwise_singleton _ _
  | array items =>
    obtain ⟨items', -, heq⟩ := Option.map_eq_some_iff.mp h
    contradiction
  | _ => cases h

/-- **What a section gives for a field is spelled in JSON.** A date is no exception, as no field
goes by the key under which JSON keeps its text. -/
theorem part?_toJson {v : Value} {j : Json} (h : v.Spells j) {key : String}
    (hkey : key ≠ "datetime") (place : Nat) :
    Option.Rel Spells (v.part? key place) (j.part? key place) := by
  cases v with
  | table entries =>
    obtain ⟨members, hmembers, rfl⟩ := Option.map_eq_some_iff.mp h
    exact get?_rel (entriesToJson?_eq_some_iff.mp hmembers) key
  | array items =>
    obtain ⟨items', hitems, rfl⟩ := Option.map_eq_some_iff.mp h
    exact getElem?_rel (itemsToJson?_eq_some_iff.mp hitems) place
  | datetime text =>
    cases h
    show Option.Rel Spells none (if key = "datetime" then _ else _)
    rw [if_neg hkey]
    exact .none
  | tooLarge => contradiction
  | _ =>
    cases h
    exact .none

/-- A value that can be read as a section. -/
inductive IsSection : Value → Prop where
  | table (entries : List (String × Value)) : IsSection (.table entries)
  | row (items : List Value) : IsSection (.array items)
  /-- a date, which gives no field a value -/
  | date (text : String) : IsSection (.datetime text)

theorem isSection_cut_iff {v : Value} {width : Nat} {j : Json} (h : (v.cut width).Spells j) :
    j.IsSection width ↔ v.IsSection := by
  cases v with
  | table entries =>
    obtain ⟨members, -, rfl⟩ := Option.map_eq_some_iff.mp h
    exact ⟨fun _ => .table entries, fun _ => .object members⟩
  | array items =>
    obtain ⟨items', hitems, rfl⟩ := Option.map_eq_some_iff.mp h
    have hlength := (itemsToJson?_eq_some_iff.mp hitems).length_eq
    rw [List.length_take] at hlength
    exact ⟨fun _ => .row items, fun _ => .row (by omega)⟩
  | datetime text =>
    cases h
    exact ⟨fun _ => .date text, fun _ => .object _⟩
  | tooLarge => contradiction
  | _ =>
    cases h
    constructor <;> intro hsection <;> cases hsection

/-! ## Documents as their look-ups -/

namespace IsDocument

variable {v : Value}

theorem part?_eq (hv : v.IsDocument) (key : String) (place : Nat) :
    v.part? key place = v.get? key := by
  cases hv
  rfl

theorem ordered (hv : v.IsDocument) : v.Ordered := by
  cases hv with
  | table hkeys hvalues =>
    rintro entries heq
    cases heq
    exact hkeys

theorem get?_ordered (hv : v.IsDocument) {key : String} {w : Value} (h : v.get? key = some w) :
    w.Ordered := by
  cases hv with
  | table hkeys hvalues => exact hvalues key w h

/-- A cut changes the value under its key only. -/
theorem get?_takeRow (hv : v.IsDocument) (key : String) (count : Nat) (k : String) :
    (v.takeRow key count).get? k =
      (v.get? k).map fun w => if k = key then w.cut count else w := by
  cases hv
  rw [takeRow_table]
  exact Keyed.get?_map (fun k (w : Value) => if k = key then w.cut count else w) k _

theorem takeRow (hv : v.IsDocument) (key : String) (count : Nat) :
    (v.takeRow key count).IsDocument := by
  have hget := hv.get?_takeRow key count
  cases hv with
  | table hkeys hvalues =>
    rw [takeRow_table] at hget ⊢
    refine .table (List.pairwise_map.mpr hkeys) fun k w hw => ?_
    obtain ⟨u, hu, rfl⟩ := Option.map_eq_some_iff.mp ((hget k).symm.trans hw)
    have hordered := hvalues k u hu
    by_cases hk : k = key
    · rw [if_pos hk]
      exact hordered.cut count
    · rw [if_neg hk]
      exact hordered

theorem isSome_toJson?_iff (hv : v.IsDocument) :
    v.toJson?.isSome = true ↔ ∀ key w, v.get? key = some w → w.toJson?.isSome = true := by
  cases hv with
  | @table entries hkeys hvalues =>
    rw [toJson?, Option.isSome_map, isSome_entriesToJson?_iff]
    constructor
    · intro h key w hw
      exact h _ (hkeys.get?_eq_some_iff.mp hw)
    · rintro h ⟨key, w⟩ hmem
      exact h key w (hkeys.get?_eq_some_iff.mpr hmem)

theorem isSection_toJson (hv : v.IsDocument) {j : Json} (h : v.Spells j) (width : Nat) :
    j.IsSection width := by
  cases hv
  obtain ⟨members, -, rfl⟩ := Option.map_eq_some_iff.mp h
  exact .object members

end IsDocument

end Value

end Rowgate.Toml
