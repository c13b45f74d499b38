import Mathlib.Data.List.Nodup
import Rowgate.Input.Decode
/-
Entries and the slots that they fill.

A record takes entries one by one. An entry whose key names no field is passed over, unless the
record is strict. An entry whose key names a field gives the field its value, which has to decode,
and no field takes two entries: the second one, under another name of the field, is refused before
its value is looked at. So a step either refuses its entry, for one reason, or leaves the slots
holding what the entries up to it gave (`fillSlots_step`), and a run ends at the first entry that is
refused or fills all slots (`fillSlots_run`).
-/
set_option autoImplicit false

namespace Rowgate.Input

/-! ## Fields and the keys that name them -/

/-- The field that a key names, the first one that goes by it. -/
def fieldOf? (fields : List (Label × Shape)) (key : String) : Option (Label × Shape) :=
  fields.find? fun field => field.1.accepts key

/-- One of the entries names the field. -/
def Taken (fields : List (Label × Shape)) (entries : List (String × Field))
    (field : Label × Shape) : Prop :=
  ∃ entry ∈ entries, fieldOf? fields entry.1 = some field

/-- Why an entry is refused that comes behind the entries `earlier`. -/
inductive Fault (fields : List (Label × Shape)) (strict : Bool) (earlier : List (String × Field))
    (key : String) (value : Field) : DecodeError → Prop where
  /-- the key names no field of a strict record -/
  | unknown (hkey : fieldOf? fields key = none) (hstrict : strict = true) :
    Fault fields strict earlier key value (.unknownField key (fields.flatMap (·.1.names)))
  /-- an earlier key names the same field -/
  | again {field : Label × Shape} (hkey : fieldOf? fields key = some field)
    (htaken : Taken fields earlier field) :
    Fault fields strict earlier key value (.duplicateField field.1.key)
  /-- the value does not decode to what the field holds -/
  | value {field : Label × Shape} {e : DecodeError} (hkey : fieldOf? fields key = some field)
    (htaken : ¬ Taken fields earlier field) (hvalue : field.2.decode (.ofField value) = .error e) :
    Fault fields strict earlier key value e

/-! ## One entry -/

/-- The field that the entry of a request or of an object names, and what it makes of the value. -/
def takeField (fields : List (Label × Shape)) (key : String) (value : Field) :
    Option (String × Decoded) := decodeField fields key (.ofField value)

theorem decodeField_eq (fields : List (Label × Shape)) (key : String) (value : Source) :
    decodeField fields key value = (fieldOf? fields key).map fun field =>
      (field.1.key, field.2.decode value) := by
  induction fields with
  | nil => rfl
  | cons head rest ih =>
    obtain ⟨label, shape⟩ := head
    rw [decodeField, fieldOf?, List.find?_cons]
    by_cases haccepts : label.accepts key = true
    · rw [if_pos haccepts]
      simp [haccepts]
    · rw [if_neg haccepts, ih, fieldOf?]
      simp [haccepts]

theorem decodeField_of_none {fields : List (Label × Shape)} {key : String}
    (hkey : fieldOf? fields key = none) (value : Source) : decodeField fields key value = none := by
  rw [decodeField_eq, hkey]
  rfl

theorem takeField_of_none {fields : List (Label × Shape)} {key : String}
    (hkey : fieldOf? fields key = none) (value : Field) : takeField fields key value = none :=
  decodeField_of_none hkey _

theorem takeField_of_some {fields : List (Label × Shape)} {key : String} {field : Label × Shape}
    (hkey : fieldOf? fields key = some field) (value : Field) :
    takeField fields key value = some (field.1.key, field.2.decode (.ofField value)) := by
  rw [takeField, decodeField_eq, hkey]
  rfl

/-- A value that decodes fills the slot of its field. -/
theorem fillSlots_fill {read : String → Field → Option (String × Decoded)}
    {stray : String → Except DecodeError Unit} {slots : Slots} {key name : String} {value : Field}
    {datum : Datum} (hread : read key value = some (name, .ok datum))
    (hempty : slots.lookup name = none) (rest : List (String × Field)) :
    fillSlots read stray slots ((key, value) :: rest) =
      fillSlots read stray ((name, datum) :: slots) rest := by
  rw [fillSlots, hread]
  simp only [hempty]
  rfl

theorem mem_of_fieldOf? {fields : List (Label × Shape)} {key : String} {field : Label × Shape}
    (h : fieldOf? fields key = some field) : field ∈ fields := List.mem_of_find?_eq_some h

variable {fields : List (Label × Shape)} {strict : Bool}

theorem taken_append {entries : List (String × Field)} {key : String} {value : Field}
    {field : Label × Shape} :
    Taken fields (entries ++ [(key, value)]) field ↔
      Taken fields entries field ∨ fieldOf? fields key = some field := by
  simp [Taken, or_and_right, exists_or]

/-- An entry whose key names no field is refused by strict records only. -/
theorem Fault.of_none {earlier : List (String × Field)} {key : String} {value : Field}
    {e : DecodeError} (h : Fault fields strict earlier key value e)
    (hkey : fieldOf? fields key = none) :
    strict = true ∧ e = .unknownField key (fields.flatMap (·.1.names)) := by
  cases h with
  | unknown _ hstrict => exact ⟨hstrict, rfl⟩
  | again h _ => rw [hkey] at h; contradiction
  | value h _ _ => rw [hkey] at h; contradiction

/-- An entry whose key names a field is refused behind another entry of the field or for its
value. -/
theorem Fault.of_some {earlier : List (String × Field)} {key : String} {value : Field}
    {e : DecodeError} {field : Label × Shape} (h : Fault fields strict earlier key value e)
    (hkey : fieldOf? fields key = some field) :
    (Taken fields earlier field ∧ e = .duplicateField field.1.key) ∨
      (¬ Taken fields earlier field ∧ field.2.decode (.ofField value) = .error e) := by
  cases h with
  | unknown h _ => rw [hkey] at h; contradiction
  | again h htaken =>
    obtain rfl := Option.some.inj (hkey.symm.trans h)
    exact .inl ⟨htaken, rfl⟩
  | value h hnot herror =>
    obtain rfl := Option.some.inj (hkey.symm.trans h)
    exact .inr ⟨hnot, herror⟩

/-- An entry is refused for one reason. -/
theorem Fault.unique {earlier : List (String × Field)} {key : String} {value : Field}
    {e e' : DecodeError} (h : Fault fields strict earlier key value e)
    (h' : Fault fields strict earlier key value e') : e = e' := by
  cases hkey : fieldOf? fields key with
  | none => rw [(h.of_none hkey).2, (h'.of_none hkey).2]
  | some field =>
    rcases h.of_some hkey with ⟨htaken, rfl⟩ | ⟨hnot, herror⟩
    · rcases h'.of_some hkey with ⟨-, rfl⟩ | ⟨hnot, -⟩
      · rfl
      · exact absurd htaken hnot
    · rcases h'.of_some hkey with ⟨htaken, -⟩ | ⟨-, herror'⟩
      · exact absurd htaken hnot
      · exact Except.error.inj (herror.symm.trans herror')

/-- The slots hold for each field what the entry that names it gave, and nothing for the others. -/
def Filled (fields : List (Label × Shape)) (entries : List (String × Field)) (slots : Slots) :
    Prop :=
  ∀ field ∈ fields,
    (slots.lookup field.1.key = none ∧ ¬ Taken fields entries field) ∨
    ∃ key value datum, slots.lookup field.1.key = some datum ∧ (key, value) ∈ entries ∧
      fieldOf? fields key = some field ∧ field.2.decode (.ofField value) = .ok datum

theorem filled_nil (fields : List (Label × Shape)) : Filled fields [] [] :=
  fun _ _ => .inl ⟨rfl, by simp [Taken]⟩

/-- An entry that names no field leaves the slots as they are. -/
theorem Filled.pass {earlier : List (String × Field)} {slots : Slots}
    (hslots : Filled fields earlier slots) {key : String} (value : Field)
    (hkey : fieldOf? fields key = none) : Filled fields (earlier ++ [(key, value)]) slots := by
  intro field hfield
  rcases hslots field hfield with ⟨hempty, hnot⟩ | ⟨key', value', datum, hlookup, hmem, hnames⟩
  · refine .inl ⟨hempty, fun htaken => ?_⟩
    rcases taken_append.mp htaken with htaken | htaken
    · exact hnot htaken
    · rw [hkey] at htaken
      contradiction
  · exact .inr ⟨key', value', datum, hlookup, List.mem_append_left _ hmem, hnames⟩

/-- An entry that names a field without an entry fills the slot of the field. -/
theorem Filled.fill (hkeys : (fields.map (·.1.key)).Nodup) {earlier : List (String × Field)}
    {slots : Slots} (hslots : Filled fields earlier slots) {key : String} {value : Field}
    {field : Label × Shape} {datum : Datum} (hkey : fieldOf? fields key = some field)
    (hdatum : field.2.decode (.ofField value) = .ok datum) :
    Filled fields (earlier ++ [(key, value)]) ((field.1.key, datum) :: slots) := by
  intro other hother
  by_cases hsame : other = field
  · subst hsame
    refine .inr ⟨key, value, datum, List.lookup_cons_self, ?_, hkey, hdatum⟩
    exact List.mem_append_right _ List.mem_cons_self
  -- another field goes by another key, so its slot is the old one
  · have hne : other.1.key ≠ field.1.key := fun heq =>
      hsame (List.inj_on_of_nodup_map hkeys hother (mem_of_fieldOf? hkey) heq)
    have hskip : ((field.1.key, datum) :: slots).lookup other.1.key = slots.lookup other.1.key := by
      rw [List.lookup_cons, beq_eq_false_iff_ne.mpr hne]
    rw [hskip]
    rcases hslots other hother with ⟨hempty, hnot⟩ | ⟨key', value', datum', hlookup, hmem, hnames⟩
    · refine .inl ⟨hempty, fun htaken => ?_⟩
      rcases taken_append.mp htaken with htaken | htaken
      · exact hnot htaken
      · exact hsame (Option.some.inj (htaken.symm.trans hkey))
    · exact .inr ⟨key', value', datum', hlookup, List.mem_append_left _ hmem, hnames⟩

/-- **One entry is refused, or it fills the slot of the field that it names.** -/
theorem fillSlots_step (strict : Bool) (hkeys : (fields.map (·.1.key)).Nodup)
    {earlier : List (String × Field)} {slots : Slots} (hslots : Filled fields earlier slots)
    (key : String) (value : Field) :
    (∃ e, Fault fields strict earlier key value e ∧ ∀ rest,
      fillSlots (takeField fields) (strayField strict fields) slots ((key, value) :: rest) =
        .error e) ∨
    ((∀ e, ¬ Fault fields strict earlier key value e) ∧ ∃ slots',
      Filled fields (earlier ++ [(key, value)]) slots' ∧ ∀ rest,
        fillSlots (takeField fields) (strayField strict fields) slots ((key, value) :: rest) =
          fillSlots (takeField fields) (strayField strict fields) slots' rest) := by
  cases hkey : fieldOf? fields key with
  | none =>
    have hread := takeField_of_none hkey value
    by_cases hstrict : strict = true
    · refine .inl ⟨_, .unknown hkey hstrict, fun rest => ?_⟩
      rw [fillSlots, hread, strayField, if_pos hstrict]
      rfl
    · have hpass := hslots.pass value hkey
      refine .inr ⟨fun e hfault => hstrict (hfault.of_none hkey).1, slots, hpass, fun rest => ?_⟩
      rw [fillSlots, hread, strayField, if_neg hstrict]
      rfl
  | some field =>
    have hread := takeField_of_some hkey value
    rcases hslots field (mem_of_fieldOf? hkey) with
      ⟨hempty, hnot⟩ | ⟨key', value', datum', hlookup, hmem, hnames, -⟩
    · cases hdatum : field.2.decode (.ofField value) with
      | error e =>
        refine .inl ⟨e, .value hkey hnot hdatum, fun rest => ?_⟩
        rw [fillSlots, hread]
        simp only [hempty, hdatum]
        rfl
      | ok datum =>
        have hfill := hslots.fill hkeys hkey hdatum
        refine .inr ⟨fun e hfault => ?_, _, hfill, fillSlots_fill (hdatum ▸ hread) hempty⟩
        rcases hfault.of_some hkey with ⟨htaken, -⟩ | ⟨-, herror⟩
        · exact hnot htaken
        · rw [hdatum] at herror
          contradiction
    -- the field has its entry already, so the value of this one is not looked at
    · have htaken : Taken fields earlier field := ⟨_, hmem, hnames⟩
      refine .inl ⟨_, .again hkey htaken, fun rest => ?_⟩
      rw [fillSlots, hread]
      simp only [hlookup]
      rfl

/-! ## All entries -/

/-- None of the entries is refused, each behind the entries `earlier` and those in front of it. -/
def Passed (fields : List (Label × Shape)) (strict : Bool)
    (earlier entries : List (String × Field)) : Prop :=
  ∀ front key value rest, entries = front ++ (key, value) :: rest →
    ∀ e, ¬ Fault fields strict (earlier ++ front) key value e

theorem passed_nil (earlier : List (String × Field)) : Passed fields strict earlier [] :=
  fun front key value rest h => absurd h (by simp)

theorem passed_cons {earlier entries : List (String × Field)} {key : String} {value : Field}
    (hfirst : ∀ e, ¬ Fault fields strict earlier key value e)
    (hrest : Passed fields strict (earlier ++ [(key, value)]) entries) :
    Passed fields strict earlier ((key, value) :: entries) := by
  intro front key' value' rest h
  cases front with
  | nil =>
    obtain ⟨heq, -⟩ := List.cons.inj h
    obtain ⟨rfl, rfl⟩ := Prod.mk.inj heq
    rw [List.append_nil]
    exact hfirst
  | cons head front =>
    obtain ⟨rfl, hrest'⟩ := List.cons.inj h
    have hpassed := hrest front key' value' rest hrest'
    rwa [List.append_assoc] at hpassed

/-- **The first entry that is refused decides**, and where none is, all slots are filled. -/
theorem fillSlots_run (hkeys : (fields.map (·.1.key)).Nodup) (entries : List (String × Field)) :
    ∀ {earlier : List (String × Field)} {slots : Slots}, Filled fields earlier slots →
      (∃ front key value rest e, entries = front ++ (key, value) :: rest ∧
        Passed fields strict earlier front ∧
        Fault fields strict (earlier ++ front) key value e ∧
        fillSlots (takeField fields) (strayField strict fields) slots entries = .error e) ∨
      (Passed fields strict earlier entries ∧ ∃ slots', Filled fields (earlier ++ entries) slots' ∧
        fillSlots (takeField fields) (strayField strict fields) slots entries = .ok slots') := by
  -- the slots hold what the entries in front gave, which every step keeps
  induction entries with
  | nil =>
    intro earlier slots hslots
    exact .inr ⟨passed_nil earlier, slots, by rwa [List.append_nil], rfl⟩
  | cons entry entries ih =>
    intro earlier slots hslots
    obtain ⟨key, value⟩ := entry
    rcases fillSlots_step strict hkeys hslots key value with
      ⟨e, hfault, hrun⟩ | ⟨hpass, slots', hslots', hrun⟩
    · refine .inl ⟨[], key, value, entries, e, rfl, passed_nil earlier, ?_, hrun entries⟩
      rwa [List.append_nil]
    · have hassoc (l : List (String × Field)) :
          earlier ++ [(key, value)] ++ l = earlier ++ (key, value) :: l := List.append_assoc ..
      rw [hrun entries]
      rcases ih hslots' with ⟨front, key', value', rest, e, hsplit, hfront, hfault, herror⟩ |
        ⟨hrest, slots'', hslots'', hok⟩
      · refine .inl ⟨(key, value) :: front, key', value', rest, e, ?_, passed_cons hpass hfront,
          hassoc front ▸ hfault, herror⟩
        rw [hsplit]
        rfl
      · exact .inr ⟨passed_cons hpass hrest, slots'', hassoc entries ▸ hslots'', hok⟩

/-- A value that does not decode to the field that its key names is refused, if no entry before it
is. -/
theorem exists_error_of_mem (stray : String → Except DecodeError Unit) {key : String}
    {value : Field} {field : Label × Shape} {e : DecodeError}
    (hkey : fieldOf? fields key = some field) (hvalue : field.2.decode (.ofField value) = .error e)
    {entries : List (String × Field)} (hmem : (key, value) ∈ entries) (slots : Slots) :
    ∃ e', fillSlots (takeField fields) stray slots entries = .error e' := by
  induction entries generalizing slots with
  | nil => exact absurd hmem List.not_mem_nil
  | cons entry entries ih =>
    obtain ⟨key', value'⟩ := entry
    have hmem := List.mem_cons.mp hmem
    rw [fillSlots]
    cases hkey' : fieldOf? fields key' with
    | none =>
      rw [takeField_of_none hkey']
      rcases hmem with heq | hmem
      · rw [← (Prod.mk.inj heq).1, hkey] at hkey'
        contradiction
      · cases stray key' with
        | error e => exact ⟨e, rfl⟩
        | ok _ => exact ih hmem slots
    | some field' =>
      rw [takeField_of_some hkey']
      by_cases htaken : (slots.lookup field'.1.key).isSome = true
      · exact ⟨_, if_pos htaken⟩
      · simp only [if_neg htaken]
        cases hvalue' : field'.2.decode (.ofField value') with
        | error e => exact ⟨e, rfl⟩
        | ok datum =>
          rcases hmem with heq | hmem
          · obtain ⟨rfl, rfl⟩ := Prod.mk.inj heq
            rw [Option.some.inj (hkey.symm.trans hkey'), hvalue'] at hvalue
            contradiction
          · exact ih hmem _

/-! ## Entries that can be left out -/

/-- Without strictness the entries that name no field can be left out, whatever is read of the
others. -/
theorem fillSlots_filter {read : String → Field → Option (String × Decoded)}
    (hread : ∀ key value, fieldOf? fields key = none → read key value = none) (slots : Slots)
    (entries : List (String × Field)) :
    fillSlots read (fun _ => .ok ()) slots entries =
      fillSlots read (fun _ => .ok ()) slots
        (entries.filter fun entry => (fieldOf? fields entry.1).isSome) := by
  induction entries generalizing slots with
  | nil => rfl
  | cons entry entries ih =>
    obtain ⟨key, value⟩ := entry
    by_cases hkey : fieldOf? fields key = none
    · rw [List.filter_cons_of_neg (by simp [hkey]), fillSlots, hread key value hkey]
      exact ih slots
    · rw [List.filter_cons_of_pos (by simpa [Option.isSome_iff_ne_none] using hkey), fillSlots,
        fillSlots]
      cases read key value with
      | none => exact ih slots
      | some taken =>
        obtain ⟨name, result⟩ := taken
        by_cases htaken : (slots.lookup name).isSome = true
        · simp only [if_pos htaken]
        · simp only [if_neg htaken]
          cases result with
          | error e => rfl
          | ok datum => exact ih _

end Rowgate.Input
