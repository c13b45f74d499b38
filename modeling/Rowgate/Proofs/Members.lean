import Rowgate.Input.Fields
import Rowgate.Proofs.Bytes
import Rowgate.Proofs.Tables
/-
The members of an object as they are written.

Reading an object makes a table of its members, so the order in which they are written and all but
the last value of a repeated key are lost. The members in the order of the text are read here, with
the scanner of the reader, and the object that is read is the table of them
(`Json.parseBytes?_object_iff`). A body that spells an object holds a brace and hence is not blank.
-/
set_option autoImplicit false

namespace Rowgate.Json

/-- The members behind the opening brace of an object, as they are written, and what follows the
object. -/
def scanWritten? (budget depth : Nat) (cs : List Char) :
    Option (List (String × Json) × List Char) :=
  match skipBlank cs with
  | '\x7d' :: rest => some ([], rest)
  | rest => scanMembers? budget depth [] rest

/-- The members of the object that a text spells, as they are written. -/
def writtenIn? (text : String) : Option (List (String × Json)) :=
  match skipBlank text.toList with
  | '\x7b' :: cs =>
    ((scanWritten? (2 * text.toList.length + 1) (maxDepth - 1) cs).filter
      fun read => (skipBlank read.2).isEmpty).map (·.1)
  | _ => none

/-- The members of the object that bytes spell, as they are written. -/
def writtenMembers? (bytes : List UInt8) : Option (List (String × Json)) :=
  (String.fromUTF8? bytes.toByteArray).bind writtenIn?

/-! ## A numeral is no object -/

theorem float?_ne_object (n : Numeral) (members : List (String × Json)) :
    n.float? ≠ some (.object members) := by
  unfold Numeral.float?
  intro h
  obtain ⟨x, -, hx⟩ := Option.map_eq_some_iff.mp h
  simp at hx

theorem value?_ne_object (n : Numeral) (members : List (String × Json)) :
    n.value? ≠ some (.object members) := by
  have hfloat := float?_ne_object n members
  unfold Numeral.value?
  dsimp only
  repeat' split
  all_goals first | exact hfloat | simp

/-! ## The object that is read -/

/-- Behind a brace the members are read and made into a table. -/
theorem scanValue?_brace {budget depth : Nat} {cs cs' : List Char}
    (h : skipBlank cs = '\x7b' :: cs') :
    scanValue? (budget + 1) (depth + 1) cs =
      (scanWritten? budget depth cs').map fun read => (.object (Keyed.ofPairs read.1), read.2) := by
  unfold scanValue? scanWritten?
  simp only [h]
  split
  · contradiction
  · rename_i hend
    rw [hend]
    rfl
  · rename_i hdepth hend
    obtain rfl := Nat.succ.inj hdepth
    split
    · rename_i rest hbrace
      exact (hend rest hbrace).elim
    · rfl

/-- Without a brace in front no object is read. -/
theorem scanValue?_ne_object {budget depth : Nat} {cs rest : List Char}
    {members : List (String × Json)} (h : ∀ cs', skipBlank cs ≠ '\x7b' :: cs') :
    scanValue? budget depth cs ≠ some (.object members, rest) := by
  cases budget with
  | zero => simp [scanValue?]
  | succ budget =>
    unfold scanValue?
    split
    case h_6 cs' hcs => exact absurd hcs (h cs')
    case h_7 =>
      split
      · simp
      · rename_i n _ _
        intro hvalue
        obtain ⟨v, hv, heq⟩ := Option.map_eq_some_iff.mp hvalue
        obtain ⟨rfl, rfl⟩ := Prod.mk.inj heq
        exact value?_ne_object n members hv
    case h_5 => split <;> simp
    all_goals simp

/-- A text spells an object exactly if its members can be read as they are written. -/
theorem parse?_object_iff {text : String} {members : List (String × Json)} :
    parse? text = some (.object members) ↔
      ∃ pairs, writtenIn? text = some pairs ∧ members = Keyed.ofPairs pairs := by
  unfold parse? writtenIn?
  dsimp only
  by_cases hbrace : ∃ cs', skipBlank text.toList = '\x7b' :: cs'
  · obtain ⟨cs', hcs⟩ := hbrace
    have hread : scanValue? (2 * text.toList.length + 2) maxDepth text.toList =
        (scanWritten? (2 * text.toList.length + 1) (maxDepth - 1) cs').map
          fun read => (.object (Keyed.ofPairs read.1), read.2) := scanValue?_brace hcs
    rw [hread]
    simp only [hcs]
    cases scanWritten? (2 * text.toList.length + 1) (maxDepth - 1) cs' with
    | none => simp
    | some read =>
      by_cases hrest : (skipBlank read.2).isEmpty = true
      · simp [Option.filter, hrest, eq_comm]
      · simp [Option.filter, hrest]
  -- without a brace in front neither reading succeeds
  · have hno (cs' : List Char) : skipBlank text.toList ≠ '\x7b' :: cs' :=
      fun h => hbrace ⟨cs', h⟩
    constructor
    · intro h
      split at h
      · rename_i hscan
        split at h
        · obtain rfl := Option.some.inj h
          exact absurd hscan (scanValue?_ne_object hno)
        · contradiction
      · contradiction
    · rintro ⟨pairs, h, -⟩
      split at h
      · rename_i cs' hcs
        exact absurd hcs (hno cs')
      · contradiction

/-- **The object that bytes spell is the table of the members as they are written.** -/
theorem parseBytes?_object_iff {bytes : List UInt8} {members : List (String × Json)} :
    parseBytes? bytes = some (.object members) ↔
      ∃ pairs, writtenMembers? bytes = some pairs ∧ members = Keyed.ofPairs pairs := by
  unfold parseBytes? writtenMembers?
  cases String.fromUTF8? bytes.toByteArray with
  | none => simp
  | some text => exact parse?_object_iff

theorem ascending_of_parseBytes? {bytes : List UInt8} {members : List (String × Json)}
    (h : parseBytes? bytes = some (.object members)) : Keyed.Ascending members := by
  obtain ⟨pairs, -, rfl⟩ := parseBytes?_object_iff.mp h
  exact Keyed.ascending_ofPairs pairs

theorem mem_of_writtenIn? {text : String} {pairs : List (String × Json)}
    (h : writtenIn? text = some pairs) : '\x7b' ∈ text.toList := by
  unfold writtenIn? at h
  split at h
  · rename_i cs hcs
    have hmem : '\x7b' ∈ skipBlank text.toList := hcs ▸ List.mem_cons_self
    exact (List.dropWhile_suffix isBlank).subset hmem
  · contradiction

end Rowgate.Json

namespace Rowgate.Input

/-- A body that spells an object is not blank, since it holds a brace. -/
theorem not_blank_of_object {body : List UInt8} {members : List (String × Json)}
    (h : Json.parseBytes? body = some (.object members)) : body.all isBlankByte = false := by
  obtain ⟨pairs, hpairs, -⟩ := Json.parseBytes?_object_iff.mp h
  obtain ⟨text, htext, hwritten⟩ := Option.bind_eq_some_iff.mp hpairs
  have hbyte : UInt8.ofNat '\x7b'.toNat ∈ Utf8.encode text :=
    (Utf8.mem_encode_iff (by decide) text).mpr (Json.mem_of_writtenIn? hwritten)
  rw [Utf8.encode_of_decode? htext] at hbyte
  refine List.all_eq_false.mpr ⟨_, hbyte, by decide⟩

/-- The members of a body that spells an object. -/
theorem bodyMembers_of_object {body : List UInt8} {members : List (String × Json)}
    (h : Json.parseBytes? body = some (.object members)) : bodyMembers body = .ok members := by
  rw [bodyMembers, not_blank_of_object h, h]
  rfl

end Rowgate.Input
