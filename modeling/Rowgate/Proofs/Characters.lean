import Mathlib.Data.String.Basic
import Rowgate.Proofs.GivenNames
import Rowgate.Proofs.Placeholder
/-
The characters of a statement.

Whatever names, types, values and pages a draft is given, its text is written in few characters: no
apostrophe that could open a literal, no semicolon that could end the statement, no slash and no two
minus signs that could open a comment. Its double quotes come in pairs, and between the two of a pair
stands one of the names that were given (`Draft.text_quotes_given_names`). An expression is written
into a text as it is, so the statement is about drafts without expressions.

Two minus signs never meet because each stands in front of a digit (`Signed`). That, unlike the
absence of two of them, holds of a text that is put together from texts of which it holds.
-/
set_option autoImplicit false

namespace Rowgate

namespace Sql

/-! ## Characters and names -/

/-- A character that statements are written in: printable ASCII, but for apostrophe, semicolon and
the two slashes. -/
def IsPlain (c : Char) : Prop := ' ' ≤ c ∧ c ≤ '~' ∧ c ∉ ['\'', ';', '\\', '/']

instance : DecidablePred IsPlain := fun c =>
  inferInstanceAs (Decidable (' ' ≤ c ∧ c ≤ '~' ∧ c ∉ ['\'', ';', '\\', '/']))

/-- Every minus sign stands in front of a digit. -/
def Signed : List Char → Prop
  | [] => True
  | c :: cs => (c = '-' → ∃ d ∈ cs.head?, d.isDigit = true) ∧ Signed cs

/-- What may stand between double quotes: one to sixty-three letters, digits and underscores, the
first of which is no digit. -/
structure IsName (name : String) : Prop where
  nonempty : 1 ≤ name.length
  short : name.length ≤ 63
  start : ∃ c ∈ name.toList.head?, isNameStart c = true
  letters : ∀ c ∈ name.toList, isNameChar c = true

/-- The characters of names, by their ranges. -/
theorem isNameChar_iff {c : Char} : isNameChar c = true ↔
    ('A' ≤ c ∧ c ≤ 'Z') ∨ ('a' ≤ c ∧ c ≤ 'z') ∨ ('0' ≤ c ∧ c ≤ '9') ∨ c = '_' := by
  have hranges : isNameChar c =
      (decide ('A' ≤ c ∧ c ≤ 'Z') || (decide ('a' ≤ c) && decide (c ≤ 'z')) ||
        (decide ('0' ≤ c) && decide (c ≤ '9')) || c == '_') := rfl
  simp only [hranges, Bool.or_eq_true, Bool.and_eq_true, decide_eq_true_eq, beq_iff_eq, or_assoc]

/-- A character is plain if it is a letter, a digit or an underscore. -/
theorem isPlain_of_isNameChar {c : Char} (h : isNameChar c = true) : IsPlain c := by
  have hends : ' ' ≤ c ∧ c ≤ '~' := by
    rcases isNameChar_iff.mp h with ⟨hlow, hhigh⟩ | ⟨hlow, hhigh⟩ | ⟨hlow, hhigh⟩ | rfl
    · exact ⟨.trans (by decide) hlow, hhigh.trans (by decide)⟩
    · exact ⟨.trans (by decide) hlow, hhigh.trans (by decide)⟩
    · exact ⟨.trans (by decide) hlow, hhigh.trans (by decide)⟩
    · decide
  refine ⟨hends.1, hends.2, fun hmem => ?_⟩
  -- none of the four is a letter, a digit or an underscore
  revert h
  simp only [List.mem_cons, List.not_mem_nil, or_false] at hmem
  rcases hmem with rfl | rfl | rfl | rfl <;> decide

theorem isPlain_of_isDigit {c : Char} (h : c.isDigit = true) : IsPlain c :=
  isPlain_of_isNameChar (by simp [isNameChar, Char.isAlphanum, h])

theorem isPlain_of_isTypeChar {c : Char} (h : isTypeChar c = true) : IsPlain c := by
  simp only [isTypeChar, Bool.or_eq_true, beq_iff_eq] at h
  rcases h with ((h | rfl) | rfl) | rfl
  · exact isPlain_of_isNameChar h
  all_goals decide

/-- **Accepted names are names.** -/
theorem Identifier.isName (i : Identifier) : IsName i.name := by
  obtain ⟨c, cs, hname, hstart, hall, hsize⟩ :=
    (Identifier.rejection?_eq_none_iff i.name).mp i.accepted
  -- a character takes at least one byte
  have hbytes : ∀ cs : List Char, cs.length ≤ String.utf8Len cs := by
    intro cs
    induction cs with
    | nil => exact Nat.le_refl _
    | cons c cs ih =>
      have := c.utf8Size_pos
      rw [List.length_cons, String.utf8Len_cons]
      omega
  have hlength : i.name.length ≤ i.name.utf8ByteSize := by
    rw [← String.length_toList, ← String.ofList_toList (s := i.name), String.utf8ByteSize_ofList,
      String.toList_ofList]
    exact hbytes _
  refine ⟨?_, Nat.le_trans hlength hsize, ⟨c, by rw [hname]; rfl, hstart⟩, ?_⟩
  · rw [← String.length_toList, hname, List.length_cons]
    omega
  · rw [hname]
    exact List.all_eq_true.mp hall

/-! ## Minus signs -/

theorem signed_of_notMem {cs : List Char} (h : '-' ∉ cs) : Signed cs := by
  induction cs with
  | nil => trivial
  | cons c cs ih =>
    refine ⟨fun hc => ?_, ih fun hmem => h (List.mem_cons_of_mem _ hmem)⟩
    exact absurd (hc ▸ List.mem_cons_self) h

theorem Signed.append {a b : List Char} (ha : Signed a) (hb : Signed b) : Signed (a ++ b) := by
  induction a with
  | nil => exact hb
  | cons c cs ih =>
    refine ⟨fun hc => ?_, ih ha.2⟩
    -- the digit behind the sign is there already
    obtain ⟨d, hd, hdigit⟩ := ha.1 hc
    refine ⟨d, ?_, hdigit⟩
    cases cs with
    | nil => cases hd
    | cons e cs => exact hd

/-- Minus signs that stand in front of digits do not meet. -/
theorem Signed.not_infix {cs : List Char} (h : Signed cs) : ¬['-', '-'] <:+: cs := by
  induction cs with
  | nil => simp
  | cons c cs ih =>
    intro hinfix
    rcases List.infix_cons_iff.mp hinfix with ⟨rest, hstart⟩ | hlater
    · obtain ⟨rfl, hcs⟩ := List.cons.inj hstart
      obtain ⟨d, hd, hdigit⟩ := h.1 rfl
      rw [← hcs] at hd
      cases hd
      cases hdigit
    · exact ih h.2 hlater

theorem signed_toString (n : Int) : Signed (toString n).toList := by
  have hdigits : ∀ m : Nat, Signed (toString m).toList := by
    intro m
    refine signed_of_notMem fun hmem => ?_
    cases isDigit_of_mem_toString hmem
  cases n with
  | ofNat m => exact hdigits m
  | negSucc m =>
    rw [show toString (Int.negSucc m) = "-" ++ toString (m + 1) from rfl, String.toList_append]
    refine ⟨fun _ => ?_, hdigits (m + 1)⟩
    -- a number has a first digit
    cases hcs : (toString (m + 1)).toList with
    | nil =>
      rw [show toString (m + 1) = (m + 1).repr from rfl, Nat.toList_repr] at hcs
      exact absurd hcs Nat.toDigits_ne_nil
    | cons d cs =>
      exact ⟨d, rfl, isDigit_of_mem_toString (n := m + 1) (hcs ▸ List.mem_cons_self)⟩

/-! ## Text outside of quotes -/

/-- Text as it may stand outside of quotes. -/
structure Bare (cs : List Char) : Prop where
  plain : ∀ c ∈ cs, IsPlain c
  unquoted : '"' ∉ cs
  signed : Signed cs

theorem Bare.append {a b : List Char} (ha : Bare a) (hb : Bare b) : Bare (a ++ b) :=
  ⟨fun c h => (List.mem_append.mp h).elim (ha.plain c) (hb.plain c),
    fun h => (List.mem_append.mp h).elim ha.unquoted hb.unquoted, ha.signed.append hb.signed⟩

/-- A plain character other than the quote and the minus sign. -/
def isBareChar (c : Char) : Bool := decide (IsPlain c) && c != '"' && c != '-'

/-- Words without a quote and a minus sign, which can be checked by looking. -/
theorem bare_of_all {cs : List Char} (h : cs.all isBareChar = true) : Bare cs := by
  have hchars : ∀ c ∈ cs, IsPlain c ∧ c ≠ '"' ∧ c ≠ '-' := by
    simpa [isBareChar, and_assoc] using h
  exact ⟨fun c hmem => (hchars c hmem).1, fun hmem => (hchars _ hmem).2.1 rfl,
    signed_of_notMem fun hmem => (hchars _ hmem).2.2 rfl⟩

theorem bare_toString (n : Int) : Bare (toString n).toList := by
  refine ⟨fun c hmem => ?_, fun hmem => ?_, signed_toString n⟩
  · rcases isDigit_of_mem_toString_int hmem with hdigit | rfl
    · exact isPlain_of_isDigit hdigit
    · decide
  · rcases isDigit_of_mem_toString_int hmem with hdigit | hminus
    · cases hdigit
    · cases hminus

theorem Page.bare_text (page : Page) : Bare page.text.toList := by
  have hclause : ∀ (word : String) (n : Int), word.toList.all isBareChar = true →
      Bare (word ++ toString n).toList := by
    intro word n hword
    rw [String.toList_append]
    exact (bare_of_all hword).append (bare_toString n)
  have hlimit := fun n => hclause "LIMIT " n (by decide)
  have hoffset := fun n => hclause "OFFSET " n (by decide)
  have hspace : Bare " ".toList := bare_of_all (by decide)
  obtain ⟨limit, offset⟩ := page
  cases limit with
  | none =>
    cases offset with
    | none => exact bare_of_all (by decide)
    | some m => simpa [text] using hoffset m
  | some n =>
    cases offset with
    | none => simpa [text] using hlimit n
    | some m =>
      rw [text, Option.map_some, Option.map_some, Option.toList_some, Option.toList_some,
        List.singleton_append, String.intercalate_cons_cons, String.intercalate_singleton,
        String.toList_append, String.toList_append]
      exact ((hlimit n).append hspace).append (hoffset m)

theorem Slot.bare_text (s : Slot) (number : Nat) : Bare (s.text number).toList := by
  refine ⟨fun c hmem => ?_, s.quote_notMem_text number, ?_⟩
  · -- a digit, a colon or a letter of a type, behind the dollar sign
    rw [s.toList_text, List.mem_cons, List.mem_append] at hmem
    rcases hmem with rfl | hmem | hmem
    · decide
    · exact isPlain_of_isDigit (isDigit_of_mem_toString hmem)
    · cases hcast : s.cast with
      | none => rw [hcast] at hmem; cases hmem
      | some type =>
        rw [hcast] at hmem
        simp only [Option.map_some, castChars, List.mem_cons] at hmem
        rcases hmem with rfl | rfl | hmem
        · decide
        · decide
        · exact isPlain_of_isTypeChar (type.isTypeChar_of_mem hmem)
  · have htail := s.tail_notMem (by decide : '-'.isDigit = false) (by decide) (by decide) number
    refine signed_of_notMem fun hmem => ?_
    rw [s.toList_text, List.mem_cons] at hmem
    rcases hmem with hmem | hmem
    · cases hmem
    · exact htail hmem

/-! ## Pieces -/

namespace Piece

/-- The names among pieces. -/
def names : List Piece → List Identifier
  | [] => []
  | .name identifier :: rest => identifier :: names rest
  | .fixed _ :: rest => names rest
  | .slot _ _ :: rest => names rest
  | .expression _ :: rest => names rest

/-- A piece that is no expression: its fixed text is bare, and its name is one of those given. -/
def Within (given : List String) : Piece → Prop
  | .fixed text => Bare text.toList
  | .name identifier => identifier.name ∈ given
  | .slot _ _ => True
  | .expression _ => False

/-- Pieces without expressions, whose names are among those given. -/
def AllWithin (given : List String) (ps : List Piece) : Prop := ∀ p ∈ ps, p.Within given

section AllWithin

variable {given : List String}

theorem allWithin_nil : AllWithin given [] := fun _ h => by cases h

theorem AllWithin.cons {p : Piece} {ps : List Piece} (hp : p.Within given)
    (hps : AllWithin given ps) : AllWithin given (p :: ps) :=
  List.forall_mem_cons.mpr ⟨hp, hps⟩

theorem AllWithin.append {a b : List Piece} (ha : AllWithin given a) (hb : AllWithin given b) :
    AllWithin given (a ++ b) :=
  List.forall_mem_append.mpr ⟨ha, hb⟩

/-- A text that is written out in front of pieces. -/
theorem AllWithin.fixed_cons {text : String} {ps : List Piece}
    (htext : text.toList.all isBareChar = true) (hps : AllWithin given ps) :
    AllWithin given (.fixed text :: ps) :=
  .cons (bare_of_all htext) hps

theorem AllWithin.joined {separator : String} {parts : List (List Piece)}
    (hseparator : separator.toList.all isBareChar = true)
    (h : ∀ part ∈ parts, AllWithin given part) : AllWithin given (joined separator parts) := by
  induction parts with
  | nil => exact allWithin_nil
  | cons p rest ih =>
    have hp := h p List.mem_cons_self
    have hrest := ih fun part hmem => h part (List.mem_cons_of_mem _ hmem)
    cases rest with
    | nil =>
      rw [Piece.joined, List.intercalate_singleton]
      exact hp
    | cons q rest =>
      rw [joined_cons_cons]
      exact hp.append (.fixed_cons hseparator hrest)

theorem AllWithin.spaced {part : List Piece} (h : AllWithin given part) :
    AllWithin given (spaced part) := by
  cases part with
  | nil => exact h
  | cons p rest => exact .fixed_cons (by decide) h

theorem allWithin_placeholders (operands : List (Identifier × Slot)) :
    AllWithin given (placeholders operands) := by
  refine AllWithin.joined (by decide) fun part hmem => ?_
  obtain ⟨o, _, rfl⟩ := List.mem_map.mp hmem
  exact .cons trivial allWithin_nil

end AllWithin

/-! ## The text of pieces -/

variable {given : List String} {ps : List Piece}

/-- **Pieces write plain text**, in which minus signs do not meet. -/
theorem AllWithin.charsOf_plain (h : AllWithin given ps) (first : Nat) :
    (∀ c ∈ charsOf first ps, IsPlain c) ∧ Signed (charsOf first ps) := by
  have happend : ∀ {a b : List Char}, (∀ c ∈ a, IsPlain c) ∧ Signed a →
      (∀ c ∈ b, IsPlain c) ∧ Signed b → (∀ c ∈ a ++ b, IsPlain c) ∧ Signed (a ++ b) :=
    fun ha hb => ⟨List.forall_mem_append.mpr ⟨ha.1, hb.1⟩, ha.2.append hb.2⟩
  induction ps generalizing first with
  | nil => exact ⟨fun _ hmem => absurd hmem List.not_mem_nil, trivial⟩
  | cons p rest ih =>
    obtain ⟨hp, hrest⟩ := List.forall_mem_cons.mp h
    cases p with
    | fixed text => exact happend ⟨hp.plain, hp.signed⟩ (ih hrest first)
    | slot column s =>
      have hslot := s.bare_text first
      exact happend ⟨hslot.plain, hslot.signed⟩ (ih hrest (first + 1))
    | expression sql => exact hp.elim
    | name identifier =>
      refine happend ⟨fun c hmem => ?_, signed_of_notMem ?_⟩ (ih hrest first)
      · rw [identifier.toList_quoted] at hmem
        simp only [List.mem_cons, List.mem_append, List.not_mem_nil, or_false] at hmem
        rcases hmem with rfl | hmem | rfl
        · decide
        · exact isPlain_of_isNameChar (identifier.isNameChar_of_mem hmem)
        · decide
      · rw [identifier.toList_quoted]
        simp [identifier.notMem_name (c := '-') (by decide)]

/-- **The names of pieces stand between quotes**, and nothing else does. -/
theorem AllWithin.quotedFrom_charsOf (h : AllWithin given ps) (first : Nat) :
    quotedFrom none (charsOf first ps) = (names ps).map (·.name) ∧
      (charsOf first ps).count '"' = 2 * (names ps).length := by
  have hbare : ∀ {a b : List Char} {is : List Identifier}, '"' ∉ a →
      quotedFrom none b = is.map (·.name) ∧ b.count '"' = 2 * is.length →
      quotedFrom none (a ++ b) = is.map (·.name) ∧ (a ++ b).count '"' = 2 * is.length := by
    intro a b is ha hb
    rw [quotedFrom_append ha, List.count_append, List.count_eq_zero_of_not_mem ha, Nat.zero_add]
    exact hb
  induction ps generalizing first with
  | nil => exact ⟨rfl, rfl⟩
  | cons p rest ih =>
    obtain ⟨hp, hrest⟩ := List.forall_mem_cons.mp h
    cases p with
    | fixed text => exact hbare hp.unquoted (ih hrest first)
    | slot column s => exact hbare (s.quote_notMem_text first) (ih hrest (first + 1))
    | expression sql => exact hp.elim
    | name identifier =>
      obtain ⟨hnames, hcount⟩ := ih hrest first
      -- its two quotes are all that a quoted name has
      have htwo : identifier.quoted.toList.count '"' = 2 := by
        have hname := List.count_eq_zero_of_not_mem (identifier.notMem_name (c := '"') (by decide))
        rw [identifier.toList_quoted, List.count_cons_self, List.count_append, hname]
        rfl
      refine ⟨?_, ?_⟩
      · rw [charsOf, identifier.quotedFrom_quoted, hnames, names, List.map_cons]
      · rw [charsOf, List.count_append, htwo, hcount, names, List.length_cons]
        omega

theorem AllWithin.mem_given (h : AllWithin given ps) {i : Identifier} (hi : i ∈ names ps) :
    i.name ∈ given := by
  induction ps with
  | nil => cases hi
  | cons p rest ih =>
    obtain ⟨hp, hrest⟩ := List.forall_mem_cons.mp h
    cases p with
    | name identifier =>
      rcases List.mem_cons.mp hi with rfl | hi
      · exact hp
      · exact ih hrest hi
    | fixed text => exact ih hrest hi
    | slot column s => exact ih hrest hi
    | expression sql => exact ih hrest hi

end Piece

end Sql

end Rowgate
