import Rowgate.Json.Printer
import Rowgate.Proofs.Decimals
import Rowgate.Proofs.Members
/-
Literals, and objects of one member that is a literal.

A literal is one of the two truth values or an integer in decimals without superfluous digits. The
reader takes it for one value, whatever follows it (`Json.scanValue?_literal`): a truth value, an
integer where 64 bits hold it with or without a sign, and otherwise a floating point number, or
nothing where it is past the largest of these. An object whose only member is a literal is read as
that value under the key, whatever blanks stand between its parts, and is no JSON where the literal
is none (`Json.parse?_oneMember`).
-/
set_option autoImplicit false

namespace Rowgate.Json

open Text.IntegerRange (Digits)

/-! ## Literals -/

/-- Decimal digits, the first of which is a zero only if it is alone. -/
def Canonical (ds : List Char) : Prop := Digits ds ∧ ∀ cs, ds = '0' :: cs → cs = []

/-- Digits, perhaps behind a minus sign. -/
def signed (negative : Bool) (ds : List Char) : List Char := if negative then '-' :: ds else ds

/-- The number that digits spell behind a sign. -/
def signedValue (negative : Bool) (ds : List Char) : Int :=
  if negative then -(Nat.ofDigitChars 10 ds 0) else Nat.ofDigitChars 10 ds 0

/-- The texts `true` and `false` and the decimal integers of any length, without a leading zero and
without a minus sign in front of zero. -/
inductive IsLiteral : String → Prop where
  | true : IsLiteral "true"
  | false : IsLiteral "false"
  | integer {text : String} {negative : Bool} {ds : List Char}
    (htext : text.toList = signed negative ds) (hds : Canonical ds)
    (hzero : negative = true → ds ≠ ['0']) : IsLiteral text

/-- What a literal is read as in JSON: an integer past 64 bits may be read as nothing. -/
inductive Reading : String → Option Json → Prop where
  | true : Reading "true" (some (.bool true))
  | false : Reading "false" (some (.bool false))
  | integer {text : String} {negative : Bool} {ds : List Char}
    (htext : text.toList = signed negative ds) (hds : Canonical ds)
    (hzero : negative = true → ds ≠ ['0']) :
    Reading text (Numeral.value? ⟨negative, ds, none, none⟩)

theorem IsLiteral.exists_reading {text : String} (h : IsLiteral text) :
    ∃ value, Reading text value := by
  cases h with
  | true => exact ⟨_, .true⟩
  | false => exact ⟨_, .false⟩
  | integer htext hds hzero => exact ⟨_, .integer htext hds hzero⟩

/-! ## The value of digits -/

/-- A bound on the value of digits can be kept at every digit. -/
theorem digitsBelow_eq (bound : Nat) (ds : List Char) :
    digitsBelow bound ds = min bound (Nat.ofDigitChars 10 ds 0) := by
  have hstep (n d : Nat) : min bound (10 * min bound n + d) = min bound (10 * n + d) := by omega
  have hfold (n : Nat) :
      ds.foldl (fun n c => min bound (10 * n + digitValue c)) (min bound n) =
        min bound (Nat.ofDigitChars 10 ds n) := by
    induction ds generalizing n with
    | nil => rfl
    | cons d ds ih =>
      rw [List.foldl_cons, hstep, ih, Nat.ofDigitChars_cons]
      rfl
  have hzero : min bound 0 = 0 := Nat.min_zero bound
  rw [digitsBelow, ← hfold, hzero]

/-- Digits without a leading zero spell zero only as the digit itself. -/
theorem Canonical.pos {ds : List Char} (h : Canonical ds) (hzero : ds ≠ ['0']) :
    0 < Nat.ofDigitChars 10 ds 0 := by
  obtain ⟨⟨hne, hdigits⟩, hlead⟩ := h
  cases ds with
  | nil => exact absurd rfl hne
  | cons d ds =>
    have hd : d ≠ '0' := by
      rintro rfl
      rw [hlead ds rfl] at hzero
      exact hzero rfl
    have hdigit : d.isDigit = true := hdigits d List.mem_cons_self
    have hpos : 0 < d.toNat - '0'.toNat := by
      have hne : d.toNat ≠ '0'.toNat := fun heq => hd (Char.toNat_inj.mp heq)
      simp only [Char.isDigit, Bool.and_eq_true, decide_eq_true_eq] at hdigit
      have hle : '0'.toNat ≤ d.toNat := hdigit.1
      omega
    rw [Nat.ofDigitChars_cons, Nat.ofDigitChars_eq_ofDigitChars_zero]
    have hpow : 0 < 10 ^ ds.length := Nat.pow_pos (by decide)
    have hmul := Nat.mul_pos hpow (Nat.add_pos_right (10 * 0) hpos)
    omega

/-- A number that 64 bits hold, with or without a sign. -/
def Fits (n : Int) : Prop := -(twoTo 63 : Nat) ≤ n ∧ n < (twoTo 64 : Nat)

instance (n : Int) : Decidable (Fits n) :=
  inferInstanceAs (Decidable (-(twoTo 63 : Nat) ≤ n ∧ n < (twoTo 64 : Nat)))

/-- The value of a numeral of digits alone. -/
theorem value?_of_digits {negative : Bool} {ds : List Char} (hds : Canonical ds)
    (hzero : negative = true → ds ≠ ['0']) :
    Numeral.value? ⟨negative, ds, none, none⟩ =
      if Fits (signedValue negative ds) then some (.int (signedValue negative ds))
      else Numeral.float? ⟨negative, ds, none, none⟩ := by
  have hsize : UInt64.size = twoTo 64 := rfl
  have hless : twoTo 63 < twoTo 64 := by decide +kernel
  unfold Numeral.value? signedValue Fits
  simp only [digitsBelow_eq, hsize, Option.isSome_none, Bool.or_self, Bool.false_eq_true, if_false]
  generalize hn : Nat.ofDigitChars 10 ds 0 = n
  cases negative with
  | false =>
    simp only [Bool.false_eq_true, if_false]
    by_cases hfits : n < twoTo 64
    · have hmin : min (twoTo 64) n = n := by omega
      rw [hmin, if_pos hfits, if_pos (by omega)]
    · rw [if_neg (by omega), if_neg (by omega)]
  | true =>
    have hpos : 0 < n := hn ▸ hds.pos (hzero rfl)
    simp only [if_true]
    by_cases hfits : n ≤ twoTo 63
    · have hmin : min (twoTo 64) n = n := by omega
      rw [hmin, if_pos ⟨hpos, hfits⟩, if_pos (by omega)]
    · rw [if_neg (by omega), if_neg (by omega)]

/-! ## Scanning -/

/-- The characters do not continue a numeral. -/
def Ends (rest : List Char) : Prop :=
  ∀ c cs, rest = c :: cs → c.isDigit = false ∧ c ≠ '.' ∧ c ≠ 'e' ∧ c ≠ 'E'

theorem scanDigits?_append {ds rest : List Char} (hds : Digits ds)
    (hrest : ∀ c cs, rest = c :: cs → c.isDigit = false) :
    scanDigits? (ds ++ rest) = some (ds, rest) := by
  have hdigits : ∀ c ∈ ds, c.isDigit = true := hds.2
  have htake : rest.takeWhile Char.isDigit = [] := by
    cases rest with
    | nil => rfl
    | cons c cs => rw [List.takeWhile_cons_of_neg (by simp [hrest c cs rfl])]
  have hdrop : rest.dropWhile Char.isDigit = rest := by
    cases rest with
    | nil => rfl
    | cons c cs => rw [List.dropWhile_cons_of_neg (by simp [hrest c cs rfl])]
  rw [scanDigits?, List.takeWhile_append_of_pos hdigits, List.dropWhile_append_of_pos hdigits,
    htake, hdrop, List.append_nil]
  cases ds with
  | nil => exact absurd rfl hds.1
  | cons d ds => rfl

theorem scanWhole?_append {ds rest : List Char} (hds : Canonical ds) (hrest : Ends rest) :
    scanWhole? (ds ++ rest) = some (ds, rest) := by
  have hscan := scanDigits?_append hds.1 fun c cs h => (hrest c cs h).1
  unfold scanWhole?
  split
  · rename_i cs hcs
    cases ds with
    | nil => exact absurd rfl hds.1.1
    | cons d ds =>
      obtain ⟨rfl, rfl⟩ := List.cons.inj hcs
      obtain rfl := hds.2 ds rfl
      rfl
  · exact hscan

theorem scanNumeral?_signed {negative : Bool} {ds rest : List Char} (hds : Canonical ds)
    (hrest : Ends rest) :
    scanNumeral? (signed negative ds ++ rest) = some (⟨negative, ds, none, none⟩, rest) := by
  have hfraction : scanFraction? rest = some (none, rest) := by
    unfold scanFraction?
    split
    · exact absurd rfl (hrest _ _ rfl).2.1
    · rfl
  have hexponent : scanExponent? rest = some (none, rest) := by
    unfold scanExponent?
    split
    · exact absurd rfl (hrest _ _ rfl).2.2.1
    · exact absurd rfl (hrest _ _ rfl).2.2.2
    · rfl
  cases negative with
  | true =>
    show scanNumeral? ('-' :: (ds ++ rest)) = _
    unfold scanNumeral?
    simp [scanWhole?_append hds hrest, hfraction, hexponent]
  | false =>
    show scanNumeral? (ds ++ rest) = _
    unfold scanNumeral?
    -- digits start with no sign
    split
    rename_i cs hcs
    split at hcs
    · rename_i tail hsign
      obtain ⟨d, ds, rfl⟩ := List.exists_cons_of_ne_nil hds.1.1
      exact absurd (congrArg (· :: ds) (List.cons.inj hsign).1) (hds.1.ne_sign rfl)
    · cases hcs
      simp [scanWhole?_append hds hrest, hfraction, hexponent]

/-! ## A literal as a value -/

theorem skipBlank_append {blank : List Char} (hblank : ∀ c ∈ blank, isBlank c = true)
    (cs : List Char) : skipBlank (blank ++ cs) = skipBlank cs :=
  List.dropWhile_append_of_pos hblank

theorem skipBlank_cons {c : Char} (hc : isBlank c = false) (cs : List Char) :
    skipBlank (c :: cs) = c :: cs :=
  List.dropWhile_cons_of_neg (by simp [hc])

/-- A value is read as it is without the blanks in front of it. -/
theorem scanValue?_append {blank : List Char} (hblank : ∀ c ∈ blank, isBlank c = true)
    (budget depth : Nat) (cs : List Char) :
    scanValue? budget depth (blank ++ cs) = scanValue? budget depth cs := by
  cases budget with
  | zero => rfl
  | succ budget =>
    unfold scanValue?
    rw [skipBlank_append hblank]

/-- A minus sign or a digit starts a numeral. -/
theorem scanValue?_numeral {c : Char} (hc : c.isDigit = true ∨ c = '-') (budget depth : Nat)
    (cs : List Char) :
    scanValue? (budget + 1) depth (c :: cs) =
      (scanNumeral? (c :: cs)).bind fun read => read.1.value?.map fun v => (v, read.2) := by
  have hne {other : Char} (hdigit : other.isDigit = false) (hsign : other ≠ '-') : c ≠ other := by
    rintro rfl
    rcases hc with hc | rfl
    · rw [hdigit] at hc
      contradiction
    · exact hsign rfl
  have hblank : isBlank c = false := by
    simp [isBlank, @hne ' ' rfl (by decide), @hne '\n' rfl (by decide), @hne '\t' rfl (by decide),
      @hne '\r' rfl (by decide)]
  unfold scanValue?
  rw [skipBlank_cons hblank]
  split
  -- every other value starts with a character of its own
  case h_7 =>
    cases scanNumeral? (c :: cs) with
    | none => rfl
    | some read => rfl
  all_goals
    rename_i heq
    exact absurd (List.cons.inj heq).1 (hne rfl (by decide))

/-- A numeral of digits starts as no other value does. -/
theorem signed_append_eq {negative : Bool} {ds : List Char} (hds : Digits ds) (rest : List Char) :
    ∃ c cs, signed negative ds ++ rest = c :: cs ∧ (c.isDigit = true ∨ c = '-') := by
  obtain ⟨d, ds, rfl⟩ := List.exists_cons_of_ne_nil hds.1
  cases negative with
  | true => exact ⟨'-', d :: ds ++ rest, rfl, .inr rfl⟩
  | false => exact ⟨d, ds ++ rest, rfl, .inl (hds.2 d List.mem_cons_self)⟩

theorem signed_ne_cons {negative : Bool} {ds cs : List Char} (hds : Digits ds) {c : Char}
    (hdigit : c.isDigit = false) (hsign : c ≠ '-') : signed negative ds ≠ c :: cs := by
  intro h
  obtain ⟨c', cs', hcs, hc⟩ := @signed_append_eq negative ds hds []
  rw [List.append_nil, h] at hcs
  obtain ⟨rfl, -⟩ := List.cons.inj hcs
  rcases hc with hc | hc
  · rw [hdigit] at hc
    contradiction
  · exact hsign hc

/-- A literal is not the empty text. -/
theorem ne_empty_of_reading {text : String} {value : Option Json} (h : Reading text value) :
    text ≠ "" := by
  intro hempty
  cases h with
  | true => contradiction
  | false => contradiction
  | @integer _ negative ds htext hds hzero =>
    obtain ⟨c, cs, hcs, -⟩ := @signed_append_eq negative ds hds.1 []
    rw [List.append_nil, ← htext, hempty] at hcs
    contradiction

/-- A literal is not read as null. -/
theorem isNull_of_reading {text : String} {v : Json} (h : Reading text (some v)) :
    v.isNull = false := by
  generalize hvalue : some v = value at h
  cases h with
  | true => obtain rfl := Option.some.inj hvalue; rfl
  | false => obtain rfl := Option.some.inj hvalue; rfl
  | @integer _ negative ds htext hds hzero =>
    rw [value?_of_digits hds hzero] at hvalue
    split at hvalue
    · obtain rfl := Option.some.inj hvalue
      rfl
    · obtain ⟨x, -, rfl⟩ := Option.map_eq_some_iff.mp hvalue.symm
      rfl

/-- **A literal is read as its value, whatever follows it.** -/
theorem scanValue?_literal {text : String} {value : Option Json} (h : Reading text value)
    (budget depth : Nat) {rest : List Char} (hrest : Ends rest) :
    scanValue? (budget + 1) depth (text.toList ++ rest) = value.map fun v => (v, rest) := by
  cases h with
  | true =>
    unfold scanValue?
    rfl
  | false =>
    unfold scanValue?
    rfl
  | integer htext hds hzero =>
    obtain ⟨c, cs, hcs, hc⟩ := signed_append_eq hds.1 rest
    rw [htext, hcs, scanValue?_numeral hc, ← hcs, scanNumeral?_signed hds hrest]
    rfl

/-- As a whole text a literal is JSON exactly if it has a value. -/
theorem parse?_literal {text : String} {value : Option Json} (h : Reading text value) :
    parse? text = value := by
  have hread : scanValue? (2 * text.toList.length + 2) maxDepth text.toList =
      value.map fun v => (v, []) := by
    have hends : Ends [] := fun _ _ hnil => absurd hnil (List.cons_ne_nil _ _).symm
    have hscan := scanValue?_literal h (2 * text.toList.length + 1) maxDepth hends
    rwa [List.append_nil] at hscan
  rw [parse?]
  simp only [hread]
  cases value <;> rfl

/-! ## Strings -/

theorem hexValue?_digitChar {d : Nat} (hd : d < 16) : hexValue? (Nat.digitChar d) = some d := by
  have hall : ∀ d : Fin 16, hexValue? (Nat.digitChar d) = some d.val := by decide
  exact hall ⟨d, hd⟩

/-- A letter behind a backslash is read as what it stands for. -/
theorem scanString?_letter {letter c : Char} (h : unescape? letter = some c) (done : List Char)
    (rest : List Char) :
    scanString? done ('\\' :: letter :: rest) = scanString? (c :: done) rest := by
  have hletter : letter ≠ 'u' := by
    rintro rfl
    contradiction
  rw [scanString?.eq_4 _ _ _ fun _ _ _ _ _ hu _ => hletter hu, h]

/-- Four hexadecimal digits that spell a control character are read as the character. -/
theorem scanString?_unit {u : Nat} {c₀ c₁ c₂ c₃ : Char} (h : unit? c₀ c₁ c₂ c₃ = some u)
    (hplain : u < 0xD800) (done : List Char) (rest : List Char) :
    scanString? done ('\\' :: 'u' :: c₀ :: c₁ :: c₂ :: c₃ :: rest) =
      scanString? (Char.ofNat u :: done) rest := by
  rw [scanString?.eq_3, h]
  exact if_pos (.inl hplain)

/-- A character that needs no backslash is read as it is. -/
theorem scanString?_plain {c : Char} (hquote : c ≠ '"') (hslash : c ≠ '\\')
    (hcontrol : ¬ c.toNat < 0x20) (done : List Char) (rest : List Char) :
    scanString? done (c :: rest) = scanString? (c :: done) rest := by
  rw [scanString?.eq_5 _ _ _ hquote (fun _ _ _ _ _ h _ => hslash h) fun _ _ h _ => hslash h,
    if_neg (by simp [hcontrol, hslash])]

/-- An escaped character is read as the character. -/
theorem scanString?_escapeChar (done : List Char) (c : Char) (rest : List Char) :
    scanString? done (escapeChar c ++ rest) = scanString? (c :: done) rest := by
  unfold escapeChar
  split
  case h_8 hquote hslash _ _ _ _ _ =>
    split
    · rename_i hcontrol
      have hunit : unit? '0' '0' (Nat.digitChar (c.toNat / 16)) (Nat.digitChar (c.toNat % 16)) =
          some c.toNat := by
        have hzero : hexValue? '0' = some 0 := rfl
        rw [unit?, hexValue?_digitChar (by omega), hexValue?_digitChar (Nat.mod_lt _ (by decide)),
          hzero]
        simp
        omega
      have hread := scanString?_unit hunit (by omega) done rest
      rwa [Char.ofNat_toNat] at hread
    · rename_i hplain
      exact scanString?_plain hquote hslash hplain done rest
  all_goals exact scanString?_letter rfl done rest

/-- A written string is read as the string. -/
theorem scanString?_escaped (done cs rest : List Char) :
    scanString? done (cs.flatMap escapeChar ++ '"' :: rest) =
      some (String.ofList (done.reverse ++ cs), rest) := by
  induction cs generalizing done with
  | nil =>
    unfold scanString?
    rw [List.flatMap_nil, List.append_nil]
    rfl
  | cons c cs ih =>
    rw [List.flatMap_cons, List.append_assoc, scanString?_escapeChar, ih, List.reverse_cons,
      List.append_assoc]
    rfl

/-! ## Objects of one member -/

/-- A text is an object of one member, with blanks anywhere between its parts. -/
inductive OneMember (key value object : String) : Prop where
  | spaced {b₀ b₁ b₂ b₃ b₄ b₅ : List Char}
    (hblank : ∀ c ∈ b₀ ++ b₁ ++ b₂ ++ b₃ ++ b₄ ++ b₅, isBlank c = true)
    (hobject : object.toList = b₀ ++ '\x7b' :: (b₁ ++ (stringText key).toList ++ (b₂ ++ ':' ::
      (b₃ ++ value.toList ++ (b₄ ++ '\x7d' :: b₅))))) : OneMember key value object

theorem OneMember.mem_brace {key value object : String} (h : OneMember key value object) :
    '\x7b' ∈ object.toList := by
  obtain ⟨-, hobject⟩ := h
  rw [hobject]
  exact List.mem_append_right _ List.mem_cons_self

theorem ends_append {blank : List Char} (hblank : ∀ c ∈ blank, isBlank c = true)
    (rest : List Char) : Ends (blank ++ '\x7d' :: rest) := by
  have hends {c : Char} (hc : isBlank c = true ∨ c = '\x7d') :
      c.isDigit = false ∧ c ≠ '.' ∧ c ≠ 'e' ∧ c ≠ 'E' := by
    simp only [isBlank, Bool.or_eq_true, beq_iff_eq] at hc
    rcases hc with (((rfl | rfl) | rfl) | rfl) | rfl <;> decide
  intro c cs hcs
  cases blank with
  | nil =>
    obtain ⟨rfl, -⟩ := List.cons.inj hcs
    exact hends (.inr rfl)
  | cons b blank =>
    obtain ⟨rfl, -⟩ := List.cons.inj hcs
    exact hends (.inl (hblank b List.mem_cons_self))

theorem stringText_append (key : String) (cs : List Char) : (stringText key).toList ++ cs =
    '"' :: (key.toList.flatMap escapeChar ++ '"' :: cs) := by
  simp [stringText]

/-- A member is read as its key and the reading of its value. -/
theorem scanMembers?_literal {key text : String} {value : Option Json} (h : Reading text value)
    {b₂ b₃ b₄ : List Char} (hb₂ : ∀ c ∈ b₂, isBlank c = true) (hb₃ : ∀ c ∈ b₃, isBlank c = true)
    (hb₄ : ∀ c ∈ b₄, isBlank c = true) (budget depth : Nat) (rest : List Char) :
    scanMembers? (budget + 2) depth [] ((stringText key).toList ++ (b₂ ++ ':' ::
      (b₃ ++ text.toList ++ (b₄ ++ '\x7d' :: rest)))) =
        value.map fun v => ([(key, v)], rest) := by
  have hvalue : scanValue? (budget + 1) depth (b₃ ++ text.toList ++ (b₄ ++ '\x7d' :: rest)) =
      value.map fun v => (v, b₄ ++ '\x7d' :: rest) := by
    rw [List.append_assoc, scanValue?_append hb₃]
    exact scanValue?_literal h budget depth (ends_append hb₄ rest)
  unfold scanMembers?
  rw [stringText_append, skipBlank_cons rfl]
  simp only [scanString?_escaped, skipBlank_append hb₂,
    skipBlank_cons (show isBlank ':' = false from rfl), hvalue]
  cases value with
  | none => rfl
  | some v =>
    simp [skipBlank_append hb₄, skipBlank_cons (show isBlank '\x7d' = false from rfl)]

/-- What is read behind the brace starts with the quote of the key. -/
theorem scanWritten?_stringText {blank : List Char} (hblank : ∀ c ∈ blank, isBlank c = true)
    (budget depth : Nat) (key : String) (cs : List Char) :
    scanWritten? budget depth (blank ++ ((stringText key).toList ++ cs)) =
      scanMembers? budget depth [] ((stringText key).toList ++ cs) := by
  rw [scanWritten?, skipBlank_append hblank, stringText_append, skipBlank_cons rfl]
  rfl

/-- **An object of one member is read as the reading of its value under the key.** -/
theorem parse?_oneMember {key text object : String} {value : Option Json} (h : Reading text value)
    (hobject : OneMember key text object) :
    parse? object = value.map fun v => .object [(key, v)] := by
  have hlength : 2 * object.toList.length + 1 = 2 * object.toList.length - 1 + 2 := by
    have hpos := List.length_pos_of_mem hobject.mem_brace
    omega
  obtain ⟨hblank, hobject⟩ := hobject
  rename_i b₀ b₁ b₂ b₃ b₄ b₅
  simp only [List.mem_append, or_imp, forall_and] at hblank
  obtain ⟨⟨⟨⟨⟨hb₀, hb₁⟩, hb₂⟩, hb₃⟩, hb₄⟩, hb₅⟩ := hblank
  generalize hcs : b₂ ++ ':' :: (b₃ ++ text.toList ++ (b₄ ++ '\x7d' :: b₅)) = cs at hobject
  have hbrace : skipBlank object.toList =
      '\x7b' :: (b₁ ++ ((stringText key).toList ++ cs)) := by
    rw [hobject, skipBlank_append hb₀, skipBlank_cons rfl, List.append_assoc]
  have hmember : scanWritten? (2 * object.toList.length + 1) 126
      (b₁ ++ ((stringText key).toList ++ cs)) = value.map fun v => ([(key, v)], b₅) := by
    rw [scanWritten?_stringText hb₁, hlength, ← hcs]
    exact scanMembers?_literal h hb₂ hb₃ hb₄ _ _ b₅
  have hread : scanValue? (2 * object.toList.length + 2) maxDepth object.toList =
      value.map fun v => (.object [(key, v)], b₅) := by
    refine (scanValue?_brace hbrace).trans ?_
    rw [hmember, Option.map_map]
    rfl
  have hend : skipBlank b₅ = [] := by
    have hall := skipBlank_append hb₅ []
    rwa [List.append_nil] at hall
  rw [parse?]
  simp only [hread]
  cases value with
  | none => rfl
  | some v => simp [hend]

end Rowgate.Json

namespace Rowgate.Input

open Json (OneMember Reading)

/-! ## Bodies of one member -/

theorem not_blank_of_oneMember {key text object : String} (hobject : OneMember key text object) :
    (Utf8.encode object).all isBlankByte = false := by
  have hbyte : UInt8.ofNat '\x7b'.toNat ∈ Utf8.encode object :=
    (Utf8.mem_encode_iff (by decide) object).mpr hobject.mem_brace
  exact List.all_eq_false.mpr ⟨_, hbyte, by decide⟩

theorem parseBytes?_oneMember {key text object : String} {value : Option Json}
    (h : Reading text value) (hobject : OneMember key text object) :
    Json.parseBytes? (Utf8.encode object) = value.map fun v => .object [(key, v)] := by
  have hdecode : String.fromUTF8? (Utf8.encode object).toByteArray = some object :=
    Utf8.decode?_encode object
  rw [Json.parseBytes?, hdecode]
  exact Json.parse?_oneMember h hobject

/-- The members of a body that is an object with a literal as its only value. -/
theorem bodyMembers_oneMember {key text object : String} {v : Json}
    (h : Reading text (some v)) (hobject : OneMember key text object) :
    bodyMembers (Utf8.encode object) = .ok [(key, v)] :=
  bodyMembers_of_object (parseBytes?_oneMember h hobject)

/-- A body with a literal that is no value is no JSON. -/
theorem bodyMembers_oneMember_none {key text object : String}
    (h : Reading text none) (hobject : OneMember key text object) :
    bodyMembers (Utf8.encode object) = .error .malformed := by
  rw [bodyMembers, not_blank_of_oneMember hobject, parseBytes?_oneMember h hobject]
  rfl

end Rowgate.Input
