import Rowgate.Proofs.Bytes
import Rowgate.Text.Percent
/-
Percent-encoded texts read back.

A byte is written as itself or as an escape of three characters, and either form gives the byte back
whatever follows it. So the encoded form of a text spells the text (`Percent.decodeText?_encode`),
and since it consists of letters, digits, four marks and percent signs, none of the delimiters of a
URL stands in it (`Percent.notMem_encode`).

A text that is read without having been encoded stands for itself only if no escape stands in it
(`Percent.decode_eq_self_iff`): each escape makes it shorter.
-/
set_option autoImplicit false

namespace Rowgate.Percent

/-! ## Escapes -/

/-- The byte of a character below 128. -/
def byteOf (c : Char) : UInt8 := UInt8.ofNat c.toNat

theorem toNat_ofNat_of_lt {n : Nat} (h : n < 128) : (Char.ofNat n).toNat = n := by
  have hvalid : n.isValidChar := .inl (Nat.lt_trans h (by decide))
  rw [Char.ofNat, dif_pos hvalid]
  rfl

theorem digitValue?_digit {n : Nat} (h : n < 16) : digitValue? (byteOf (digit n)) = some n := by
  have hall : ∀ n < 16, digitValue? (byteOf (digit n)) = some n := by decide
  exact hall n h

theorem isAlphanum_digit {n : Nat} (h : n < 16) : (digit n).isAlphanum = true := by
  have hall : ∀ n < 16, (digit n).isAlphanum = true := by decide
  exact hall n h

/-- Whether two hexadecimal digits come first. -/
def startsDigits : List UInt8 → Bool
  | h :: l :: _ => (digitValue? h).isSome && (digitValue? l).isSome
  | _ => false

/-- Whether an escape stands among bytes: a percent sign with two hexadecimal digits behind it. -/
def hasEscape : List UInt8 → Bool
  | [] => false
  | b :: rest => (b == 37 && startsDigits rest) || hasEscape rest

/-- A byte that starts no escape stands for itself. -/
theorem decode_cons_of_escapes {b : UInt8} {rest : List UInt8}
    (h : (b == 37 && startsDigits rest) = false) : decode (b :: rest) = b :: decode rest := by
  rw [decode.eq_def]
  dsimp only
  split
  · rfl
  · next hb =>
    obtain rfl : b = 37 := by simpa using hb
    rw [beq_self_eq_true, Bool.true_and] at h
    split
    · next first second later =>
      split
      · next x y hx hy => simp [startsDigits, hx, hy] at h
      · rfl
    · next first =>
      by_cases hfirst : first = 37 <;> simp [decode, hfirst]
    · rfl

theorem decode_cons {b : UInt8} (h : b ≠ 37) (rest : List UInt8) :
    decode (b :: rest) = b :: decode rest :=
  decode_cons_of_escapes (by simp [h])

/-- An escape stands for one byte. -/
theorem exists_decode_escape {rest : List UInt8} (h : startsDigits rest = true) :
    ∃ first second later b, rest = first :: second :: later ∧ (digitValue? first).isSome = true ∧
      (digitValue? second).isSome = true ∧ decode (37 :: rest) = b :: decode later := by
  match rest, h with
  | first :: second :: later, h =>
    obtain ⟨hfirst, hsecond⟩ := Bool.and_eq_true_iff.mp h
    obtain ⟨x, hx⟩ := Option.isSome_iff_exists.mp hfirst
    obtain ⟨y, hy⟩ := Option.isSome_iff_exists.mp hsecond
    refine ⟨first, second, later, UInt8.ofNat (16 * x + y), rfl, hfirst, hsecond, ?_⟩
    rw [decode.eq_def]
    simp [hx, hy]

/-- The escape of a byte stands for it. -/
theorem decode_escape (b : UInt8) (rest : List UInt8) :
    decode (37 :: byteOf (digit (b.toNat / 16)) :: byteOf (digit (b.toNat % 16)) :: rest) =
      b :: decode rest := by
  have hb : b.toNat < 256 := b.toNat_lt
  have hbyte : UInt8.ofNat (16 * (b.toNat / 16) + b.toNat % 16) = b := by
    rw [Nat.div_add_mod, UInt8.ofNat_toNat]
  rw [decode.eq_def]
  simp only [ne_eq, not_true_eq_false, if_false]
  rw [digitValue?_digit (by omega), digitValue?_digit (by omega)]
  simp only [hbyte]

/-! ## Bytes without escapes -/

theorem decode_append {bytes : List UInt8} (h : 37 ∉ bytes) (rest : List UInt8) :
    decode (bytes ++ rest) = bytes ++ decode rest := by
  induction bytes with
  | nil => rfl
  | cons b bytes ih =>
    obtain ⟨hb, hbytes⟩ : 37 ≠ b ∧ 37 ∉ bytes := by simpa using h
    rw [List.cons_append, decode_cons hb.symm, ih hbytes, List.cons_append]

theorem decode_of_notMem {bytes : List UInt8} (h : 37 ∉ bytes) : decode bytes = bytes := by
  have hread := decode_append h []
  rwa [List.append_nil, decode.eq_def [], List.append_nil] at hread

theorem hasEscape_append {bytes : List UInt8} (h : 37 ∉ bytes) (rest : List UInt8) :
    hasEscape (bytes ++ rest) = hasEscape rest := by
  induction bytes with
  | nil => rfl
  | cons b bytes ih =>
    obtain ⟨hb, hbytes⟩ : 37 ≠ b ∧ 37 ∉ bytes := by simpa using h
    rw [List.cons_append, hasEscape, beq_false_of_ne hb.symm, Bool.false_and, Bool.false_or,
      ih hbytes]

theorem hasEscape_of_append {rest : List UInt8} (h : hasEscape rest = true) (bytes : List UInt8) :
    hasEscape (bytes ++ rest) = true := by
  induction bytes with
  | nil => exact h
  | cons b bytes ih => rw [List.cons_append, hasEscape, ih, Bool.or_true]

/-- Reading makes nothing longer, and what an escape stands in shorter. -/
theorem length_decode (bytes : List UInt8) :
    (decode bytes).length ≤ bytes.length ∧
      (hasEscape bytes = true → (decode bytes).length < bytes.length) := by
  induction h : bytes.length using Nat.strongRecOn generalizing bytes with
  | ind length ih =>
    subst h
    cases bytes with
    | nil => exact ⟨Nat.le_refl 0, nofun⟩
    | cons b rest =>
      cases hescape : b == 37 && startsDigits rest with
      | false =>
        obtain ⟨hle, hlt⟩ := ih rest.length (Nat.lt_succ_self _) rest rfl
        rw [decode_cons_of_escapes hescape, hasEscape, hescape, Bool.false_or]
        exact ⟨Nat.succ_le_succ hle, fun h => Nat.succ_lt_succ (hlt h)⟩
      | true =>
        obtain ⟨hb, hdigits⟩ := Bool.and_eq_true_iff.mp hescape
        obtain ⟨first, second, later, byte, rfl, -, -, hread⟩ := exists_decode_escape hdigits
        rw [eq_of_beq hb, hread]
        have hle := (ih later.length (by simp only [List.length_cons]; omega) later rfl).1
        simp only [List.length_cons]
        exact ⟨by omega, fun _ => by omega⟩

/-- **Bytes stand for themselves exactly if no escape stands among them.** -/
theorem decode_eq_self_iff {bytes : List UInt8} :
    decode bytes = bytes ↔ hasEscape bytes = false := by
  constructor
  · intro h
    by_contra hescape
    have hlt := (length_decode bytes).2 (eq_true_of_ne_false hescape)
    rw [h] at hlt
    exact Nat.lt_irrefl _ hlt
  · intro h
    induction bytes with
    | nil => rfl
    | cons b rest ih =>
      obtain ⟨hb, hrest⟩ := Bool.or_eq_false_iff.mp h
      rw [decode_cons_of_escapes hb, ih hrest]

/-! ## Bytes -/

/-- The characters that stand for themselves. -/
def isKept (c : Char) : Bool := c.isAlphanum || c == '-' || c == '.' || c == '_' || c == '~'

theorem isUnreserved_eq (b : UInt8) :
    isUnreserved b = (decide (b < 128) && isKept (Char.ofNat b.toNat)) := rfl

theorem isAlpha_iff {c : Char} : c.isAlpha = true ↔
    (65 ≤ c.toNat ∧ c.toNat ≤ 90) ∨ (97 ≤ c.toNat ∧ c.toNat ≤ 122) := by
  have hletter : c.isAlpha = (decide (65 ≤ c.val ∧ c.val ≤ 90) ||
      (decide (97 ≤ c.val) && decide (c.val ≤ 122))) := rfl
  rw [hletter]
  simp only [Bool.or_eq_true, Bool.and_eq_true, decide_eq_true_eq, UInt32.le_iff_toNat_le]
  rfl

theorem isKept_of_isAlpha {c : Char} (h : c.isAlpha = true) : isKept c = true := by
  simp [isKept, Char.isAlphanum, h]

theorem lt_of_isKept {c : Char} (h : isKept c = true) : c.toNat < 128 := by
  simp only [isKept, Char.isAlphanum, Bool.or_eq_true, beq_iff_eq] at h
  rcases h with ((((h | h) | rfl) | rfl) | rfl) | rfl
  · rcases isAlpha_iff.mp h with h | h <;> omega
  · have hdigit := Char.isDigit_iff_toNat.mp h
    have hnine : '9'.toNat = 57 := rfl
    omega
  all_goals decide

/-- What a byte is written with: kept characters and percent signs. -/
theorem mem_encodeByte {b : UInt8} {c : Char} (h : c ∈ encodeByte b) :
    isKept c = true ∨ c = '%' := by
  have hb : b.toNat < 256 := b.toNat_lt
  unfold encodeByte at h
  split at h
  · next hkept =>
    rw [isUnreserved_eq, Bool.and_eq_true] at hkept
    exact .inl (List.mem_singleton.mp h ▸ hkept.2)
  · have hdigit {n : Nat} (hn : n < 16) : isKept (digit n) = true := by
      simp [isKept, isAlphanum_digit hn]
    simp only [List.mem_cons, List.not_mem_nil, or_false] at h
    rcases h with rfl | rfl | rfl
    · exact .inr rfl
    · exact .inl (hdigit (by omega))
    · exact .inl (hdigit (by omega))

/-- The written form of a byte gives it back, whatever follows. -/
theorem decode_encodeByte (b : UInt8) (rest : List UInt8) :
    decode ((encodeByte b).map byteOf ++ rest) = b :: decode rest := by
  unfold encodeByte
  split
  · next hkept =>
    rw [isUnreserved_eq, Bool.and_eq_true, decide_eq_true_eq, UInt8.lt_iff_toNat_lt] at hkept
    have hbyte : byteOf (Char.ofNat b.toNat) = b := by
      rw [byteOf, toNat_ofNat_of_lt hkept.1, UInt8.ofNat_toNat]
    have hne : b ≠ 37 := by
      rintro rfl
      exact absurd hkept.2 (by decide)
    rw [List.map_singleton, hbyte, List.singleton_append, decode_cons hne]
  · exact decode_escape b rest

theorem decode_flatMap_encodeByte (bytes : List UInt8) :
    decode ((bytes.flatMap encodeByte).map byteOf) = bytes := by
  induction bytes with
  | nil => rfl
  | cons b rest ih => rw [List.flatMap_cons, List.map_append, decode_encodeByte, ih]

/-! ## Texts -/

theorem mem_encode {s : String} {c : Char} (h : c ∈ (encode s).toList) :
    isKept c = true ∨ c = '%' := by
  rw [encode, String.toList_ofList] at h
  obtain ⟨b, -, hb⟩ := List.mem_flatMap.mp h
  exact mem_encodeByte hb

/-- No delimiter stands in an encoded text. -/
theorem notMem_encode {c : Char} (hkept : isKept c = false) (hpercent : c ≠ '%') (s : String) :
    c ∉ (encode s).toList := by
  intro h
  rcases mem_encode h with hmem | rfl
  · rw [hkept] at hmem
    contradiction
  · contradiction

theorem utf8Encode_encode (s : String) :
    Utf8.encode (encode s) = ((Utf8.encode s).flatMap encodeByte).map byteOf := by
  rw [Utf8.encode_of_lt fun c hc => (mem_encode hc).elim lt_of_isKept fun h => h ▸ by decide]
  rw [encode, String.toList_ofList]
  rfl

/-- **An encoded text spells the text.** -/
theorem decodeText?_encode (s : String) : decodeText? (encode s) = some s := by
  rw [decodeText?, utf8Encode_encode, decode_flatMap_encodeByte, Utf8.decode?_encode]

end Rowgate.Percent
