import Rowgate.Proofs.Escapes
/-
What the lenient reader makes of bytes.

Where bytes spell a character, the lenient reader reads that character and goes on behind it
(`Utf8.decodeLenient_char`). In any case one step of it takes one byte and perhaps continuation bytes
behind it, and gives one character. So bytes that come in pieces, each a single byte or the spelling
of a character, are read as no more characters than there are pieces: no step crosses into the
spelling of another character, as that does not start with a continuation byte.

The bytes that a percent-encoded text stands for come in as many pieces as the text has characters, or
fewer where an escape stands in it. So the text that is read is never longer than the text that was
written, and one that is as long has been written without escapes
(`Percent.length_decodeTextLenient`).
-/
set_option autoImplicit false

namespace Rowgate

namespace Utf8

/-! ## Spelled characters -/

section Spelled

variable {b₀ b₁ b₂ b₃ low high : UInt8}

theorem decodeLenient_one (h : b₀ < 0x80) (rest : List UInt8) :
    decodeLenient (b₀ :: rest) = Char.ofNat b₀.toNat :: decodeLenient rest := by
  rw [decodeLenient.eq_def]
  simp only [h, if_true]

theorem decodeLenient_two (h : ¬b₀ < 0x80) (hfollow : follow? b₀ = some (1, low, high))
    (h₁ : low ≤ b₁ ∧ b₁ ≤ high) (rest : List UInt8) :
    decodeLenient (b₀ :: b₁ :: rest) =
      Char.ofNat (b₀.toNat % 32 * 64 + payload b₁) :: decodeLenient rest := by
  rw [decodeLenient.eq_def]
  simp only [h, if_false, hfollow, UInt8.not_lt.mpr h₁.1, UInt8.not_lt.mpr h₁.2, decide_false,
    Bool.or_self, Bool.false_eq_true, if_true]

theorem decodeLenient_three (h : ¬b₀ < 0x80) (hfollow : follow? b₀ = some (2, low, high))
    (h₁ : low ≤ b₁ ∧ b₁ ≤ high) (h₂ : isContinuation b₂ = true) (rest : List UInt8) :
    decodeLenient (b₀ :: b₁ :: b₂ :: rest) =
      Char.ofNat ((b₀.toNat % 16 * 64 + payload b₁) * 64 + payload b₂) :: decodeLenient rest := by
  rw [decodeLenient.eq_def]
  simp only [h, if_false, hfollow, UInt8.not_lt.mpr h₁.1, UInt8.not_lt.mpr h₁.2, decide_false,
    Bool.or_self, Bool.false_eq_true, h₂, Bool.not_true, Nat.reduceEqDiff, if_true]

theorem decodeLenient_four (h : ¬b₀ < 0x80) (hfollow : follow? b₀ = some (3, low, high))
    (h₁ : low ≤ b₁ ∧ b₁ ≤ high) (h₂ : isContinuation b₂ = true) (h₃ : isContinuation b₃ = true)
    (rest : List UInt8) :
    decodeLenient (b₀ :: b₁ :: b₂ :: b₃ :: rest) =
      Char.ofNat (((b₀.toNat % 8 * 64 + payload b₁) * 64 + payload b₂) * 64 + payload b₃) ::
        decodeLenient rest := by
  rw [decodeLenient.eq_def]
  simp only [h, if_false, hfollow, UInt8.not_lt.mpr h₁.1, UInt8.not_lt.mpr h₁.2, decide_false,
    Bool.or_self, Bool.false_eq_true, h₂, h₃, Bool.not_true, Nat.reduceEqDiff]

end Spelled

/-- What follows a lead byte, by its number. -/
theorem follow?_eq (b : UInt8) : follow? b =
    if b.toNat < 0xC2 then none
    else if b.toNat < 0xE0 then some (1, 0x80, 0xBF)
    else if b.toNat = 0xE0 then some (2, 0xA0, 0xBF)
    else if b.toNat = 0xED then some (2, 0x80, 0x9F)
    else if b.toNat < 0xF0 then some (2, 0x80, 0xBF)
    else if b.toNat = 0xF0 then some (3, 0x90, 0xBF)
    else if b.toNat < 0xF4 then some (3, 0x80, 0xBF)
    else if b.toNat = 0xF4 then some (3, 0x80, 0x8F)
    else none := by
  simp only [follow?, UInt8.lt_iff_toNat_lt, ← UInt8.toNat_inj]
  rfl

/-- The second byte of three is in range, if it leaves out what is overlong and the surrogates. -/
theorem exists_follow?_three (b : UInt8) (second : Nat) (hb : 0xE0 ≤ b.toNat ∧ b.toNat < 0xF0)
    (hsecond : 0x80 ≤ second ∧ second ≤ 0xBF) (hlow : b.toNat = 0xE0 → 0xA0 ≤ second)
    (hhigh : b.toNat = 0xED → second ≤ 0x9F) :
    ∃ low high : UInt8, follow? b = some (2, low, high) ∧
      low.toNat ≤ second ∧ second ≤ high.toNat := by
  rw [follow?_eq, if_neg (by omega), if_neg (by omega)]
  by_cases hfirst : b.toNat = 0xE0
  · rw [if_pos hfirst]
    exact ⟨0xA0, 0xBF, rfl, hlow hfirst, hsecond.2⟩
  · rw [if_neg hfirst]
    by_cases hsurrogate : b.toNat = 0xED
    · rw [if_pos hsurrogate]
      exact ⟨0x80, 0x9F, rfl, hsecond.1, hhigh hsurrogate⟩
    · rw [if_neg hsurrogate, if_pos hb.2]
      exact ⟨0x80, 0xBF, rfl, hsecond⟩

/-- The second byte of four is in range, if it leaves out what is overlong or past the last code
point. -/
theorem exists_follow?_four (b : UInt8) (second : Nat) (hb : 0xF0 ≤ b.toNat ∧ b.toNat ≤ 0xF4)
    (hsecond : 0x80 ≤ second ∧ second ≤ 0xBF) (hlow : b.toNat = 0xF0 → 0x90 ≤ second)
    (hhigh : b.toNat = 0xF4 → second ≤ 0x8F) :
    ∃ low high : UInt8, follow? b = some (3, low, high) ∧
      low.toNat ≤ second ∧ second ≤ high.toNat := by
  rw [follow?_eq, if_neg (by omega), if_neg (by omega), if_neg (by omega), if_neg (by omega),
    if_neg (by omega)]
  by_cases hfirst : b.toNat = 0xF0
  · rw [if_pos hfirst]
    exact ⟨0x90, 0xBF, rfl, hlow hfirst, hsecond.2⟩
  · rw [if_neg hfirst]
    by_cases hlast : b.toNat = 0xF4
    · rw [if_neg (by omega), if_pos hlast]
      exact ⟨0x80, 0x8F, rfl, hsecond.1, hhigh hlast⟩
    · rw [if_pos (by omega)]
      exact ⟨0x80, 0xBF, rfl, hsecond⟩

theorem isContinuation_iff (b : UInt8) :
    isContinuation b = true ↔ 0x80 ≤ b.toNat ∧ b.toNat ≤ 0xBF := by
  simp only [isContinuation, Bool.and_eq_true, decide_eq_true_eq, UInt8.le_iff_toNat_le]
  rfl

/-! ### The bytes of a character -/

/-- The number of a byte of six bits. -/
theorem toNat_sextet (n : Nat) : (UInt8.ofNat (n % 64 + 128)).toNat = n % 64 + 128 := by
  rw [UInt8.toNat_ofNat']
  omega

theorem isContinuation_sextet (n : Nat) : isContinuation (UInt8.ofNat (n % 64 + 128)) = true := by
  rw [isContinuation_iff, toNat_sextet]
  omega

theorem payload_sextet (n : Nat) : payload (UInt8.ofNat (n % 64 + 128)) = n % 64 := by
  rw [payload, toNat_sextet]
  omega

theorem not_lt_of_toNat {b : UInt8} (h : 0x80 ≤ b.toNat) : ¬b < 0x80 := by
  rw [UInt8.lt_iff_toNat_lt]
  exact Nat.not_lt.mpr h

/-- **A spelled character is read as it is**, whatever follows. -/
theorem decodeLenient_char (c : Char) (rest : List UInt8) :
    decodeLenient (String.utf8EncodeChar c ++ rest) = c :: decodeLenient rest := by
  have hback {n : Nat} (h : n = c.toNat) : Char.ofNat n = c := h ▸ Char.ofNat_toNat c
  have hval : c.toNat = c.val.toNat := rfl
  have hvalid : c.val.toNat < 0xD800 ∨ (0xDFFF < c.val.toNat ∧ c.val.toNat < 0x110000) := c.valid
  unfold String.utf8EncodeChar
  dsimp only
  generalize c.val.toNat = v at hval hvalid
  -- by the number of bytes; of the first byte only its number is looked at
  split
  · have hb : (UInt8.ofNat v).toNat = v := by
      rw [UInt8.toNat_ofNat']
      omega
    have hlt : UInt8.ofNat v < 0x80 := by
      rw [UInt8.lt_iff_toNat_lt, hb]
      show v < 128
      omega
    rw [List.singleton_append, decodeLenient_one hlt, hb, hback hval.symm]
  split
  · have hb : (UInt8.ofNat (v / 64 % 32 + 192)).toNat = v / 64 + 192 := by
      rw [UInt8.toNat_ofNat']
      omega
    generalize UInt8.ofNat (v / 64 % 32 + 192) = b₀ at hb
    have hfollow : follow? b₀ = some (1, 0x80, 0xBF) := by
      rw [follow?_eq, hb, if_neg (by omega), if_pos (by omega)]
    have hsecond := isContinuation_sextet v
    rw [isContinuation, Bool.and_eq_true, decide_eq_true_eq, decide_eq_true_eq] at hsecond
    simp only [List.cons_append, List.nil_append]
    rw [decodeLenient_two (not_lt_of_toNat (by omega)) hfollow hsecond, hb, payload_sextet,
      hback (by omega)]
  split
  · have hb : (UInt8.ofNat (v / 4096 % 16 + 224)).toNat = v / 4096 + 224 := by
      rw [UInt8.toNat_ofNat']
      omega
    generalize UInt8.ofNat (v / 4096 % 16 + 224) = b₀ at hb
    obtain ⟨low, high, hfollow, hrange⟩ := exists_follow?_three b₀ (v / 64 % 64 + 128)
      (by omega) (by omega) (by omega) (by omega)
    rw [← toNat_sextet, ← UInt8.le_iff_toNat_le, ← UInt8.le_iff_toNat_le] at hrange
    simp only [List.cons_append, List.nil_append]
    rw [decodeLenient_three (not_lt_of_toNat (by omega)) hfollow hrange (isContinuation_sextet v),
      hb, payload_sextet, payload_sextet, hback (by omega)]
  · have hb : (UInt8.ofNat (v / 262144 % 8 + 240)).toNat = v / 262144 + 240 := by
      rw [UInt8.toNat_ofNat']
      omega
    generalize UInt8.ofNat (v / 262144 % 8 + 240) = b₀ at hb
    obtain ⟨low, high, hfollow, hrange⟩ := exists_follow?_four b₀ (v / 4096 % 64 + 128)
      (by omega) (by omega) (by omega) (by omega)
    rw [← toNat_sextet, ← UInt8.le_iff_toNat_le, ← UInt8.le_iff_toNat_le] at hrange
    simp only [List.cons_append, List.nil_append]
    rw [decodeLenient_four (not_lt_of_toNat (by omega)) hfollow hrange
        (isContinuation_sextet (v / 64)) (isContinuation_sextet v),
      hb, payload_sextet, payload_sextet, payload_sextet, hback (by omega)]

/-- The bytes of a text are read as the text. -/
theorem decodeLenient_flatMap (cs : List Char) :
    decodeLenient (cs.flatMap String.utf8EncodeChar) = cs := by
  induction cs with
  | nil => rfl
  | cons c cs ih => rw [List.flatMap_cons, decodeLenient_char, ih]

/-! ## Bytes in pieces -/

/-- Bytes in a number of pieces, each a single byte or the spelling of a character. -/
inductive InPieces : Nat → List UInt8 → Prop where
  | nil : InPieces 0 []
  | byte {n : Nat} {bytes : List UInt8} (b : UInt8) (h : InPieces n bytes) :
    InPieces (n + 1) (b :: bytes)
  | char {n : Nat} {bytes : List UInt8} (c : Char) (h : InPieces n bytes) :
    InPieces (n + 1) (String.utf8EncodeChar c ++ bytes)

/-- The spelling of a character does not start with a continuation byte. -/
theorem exists_utf8EncodeChar (c : Char) : ∃ b rest, String.utf8EncodeChar c = b :: rest ∧
    isContinuation b = false := by
  have hnot {b : UInt8} (h : b.toNat < 0x80 ∨ 0xC0 ≤ b.toNat) : isContinuation b = false := by
    rw [Bool.eq_false_iff, Ne, isContinuation_iff]
    omega
  have hvalid : c.val.toNat < 0xD800 ∨ (0xDFFF < c.val.toNat ∧ c.val.toNat < 0x110000) := c.valid
  unfold String.utf8EncodeChar
  dsimp only
  repeat' split
  all_goals
    refine ⟨_, _, rfl, hnot ?_⟩
    rw [UInt8.toNat_ofNat']
    omega

namespace InPieces

variable {n : Nat} {bytes : List UInt8}

/-- A continuation byte is a piece of its own. -/
theorem tail {b : UInt8} (h : InPieces n (b :: bytes)) (hb : isContinuation b = true) :
    ∃ m, n = m + 1 ∧ InPieces m bytes := by
  generalize heq : b :: bytes = all at h
  cases h with
  | nil => contradiction
  | @byte m _ _ h =>
    obtain ⟨rfl, rfl⟩ := List.cons.inj heq
    exact ⟨m, rfl, h⟩
  | char c h =>
    obtain ⟨first, later, hspelled, hfirst⟩ := exists_utf8EncodeChar c
    rw [hspelled, List.cons_append] at heq
    rw [(List.cons.inj heq).1, hfirst] at hb
    contradiction

theorem drop {taken rest : List UInt8} (h : InPieces n (taken ++ rest))
    (htaken : ∀ b ∈ taken, isContinuation b = true) : ∃ m ≤ n, InPieces m rest := by
  induction taken generalizing n with
  | nil => exact ⟨n, Nat.le_refl n, h⟩
  | cons b taken ih =>
    obtain ⟨hb, htaken⟩ := List.forall_mem_cons.mp htaken
    obtain ⟨m, rfl, hm⟩ := h.tail hb
    obtain ⟨k, hk, hrest⟩ := ih hm htaken
    exact ⟨k, Nat.le_succ_of_le hk, hrest⟩

end InPieces

/-- The range of the second byte is one of continuation bytes. -/
theorem isContinuation_of_follow? {b b₁ low high : UInt8} {n : Nat}
    (hfollow : follow? b = some (n, low, high)) (h : (b₁ < low || high < b₁) = false) :
    isContinuation b₁ = true := by
  have hrange : 0x80 ≤ low.toNat ∧ high.toNat ≤ 0xBF := by
    rw [follow?_eq] at hfollow
    repeat' split at hfollow
    all_goals cases hfollow <;> decide
  simp only [Bool.or_eq_false_iff, decide_eq_false_iff_not, UInt8.not_lt,
    UInt8.le_iff_toNat_le] at h
  rw [isContinuation_iff]
  omega

/-- **One step of the lenient reader**: it takes a byte and perhaps continuation bytes behind it, and
gives one character. -/
theorem exists_decodeLenient_cons (b : UInt8) (bytes : List UInt8) : ∃ c taken rest,
    bytes = taken ++ rest ∧ (∀ b ∈ taken, isContinuation b = true) ∧
      decodeLenient (b :: bytes) = c :: decodeLenient rest := by
  rw [decodeLenient.eq_def]
  dsimp only
  split
  · exact ⟨_, [], _, rfl, nofun, rfl⟩
  split
  · exact ⟨_, [], _, rfl, nofun, rfl⟩
  · exact ⟨_, [], [], rfl, nofun, rfl⟩
  next n low high b₁ r₁ hfollow =>
    split
    · exact ⟨_, [], b₁ :: r₁, rfl, nofun, rfl⟩
    next hrange =>
      have h₁ : isContinuation b₁ = true :=
        isContinuation_of_follow? hfollow (Bool.eq_false_iff.mpr hrange)
      split
      · exact ⟨_, [b₁], r₁, rfl, by simpa using h₁, rfl⟩
      split
      · exact ⟨_, [b₁], [], rfl, by simpa using h₁, rfl⟩
      next b₂ r₂ =>
        split
        · exact ⟨_, [b₁], b₂ :: r₂, rfl, by simpa using h₁, rfl⟩
        next h₂ =>
          have h₂ : isContinuation b₂ = true := by simpa using h₂
          split
          · exact ⟨_, [b₁, b₂], r₂, rfl, by simp [h₁, h₂], rfl⟩
          split
          · exact ⟨_, [b₁, b₂], [], rfl, by simp [h₁, h₂], rfl⟩
          next b₃ r₃ =>
            split
            · exact ⟨_, [b₁, b₂], b₃ :: r₃, rfl, by simp [h₁, h₂], rfl⟩
            next h₃ =>
              have h₃ : isContinuation b₃ = true := by simpa using h₃
              exact ⟨_, [b₁, b₂, b₃], r₃, rfl, by simp [h₁, h₂, h₃], rfl⟩

/-- Bytes are read as no more characters than they have pieces. -/
theorem length_decodeLenient_le {n : Nat} {bytes : List UInt8} (h : InPieces n bytes) :
    (decodeLenient bytes).length ≤ n := by
  induction n using Nat.strongRecOn generalizing bytes with
  | ind n ih =>
    cases h with
    | nil => exact Nat.le_refl 0
    | @byte n rest b h =>
      obtain ⟨c, taken, later, rfl, htaken, hread⟩ := exists_decodeLenient_cons b rest
      obtain ⟨m, hm, hlater⟩ := h.drop htaken
      have hle := ih m (Nat.lt_succ_of_le hm) hlater
      rw [hread, List.length_cons]
      omega
    | @char n rest c h =>
      rw [decodeLenient_char, List.length_cons]
      exact Nat.succ_le_succ (ih n (Nat.lt_succ_self n) h)

end Utf8

namespace Percent

open Utf8 (InPieces)

/-! ## Texts with escapes -/

theorem lt_of_digitValue? {b : UInt8} (h : (digitValue? b).isSome = true) : b.toNat < 128 := by
  unfold digitValue? at h
  simp only [Bool.and_eq_true, decide_eq_true_eq, UInt8.le_iff_toNat_le] at h
  split at h
  · next hb =>
    have hle : b.toNat ≤ 57 := hb.2
    omega
  split at h
  · next hb =>
    have hle : b.toNat ≤ 70 := hb.2
    omega
  split at h
  · next hb =>
    have hle : b.toNat ≤ 102 := hb.2
    omega
  · contradiction

/-- A byte below 128 in front is the whole of the first character. -/
theorem exists_cons_of_flatMap {cs : List Char} {b : UInt8} {rest : List UInt8}
    (h : cs.flatMap String.utf8EncodeChar = b :: rest) (hb : b.toNat < 128) :
    ∃ c later, cs = c :: later ∧ rest = later.flatMap String.utf8EncodeChar := by
  cases cs with
  | nil => contradiction
  | cons c later =>
    refine ⟨c, later, rfl, ?_⟩
    obtain ⟨first, more, hspelled, -⟩ := Utf8.exists_utf8EncodeChar c
    rw [List.flatMap_cons, hspelled, List.cons_append] at h
    obtain ⟨rfl, hrest⟩ := List.cons.inj h
    have hnat := toNat_ofNat_of_lt hb
    have hlt : (Char.ofNat first.toNat).toNat < 128 := by rwa [hnat]
    have hmem : UInt8.ofNat (Char.ofNat first.toNat).toNat ∈ String.utf8EncodeChar c := by
      rw [hnat, UInt8.ofNat_toNat, hspelled]
      exact List.mem_cons_self
    have hc := (Utf8.mem_utf8EncodeChar_iff hlt).mp hmem
    rw [← hc, Utf8.utf8EncodeChar_of_lt hlt] at hspelled
    rw [← hrest, ← (List.cons.inj hspelled).2, List.nil_append]

/-- What a text stands for comes in no more pieces than the text has characters, and in fewer where an
escape stands in it. -/
theorem inPieces_decode (cs : List Char) :
    ∃ n, InPieces n (decode (cs.flatMap String.utf8EncodeChar)) ∧ n ≤ cs.length ∧
      (hasEscape (cs.flatMap String.utf8EncodeChar) = true → n < cs.length) := by
  induction h : cs.length using Nat.strongRecOn generalizing cs with
  | ind length ih =>
    subst h
    cases cs with
    | nil => exact ⟨0, .nil, Nat.le_refl 0, nofun⟩
    | cons c cs =>
      obtain ⟨n, hpieces, hle, hlt⟩ := ih cs.length (Nat.lt_succ_self _) cs rfl
      rw [List.flatMap_cons, List.length_cons]
      by_cases hc : c = '%'
      · subst hc
        have hpercent : String.utf8EncodeChar '%' = [37] := by decide
        rw [hpercent, List.singleton_append, hasEscape, beq_self_eq_true, Bool.true_and]
        cases hdigits : startsDigits (cs.flatMap String.utf8EncodeChar) with
        | false =>
          rw [decode_cons_of_escapes (by rw [hdigits, Bool.and_false]), Bool.false_or]
          exact ⟨n + 1, hpieces.byte 37, by omega, fun h => Nat.succ_lt_succ (hlt h)⟩
        | true =>
          obtain ⟨x, y, later, b, hbytes, hx, hy, hread⟩ := exists_decode_escape hdigits
          obtain ⟨d, ds, rfl, hds⟩ := exists_cons_of_flatMap hbytes (lt_of_digitValue? hx)
          obtain ⟨e, es, rfl, rfl⟩ := exists_cons_of_flatMap hds.symm (lt_of_digitValue? hy)
          obtain ⟨m, hm, hmle, -⟩ := ih es.length (by simp only [List.length_cons]; omega) es rfl
          rw [hread]
          simp only [List.length_cons]
          exact ⟨m + 1, hm.byte b, by omega, fun _ => by omega⟩
      · have hnot : 37 ∉ String.utf8EncodeChar c := fun hmem =>
          hc ((Utf8.mem_utf8EncodeChar_iff (c := '%') (by decide)).mp hmem).symm
        rw [decode_append hnot, hasEscape_append hnot]
        exact ⟨n + 1, hpieces.char c, by omega, fun h => Nat.succ_lt_succ (hlt h)⟩

/-- A text that is read is no longer than the text that was written, and shorter where an escape
stands in it. -/
theorem length_decodeTextLenient (cs : List Char) :
    (decodeTextLenient (cs.flatMap String.utf8EncodeChar)).toList.length ≤ cs.length ∧
      (hasEscape (cs.flatMap String.utf8EncodeChar) = true →
        (decodeTextLenient (cs.flatMap String.utf8EncodeChar)).toList.length < cs.length) := by
  obtain ⟨n, hpieces, hle, hlt⟩ := inPieces_decode cs
  have hread := Utf8.length_decodeLenient_le hpieces
  rw [decodeTextLenient, String.toList_ofList]
  exact ⟨Nat.le_trans hread hle, fun h => Nat.lt_of_le_of_lt hread (hlt h)⟩

/-- **A text without escapes is read as it is written.** -/
theorem decodeTextLenient_of_escapes {cs : List Char}
    (h : hasEscape (cs.flatMap String.utf8EncodeChar) = false) :
    decodeTextLenient (cs.flatMap String.utf8EncodeChar) = String.ofList cs := by
  rw [decodeTextLenient, decode_eq_self_iff.mpr h, Utf8.decodeLenient_flatMap]

end Percent

end Rowgate
