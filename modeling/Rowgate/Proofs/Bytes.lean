import Mathlib.Data.List.Basic
import Rowgate.Text.Utf8
/-
The bytes of a text.

The bytes of a text are those of its characters, one character after the other. A byte below 128 is
the whole of one character. Texts are ordered by their characters as they are ordered by their
bytes, since of two characters the greater has the greater spelling, whatever follows the two
(`Utf8.encode_lt_iff`).
-/
set_option autoImplicit false

namespace Rowgate.Utf8

theorem encode_eq (s : String) : encode s = s.toList.flatMap String.utf8EncodeChar := by
  rw [encode, String.toUTF8_eq_toByteArray, ← String.utf8Encode_toList]
  simp [List.utf8Encode]

@[simp] theorem encode_append (s t : String) : encode (s ++ t) = encode s ++ encode t := by
  simp [encode_eq]

theorem encode_intercalate (separator : String) (parts : List String) :
    encode (separator.intercalate parts) = (encode separator).intercalate (parts.map encode) := by
  induction parts with
  | nil => rfl
  | cons part parts ih =>
    cases parts with
    | nil => rw [String.intercalate_singleton, List.map_singleton, List.intercalate_singleton]
    | cons next parts =>
      rw [String.intercalate_cons_cons, List.map_cons, List.map_cons, List.intercalate_cons_cons,
        encode_append, encode_append, ih, List.map_cons, List.append_assoc]

/-- Bytes that spell a text are the bytes of it. -/
theorem encode_of_decode? {bytes : List UInt8} {s : String} (h : decode? bytes = some s) :
    encode s = bytes := by
  unfold decode? String.fromUTF8? at h
  split at h
  · obtain rfl := Option.some.inj h
    simp [encode, String.fromUTF8, String.toUTF8]
  · contradiction

/-- The bytes of a text spell the text. -/
theorem decode?_encode (s : String) : decode? (encode s) = some s := by
  have hbytes : (encode s).toByteArray = s.toByteArray := by
    apply ByteArray.ext
    simp [encode]
  unfold decode? String.fromUTF8?
  rw [hbytes, dif_pos s.isValidUTF8]
  rfl

/-! ## Order -/

/-- Numbers are ordered by their digits to the base 64, the leading one first. -/
theorem sextets_lt {m n : Nat} (h : m < n) :
    m / 262144 < n / 262144 ∨ m / 262144 = n / 262144 ∧
      (m / 4096 % 64 < n / 4096 % 64 ∨ m / 4096 % 64 = n / 4096 % 64 ∧
        (m / 64 % 64 < n / 64 % 64 ∨ m / 64 % 64 = n / 64 % 64 ∧ m % 64 < n % 64)) := by
  by_cases h18 : m / 262144 = n / 262144
  · by_cases h12 : m / 4096 % 64 = n / 4096 % 64
    · by_cases h6 : m / 64 % 64 = n / 64 % 64
      · have hlast : m % 64 < n % 64 := by omega
        exact .inr ⟨h18, .inr ⟨h12, .inr ⟨h6, hlast⟩⟩⟩
      · have hthird : m / 64 % 64 < n / 64 % 64 := by omega
        exact .inr ⟨h18, .inr ⟨h12, .inl hthird⟩⟩
    · have hsecond : m / 4096 % 64 < n / 4096 % 64 := by omega
      exact .inr ⟨h18, .inl hsecond⟩
  · have hfirst : m / 262144 < n / 262144 := by omega
    exact .inl hfirst

/-- The greater character has the greater spelling, whatever follows. -/
theorem utf8EncodeChar_lt {c d : Char} (h : c < d) (xs ys : List UInt8) :
    String.utf8EncodeChar c ++ xs < String.utf8EncodeChar d ++ ys := by
  have hlt : c.val.toNat < d.val.toNat := h
  have hmax : d.val.toNat < 0x110000 := by
    rcases d.valid with h | ⟨_, h⟩ <;> (change d.val.toNat < _ at h; omega)
  unfold String.utf8EncodeChar
  dsimp only
  repeat' split
  -- where one of the two takes fewer than four bytes, the bytes are compared as numbers
  all_goals
    simp only [List.cons_append, List.nil_append, List.cons_lt_cons_iff, UInt8.lt_iff_toNat_lt,
      ← UInt8.toNat_inj, UInt8.toNat_ofNat']
    try omega
  · have hlead {k : Nat} (hk : k < 0x110000) :
        (k / 262144 % 8 + 240) % 2 ^ 8 = k / 262144 + 240 := by omega
    have hnext (k : Nat) : (k % 64 + 128) % 2 ^ 8 = k % 64 + 128 := by omega
    have hsextets := sextets_lt hlt
    rw [hlead hmax, hlead (Nat.lt_trans hlt hmax)]
    simp only [hnext, Nat.add_lt_add_iff_right, Nat.add_right_cancel_iff]
    grind

theorem flatMap_utf8EncodeChar_lt {cs ds : List Char} (h : cs < ds) :
    cs.flatMap String.utf8EncodeChar < ds.flatMap String.utf8EncodeChar := by
  induction cs generalizing ds with
  | nil =>
    cases ds with
    | nil => exact absurd h (List.lt_irrefl [])
    | cons d ds =>
      rw [List.flatMap_nil, List.flatMap_cons]
      unfold String.utf8EncodeChar
      dsimp only
      repeat' split
      all_goals exact List.nil_lt_cons _ _
  | cons c cs ih =>
    cases ds with
    | nil => exact absurd h (List.not_lt_nil _)
    | cons d ds =>
      rw [List.flatMap_cons, List.flatMap_cons]
      rcases List.cons_lt_cons_iff.mp h with hlt | ⟨rfl, hlt⟩
      · exact utf8EncodeChar_lt hlt _ _
      · exact List.append_left_lt (ih hlt)

/-- The order of texts is the order of their bytes. -/
theorem encode_lt_iff (s t : String) : encode s < encode t ↔ s < t := by
  have hmono {a b : String} (h : a < b) : encode a < encode b := by
    rw [encode_eq, encode_eq]
    exact flatMap_utf8EncodeChar_lt h
  constructor
  · intro h
    rcases Std.lt_trichotomy s t with hlt | rfl | hgt
    · exact hlt
    · exact absurd h (List.lt_irrefl _)
    · exact absurd (hmono hgt) (List.lt_asymm h)
  · exact hmono

/-! ## Bytes of single characters -/

theorem utf8EncodeChar_of_lt {c : Char} (h : c.toNat < 128) :
    String.utf8EncodeChar c = [UInt8.ofNat c.toNat] := by
  have hle : c.val.toNat ≤ 127 := by
    change c.toNat ≤ 127
    omega
  unfold String.utf8EncodeChar
  simp only [hle, if_true]
  rfl

/-- A byte below 128 stands for a character and is never part of another one. -/
theorem mem_utf8EncodeChar_iff {c d : Char} (hc : c.toNat < 128) :
    UInt8.ofNat c.toNat ∈ String.utf8EncodeChar d ↔ c = d := by
  have heq : c = d ↔ c.toNat = d.val.toNat := by
    rw [← Char.toNat_inj]
    rfl
  rw [heq]
  unfold String.utf8EncodeChar
  dsimp only
  repeat' split
  all_goals
    simp only [List.mem_cons, List.not_mem_nil, ← UInt8.toNat_inj, UInt8.toNat_ofNat', or_false]
    omega

theorem mem_encode_iff {c : Char} (hc : c.toNat < 128) (s : String) :
    UInt8.ofNat c.toNat ∈ encode s ↔ c ∈ s.toList := by
  simp [encode_eq, mem_utf8EncodeChar_iff hc]

theorem encode_of_lt {s : String} (h : ∀ c ∈ s.toList, c.toNat < 128) :
    encode s = s.toList.map fun c => UInt8.ofNat c.toNat := by
  rw [encode_eq]
  generalize s.toList = cs at h
  induction cs with
  | nil => rfl
  | cons c cs ih =>
    have hc : c.toNat < 128 := h c List.mem_cons_self
    rw [List.flatMap_cons, utf8EncodeChar_of_lt hc, ih fun d hd => h d (List.mem_cons_of_mem _ hd)]
    rfl

end Rowgate.Utf8
