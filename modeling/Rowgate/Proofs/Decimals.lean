import Rowgate.Proofs.Letters
import Rowgate.Text.Integer
/-
Decimal texts of integers are read back.

A range reads from a text the number that the text spells, and nothing from a text that spells no
number of the range (`read?_eq_some_iff`). The digits of a natural number spell the number, and a
minus sign in front of them its opposite. So a range reads the decimal text of each of its numbers as
that number.
-/
set_option autoImplicit false

namespace Rowgate.Text.IntegerRange

/-! ## Numbers that texts spell -/

/-- Decimal digits, at least one. -/
def Digits (ds : List Char) : Prop := ds ≠ [] ∧ ∀ c ∈ ds, c.isDigit = true

instance (ds : List Char) : Decidable (Digits ds) :=
  decidable_of_iff (ds.isEmpty = false ∧ ds.all Char.isDigit = true) (by simp [Digits])

/-- The number of a range that a text spells. -/
inductive Spells (range : IntegerRange) (s : String) : Int → Prop where
  /-- digits, perhaps behind a plus sign -/
  | unsigned {ds : List Char} (htext : s.toList = ds ∨ s.toList = '+' :: ds) (hdigits : Digits ds)
    (hrange : range.contains (Nat.ofDigitChars 10 ds 0) = true) :
    Spells range s (Nat.ofDigitChars 10 ds 0)
  /-- digits behind a minus sign, if the range has negative numbers -/
  | negative {ds : List Char} (htext : s.toList = '-' :: ds) (hdigits : Digits ds)
    (hleast : range.least < 0) (hrange : range.contains (-(Nat.ofDigitChars 10 ds 0)) = true) :
    Spells range s (-(Nat.ofDigitChars 10 ds 0))

/-- Digits start with no sign. -/
theorem Digits.ne_sign {ds cs : List Char} {sign : Char} (h : Digits ds)
    (hsign : sign.isDigit = false) : ds ≠ sign :: cs := by
  rintro rfl
  rw [h.2 sign List.mem_cons_self] at hsign
  contradiction

theorem readDigits?_eq_some_iff {ds : List Char} {n : Nat} :
    readDigits? ds = some n ↔ Digits ds ∧ n = Nat.ofDigitChars 10 ds 0 := by
  have hdigits : (ds.isEmpty || !ds.all Char.isDigit) = false ↔ Digits ds := by
    simp [Digits]
  unfold readDigits?
  by_cases h : Digits ds
  · rw [hdigits.mpr h, Nat.ofDigitChars_eq_foldl]
    simp [h, eq_comm]
  · rw [eq_true_of_ne_false fun hfalse => h (hdigits.mp hfalse)]
    simp [h]

/-- A number that is made of digits that were read. -/
theorem exists_of_readDigits? {ds : List Char} {g : Int → Int} {n : Int}
    (h : ((readDigits? ds).bind fun m => some (m : Int)).map g = some n) :
    Digits ds ∧ n = g (Nat.ofDigitChars 10 ds 0) := by
  obtain ⟨k, hk, rfl⟩ := Option.map_eq_some_iff.mp h
  obtain ⟨m, hm, hkm⟩ := Option.bind_eq_some_iff.mp hk
  obtain rfl := Option.some.inj hkm
  obtain ⟨hdigits, rfl⟩ := readDigits?_eq_some_iff.mp hm
  exact ⟨hdigits, rfl⟩

/-- **A range reads from a text the number that the text spells.** -/
theorem read?_eq_some_iff {range : IntegerRange} {s : String} {n : Int} :
    range.read? s = some n ↔ Spells range s n := by
  unfold read?
  simp only [Option.filter_eq_some_iff]
  constructor
  · rintro ⟨hread, hrange⟩
    split at hread
    · rename_i ds htext
      obtain ⟨hdigits, rfl⟩ := exists_of_readDigits? hread
      exact .unsigned (.inr htext) hdigits hrange
    · rename_i ds htext
      split at hread
      · rename_i hleast
        obtain ⟨hdigits, rfl⟩ := exists_of_readDigits? hread
        exact .negative htext hdigits hleast hrange
      · contradiction
    · obtain ⟨hdigits, rfl⟩ := exists_of_readDigits? hread
      exact .unsigned (.inl rfl) hdigits hrange
  · intro h
    cases h with
    | unsigned htext hdigits hrange =>
      refine ⟨?_, hrange⟩
      have hread := readDigits?_eq_some_iff.mpr ⟨hdigits, rfl⟩
      split
      · rename_i ds htext'
        rcases htext with htext | htext
        · exact absurd (htext.symm.trans htext') (hdigits.ne_sign rfl)
        · obtain rfl := (List.cons.inj (htext.symm.trans htext')).2
          rw [hread]
          rfl
      · rename_i ds htext'
        rcases htext with htext | htext
        · exact absurd (htext.symm.trans htext') (hdigits.ne_sign rfl)
        · exact absurd (List.cons.inj (htext.symm.trans htext')).1 (by decide)
      · rename_i hplus _
        rcases htext with htext | htext
        · rw [htext, hread]
          rfl
        · exact absurd htext (hplus _)
    | negative htext hdigits hleast hrange =>
      refine ⟨?_, hrange⟩
      have hread := readDigits?_eq_some_iff.mpr ⟨hdigits, rfl⟩
      simp only [htext, if_pos hleast, hread]
      rfl

/-! ## Decimal texts -/

/-- The digits of a natural number are its decimals. -/
theorem digits_toString (n : Nat) :
    Digits (toString n).toList ∧ Nat.ofDigitChars 10 (toString n).toList 0 = n := by
  rw [Nat.toString_eq_repr, Nat.toList_repr]
  refine ⟨⟨Nat.toDigits_ne_nil, fun c hc => ?_⟩, Nat.ofDigitChars_ten_toDigits⟩
  exact Nat.isDigit_of_mem_toDigits (by decide) (by decide) hc

/-- **A range reads the decimal text of each of its numbers.** -/
theorem read?_toString {range : IntegerRange} {n : Int} (h : range.contains n = true) :
    range.read? (toString n) = some n := by
  rw [read?_eq_some_iff]
  by_cases hsign : 0 ≤ n
  · obtain ⟨m, rfl⟩ := Int.eq_ofNat_of_zero_le hsign
    obtain ⟨hdigits, hvalue⟩ := digits_toString m
    have htext : (toString (m : Int)).toList = (toString m).toList := rfl
    have hspells := Spells.unsigned (.inl htext) hdigits (by rwa [hvalue])
    rwa [hvalue] at hspells
  -- a negative number is in the range, so the range takes a minus sign
  · obtain ⟨m, rfl⟩ : ∃ m : Nat, n = -(m : Int) := ⟨n.natAbs, by omega⟩
    obtain ⟨hdigits, hvalue⟩ := digits_toString m
    have hleast : range.least < 0 := by
      simp only [contains, Bool.and_eq_true, decide_eq_true_eq] at h
      omega
    have htext : (toString (-(m : Int))).toList = '-' :: (toString m).toList := by
      have hnat : (- -(m : Int)).toNat = m := by omega
      rw [Int.toString_eq_repr, Int.repr_eq_if, if_neg hsign, hnat, String.toList_append]
      rfl
    have hspells := Spells.negative htext hdigits hleast (by rwa [hvalue])
    rwa [hvalue] at hspells

end Rowgate.Text.IntegerRange
