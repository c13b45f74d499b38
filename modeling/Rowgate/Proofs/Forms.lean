import Rowgate.Text.Form
import Rowgate.Proofs.Lenient
import Rowgate.Proofs.Tables
/-
The pairs of a query, by the pieces of its text.

A query is pieces with ampersands between them. Its pairs are those of the pieces that are not
empty, in their order (`Form.pairs_intercalate`), whatever the pieces hold. A piece that is a plain
key, an equals sign and a plain value is the pair of the two: plain texts consist of characters
below 128 other than the percent sign and the plus sign, which alone stand for something else.
-/
set_option autoImplicit false

namespace Rowgate.Form

/-! ## Plain texts -/

/-- The characters that stand for themselves in keys and values. -/
def isPlain (c : Char) : Bool := c.toNat < 128 && c != '%' && c != '+'

section Plain

variable {s : String}

/-- The bytes of a plain text hold none that stands for something else. -/
theorem notMem_encode {c : Char} (hc : c.toNat < 128) (hplain : isPlain c = false)
    (h : s.toList.all isPlain = true) : UInt8.ofNat c.toNat ∉ Utf8.encode s := by
  intro hmem
  have hc := List.all_eq_true.mp h c ((Utf8.mem_encode_iff hc s).mp hmem)
  rw [hplain] at hc
  contradiction

/-- A plain text stands for itself. -/
theorem decodePart_encode (h : s.toList.all isPlain = true) :
    decodePart (Utf8.encode s) = s := by
  have hplus : (43 : UInt8) ∉ Utf8.encode s := notMem_encode (c := '+') (by decide) (by decide) h
  have hpercent : (37 : UInt8) ∉ Utf8.encode s :=
    notMem_encode (c := '%') (by decide) (by decide) h
  have hkeep : (Utf8.encode s).map (fun b => if b = 43 then 32 else b) = Utf8.encode s := by
    refine (List.map_congr_left fun b hb => ?_).trans (List.map_id _)
    have hne : b ≠ 43 := fun heq => hplus (heq ▸ hb)
    rw [if_neg hne]
    rfl
  rw [decodePart, hkeep, Percent.decodeTextLenient, Percent.decode_of_notMem hpercent,
    Utf8.encode_eq, Utf8.decodeLenient_flatMap, String.ofList_toList]

end Plain

/-- A plain key in front of an equals sign is the key, whatever bytes stand behind. -/
theorem decodePair_append {key : String} (hkey : key.toList.all isPlain = true)
    (hequals : '=' ∉ key.toList) (bytes : List UInt8) :
    decodePair (Utf8.encode key ++ 61 :: bytes) = (key, decodePart bytes) := by
  have hpass : ∀ b ∈ Utf8.encode key, (b != 61) = true := by
    intro b hb
    have hnot : (61 : UInt8) ∉ Utf8.encode key := fun hmem =>
      hequals ((Utf8.mem_encode_iff (c := '=') (by decide) key).mp hmem)
    have hne : b ≠ 61 := fun heq => hnot (heq ▸ hb)
    simp [hne]
  rw [decodePair, List.takeWhile_append_of_pos hpass, List.dropWhile_append_of_pos hpass]
  simp [decodePart_encode hkey]

/-- A plain key, an equals sign and a plain value are the pair of the two. -/
theorem decodePair_encode {key value : String} (hkey : key.toList.all isPlain = true)
    (hequals : '=' ∉ key.toList) (hvalue : value.toList.all isPlain = true) :
    decodePair (Utf8.encode (key ++ "=" ++ value)) = (key, value) := by
  have hbytes : Utf8.encode (key ++ "=" ++ value) = Utf8.encode key ++ 61 :: Utf8.encode value := by
    rw [Utf8.encode_append, Utf8.encode_append, List.append_assoc]
    rfl
  rw [hbytes, decodePair_append hkey hequals, decodePart_encode hvalue]

/-! ## Pieces -/

/-- The pair of a piece of a query. -/
def pairOf (piece : String) : String × String := decodePair (Utf8.encode piece)

theorem splitAt_encode {pieces : List String} (hpieces : pieces ≠ [])
    (h : ∀ piece ∈ pieces, '&' ∉ piece.toList) :
    splitAt 38 (Utf8.encode (String.intercalate "&" pieces)) = pieces.map Utf8.encode := by
  have hsep : Utf8.encode "&" = [38] := by decide +kernel
  rw [Utf8.encode_intercalate, hsep]
  refine List.splitOn_intercalate 38 (fun bytes hbytes => ?_) (by simpa using hpieces)
  obtain ⟨piece, hpiece, rfl⟩ := List.mem_map.mp hbytes
  intro hmem
  exact h piece hpiece ((Utf8.mem_encode_iff (c := '&') (by decide) piece).mp hmem)

/-- The pairs of a query are those of its pieces that are not empty. -/
theorem pairs_intercalate {pieces : List String} (h : ∀ piece ∈ pieces, '&' ∉ piece.toList) :
    pairs (String.intercalate "&" pieces) =
      (pieces.filter fun piece => !(Utf8.encode piece).isEmpty).map pairOf := by
  by_cases hpieces : pieces = []
  · subst hpieces
    decide +kernel
  · rw [pairs, splitAt_encode hpieces h, List.filter_map, List.map_map]
    rfl

end Rowgate.Form
