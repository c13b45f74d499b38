import Rowgate.Text.Utf8
/-
Percent coding of bytes.

`encode` keeps letters, digits and the four marks `-`, `.`, `_`, `~`, and writes every other byte
as a percent sign and two upper case hexadecimal digits. `decode` undoes it; a percent sign that no
two hexadecimal digits follow stands for itself. So an encoded text holds none of the delimiters of
a URL, and reading it back gives the bytes that were written.
-/
set_option autoImplicit false

namespace Rowgate.Percent

/-! ## Hexadecimal digits -/

/-- The upper case digit of a number below sixteen. -/
def digit (n : Nat) : Char :=
  if n < 10 then Char.ofNat (48 + n) else Char.ofNat (55 + n)

/-- The value of a hexadecimal digit of either case. -/
def digitValue? (b : UInt8) : Option Nat :=
  if 48 ≤ b && b ≤ 57 then some (b.toNat - 48)
  else if 65 ≤ b && b ≤ 70 then some (b.toNat - 55)
  else if 97 ≤ b && b ≤ 102 then some (b.toNat - 87)
  else none

/-! ## Writing and reading -/

/-- Bytes that stand for themselves. -/
def isUnreserved (b : UInt8) : Bool :=
  let c := Char.ofNat b.toNat
  b < 128 && (c.isAlphanum || c == '-' || c == '.' || c == '_' || c == '~')

/-- The written form of one byte. -/
def encodeByte (b : UInt8) : List Char :=
  if isUnreserved b then [Char.ofNat b.toNat]
  else ['%', digit (b.toNat / 16), digit (b.toNat % 16)]

/-- The percent-encoded form of a text's bytes. -/
def encode (s : String) : String :=
  String.ofList ((Utf8.encode s).flatMap encodeByte)

/-- The bytes that a percent-encoded text stands for. -/
def decode : List UInt8 → List UInt8
  | [] => []
  | b :: rest =>
    if b ≠ 37 then b :: decode rest else
    match rest with
    | h :: l :: rest' =>
      match digitValue? h, digitValue? l with
      | some x, some y => UInt8.ofNat (16 * x + y) :: decode rest'
      | _, _ => 37 :: decode (h :: l :: rest')
    | [h] => [37, h]
    | [] => [37]

/-- The text that a percent-encoded text stands for, if its bytes spell one. -/
def decodeText? (s : String) : Option String :=
  Utf8.decode? (decode (Utf8.encode s))

/-- The text that a percent-encoded text stands for, read leniently. -/
def decodeTextLenient (bytes : List UInt8) : String :=
  String.ofList (Utf8.decodeLenient (decode bytes))

end Rowgate.Percent
