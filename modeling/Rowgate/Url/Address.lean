import Rowgate.Text.Percent
/-
Addresses of version 6 of the internet protocol, read from their usual forms and written in the
shortest.

An address is eight numbers of 16 bits. Its text separates them by colons, in hexadecimal; one run
of zeros may be left out, and the last two numbers may stand as four decimal bytes. The written form
leaves out the longest run of at least two zeros, the first of several.
-/
set_option autoImplicit false

namespace Rowgate.Url

/-! ## Reading -/

/-- The value of up to four hexadecimal digits. -/
def hexPiece? (cs : List Char) : Option Nat := do
  if cs.isEmpty || 4 < cs.length then none
  let values ← cs.mapM fun c => if c.toNat < 128 then Percent.digitValue? c.toUInt8 else none
  return values.foldl (fun n d => 16 * n + d) 0

/-- The value of a decimal byte without a leading zero. -/
def decimalByte? (cs : List Char) : Option Nat := do
  if cs.isEmpty || !cs.all Char.isDigit || (1 < cs.length && cs.head? == some '0') then none
  let n := cs.foldl (fun n c => 10 * n + (c.toNat - '0'.toNat)) 0
  if n ≤ 255 then some n else none

/-- The two numbers that four decimal bytes spell. -/
def dottedPair? (cs : List Char) : Option (List Nat) := do
  match ← (cs.splitOn '.').mapM decimalByte? with
  | [a, b, c, d] => some [256 * a + b, 256 * c + d]
  | _ => none

/-- The numbers that pieces between colons spell; the last piece may be four decimal bytes. -/
def pieces? : List (List Char) → Option (List Nat)
  | [] => some []
  | [last] => ((hexPiece? last).map ([·])).or (dottedPair? last)
  | piece :: rest => do return (← hexPiece? piece) :: (← pieces? rest)

/-- The numbers in a text without a run left out; an empty text has none. -/
def group? (cs : List Char) : Option (List Nat) :=
  if cs.isEmpty then some [] else pieces? (cs.splitOn ':')

/-- Splits at the first pair of colons. -/
def splitAtGap : List Char → Option (List Char × List Char)
  | ':' :: ':' :: rest => some ([], rest)
  | c :: rest => (splitAtGap rest).map fun (before, after) => (c :: before, after)
  | [] => none

/-- The eight numbers of an address. -/
def readAddress? (cs : List Char) : Option (List Nat) := do
  match splitAtGap cs with
  | none =>
    let numbers ← group? cs
    if numbers.length = 8 then some numbers else none
  | some (before, after) =>
    if before.contains '.' then none
    let first ← group? before
    let last ← group? after
    if first.length + last.length < 8 then
      some (first ++ List.replicate (8 - first.length - last.length) 0 ++ last)
    else none

/-! ## Writing -/

/-- A number in hexadecimal. -/
def hexText (n : Nat) : List Char := Nat.toDigits 16 n

/-- The length of the run of zeros in front. -/
def zeroRun (numbers : List Nat) : Nat := (numbers.takeWhile (· == 0)).length

/-- The start and the length of the longest run of zeros, the first of several; `start` is the place
of the first number. -/
def longestRun (start : Nat) : List Nat → Nat × Nat
  | [] => (start, 0)
  | n :: rest =>
    let here := zeroRun (n :: rest)
    let later := longestRun (start + 1) rest
    if later.2 ≤ here then (start, here) else later

def joinColons (numbers : List Nat) : List Char :=
  (numbers.map hexText).intersperse [':'] |>.flatten

/-- The text of an address. -/
def writeAddress (numbers : List Nat) : String :=
  let (start, length) := longestRun 0 numbers
  String.ofList <|
    if length < 2 then joinColons numbers
    else joinColons (numbers.take start) ++ [':', ':'] ++ joinColons (numbers.drop (start + length))

end Rowgate.Url
