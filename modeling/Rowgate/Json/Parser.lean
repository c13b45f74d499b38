import Rowgate.Json.Numeral
/-
Reading JSON text.

The grammar is strict: no comments, no trailing comma, no leading zero, no lone surrogate, nothing
but blanks after the value. Containers may nest `maxDepth` deep. Each call of the mutual readers
uses up one unit of a budget that is twice the length of the text, and every second call reads a
character, so the budget does not run out before the text does.
-/
set_option autoImplicit false

namespace Rowgate.Json

/-- How many containers may stand inside one another. -/
def maxDepth : Nat := 127

/-- The blanks between tokens. -/
def isBlank (c : Char) : Bool := c == ' ' || c == '\n' || c == '\t' || c == '\r'

def skipBlank (cs : List Char) : List Char := cs.dropWhile isBlank

/-! ## Strings -/

/-- The value of a hexadecimal digit of either case. -/
def hexValue? (c : Char) : Option Nat :=
  if c.isDigit then some (c.toNat - '0'.toNat)
  else if 'a' ≤ c && c ≤ 'f' then some (c.toNat - 'a'.toNat + 10)
  else if 'A' ≤ c && c ≤ 'F' then some (c.toNat - 'A'.toNat + 10)
  else none

/-- The 16-bit unit that four hexadecimal digits spell. -/
def unit? (a b c d : Char) : Option Nat := do
  return ((16 * (← hexValue? a) + (← hexValue? b)) * 16 + (← hexValue? c)) * 16 + (← hexValue? d)

/-- What a single letter behind a backslash stands for. -/
def unescape? : Char → Option Char
  | '"' => some '"'
  | '\\' => some '\\'
  | '/' => some '/'
  | 'b' => some '\x08'
  | 'f' => some '\x0c'
  | 'n' => some '\n'
  | 'r' => some '\r'
  | 't' => some '\t'
  | _ => none

/-- The rest of a string after its opening quote, behind the characters `done` in reverse. -/
def scanString? (done : List Char) : List Char → Option (String × List Char)
  | [] => none
  | '"' :: rest => some (String.ofList done.reverse, rest)
  | '\\' :: 'u' :: a :: b :: c :: d :: rest =>
    match unit? a b c d with
    | none => none
    | some u =>
      if u < 0xD800 ∨ 0xDFFF < u then scanString? (Char.ofNat u :: done) rest
      else if 0xDC00 ≤ u then none
      else match rest with
        | '\\' :: 'u' :: a :: b :: c :: d :: rest' =>
          match unit? a b c d with
          | none => none
          | some v =>
            if v < 0xDC00 ∨ 0xDFFF < v then none
            else
              let point := 0x10000 + (u - 0xD800) * 0x400 + (v - 0xDC00)
              scanString? (Char.ofNat point :: done) rest'
        | _ => none
  | '\\' :: c :: rest =>
    match unescape? c with
    | some e => scanString? (e :: done) rest
    | none => none
  | c :: rest => if c.toNat < 0x20 || c == '\\' then none else scanString? (c :: done) rest

/-! ## Values -/

mutual

/-- A value at the start of the characters, with `depth` containers still allowed. -/
def scanValue? : (budget depth : Nat) → List Char → Option (Json × List Char)
  | 0, _, _ => none
  | budget + 1, depth, cs =>
    match skipBlank cs with
    | 'n' :: 'u' :: 'l' :: 'l' :: rest => some (.null, rest)
    | 't' :: 'r' :: 'u' :: 'e' :: rest => some (.bool true, rest)
    | 'f' :: 'a' :: 'l' :: 's' :: 'e' :: rest => some (.bool false, rest)
    | '"' :: rest => (scanString? [] rest).map fun (s, r) => (.string s, r)
    | '[' :: rest =>
      match depth, skipBlank rest with
      | 0, _ => none
      | _ + 1, ']' :: rest => some (.array [], rest)
      | depth + 1, rest => (scanItems? budget depth [] rest).map fun (vs, r) => (.array vs, r)
    | '\x7b' :: rest =>
      match depth, skipBlank rest with
      | 0, _ => none
      | _ + 1, '\x7d' :: rest => some (.object [], rest)
      | depth + 1, rest =>
        (scanMembers? budget depth [] rest).map fun (ms, r) => (.object (Keyed.ofPairs ms), r)
    | rest =>
      match scanNumeral? rest with
      | none => none
      | some (n, rest) => n.value?.map fun v => (v, rest)

/-- The items of an array up to its bracket, behind the items `done` in reverse. -/
def scanItems? : (budget depth : Nat) → (done : List Json) → List Char →
    Option (List Json × List Char)
  | 0, _, _, _ => none
  | budget + 1, depth, done, cs =>
    match scanValue? budget depth cs with
    | none => none
    | some (v, rest) =>
      match skipBlank rest with
      | ',' :: rest => scanItems? budget depth (v :: done) rest
      | ']' :: rest => some ((v :: done).reverse, rest)
      | _ => none

/-- The members of an object up to its brace, behind the members `done` in reverse. -/
def scanMembers? : (budget depth : Nat) → (done : List (String × Json)) → List Char →
    Option (List (String × Json) × List Char)
  | 0, _, _, _ => none
  | budget + 1, depth, done, cs =>
    match skipBlank cs with
    | '"' :: rest =>
      match scanString? [] rest with
      | none => none
      | some (key, rest) =>
        match skipBlank rest with
        | ':' :: rest =>
          match scanValue? budget depth rest with
          | none => none
          | some (v, rest) =>
            match skipBlank rest with
            | ',' :: rest => scanMembers? budget depth ((key, v) :: done) rest
            | '\x7d' :: rest => some (((key, v) :: done).reverse, rest)
            | _ => none
        | _ => none
    | _ => none

end

/-- The value that a text spells, if it is JSON. -/
def parse? (text : String) : Option Json :=
  let cs := text.toList
  match scanValue? (2 * cs.length + 2) maxDepth cs with
  | some (v, rest) => if (skipBlank rest).isEmpty then some v else none
  | none => none

/-- The value that bytes spell, if they are JSON in UTF-8. -/
def parseBytes? (bytes : List UInt8) : Option Json :=
  (String.fromUTF8? bytes.toByteArray).bind parse?

end Rowgate.Json
