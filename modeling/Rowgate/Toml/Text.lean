import Rowgate.Json.Parser
/-
Strings of TOML: between double quotes with escapes, or between single quotes as they are; on one
line, or between tripled quotes on several. The end of a line within tripled quotes is kept as it is
written.
-/
set_option autoImplicit false

namespace Rowgate.Toml

/-- Control characters other than the tab, which may not stand in a document. -/
def isControl (c : Char) : Bool := (c.toNat < 0x20 && c != '\t') || c.toNat == 0x7F

/-- Blanks within a line. -/
def isSpace (c : Char) : Bool := c == ' ' || c == '\t'

/-- What follows the end of a line: a line feed, with or without a carriage return before it. -/
def lineEnd? : List Char → Option (List Char)
  | '\n' :: rest => some rest
  | '\r' :: '\n' :: rest => some rest
  | _ => none

/-- The character that hexadecimal digits spell, if it is one. -/
def scalar? (digits : List Char) : Option Char := do
  let values ← digits.mapM Json.hexValue?
  let n := values.foldl (fun n d => 16 * n + d) 0
  if n < 0xD800 ∨ (0xDFFF < n ∧ n < 0x110000) then some (Char.ofNat n) else none

/-- What a single letter behind a backslash stands for. -/
def unescape? : Char → Option Char
  | 'b' => some '\x08'
  | 't' => some '\t'
  | 'n' => some '\n'
  | 'f' => some '\x0c'
  | 'r' => some '\r'
  | 'e' => some '\x1b'
  | '"' => some '"'
  | '\\' => some '\\'
  | _ => none

/-- The character that exactly `count` hexadecimal digits spell, and what follows them. -/
def scanScalar? (count : Nat) (cs : List Char) : Option (Char × List Char) :=
  if cs.length < count then none else (scalar? (cs.take count)).map (·, cs.drop count)

/-- The character of an escape, and what follows it. -/
def scanEscape? : List Char → Option (Char × List Char)
  | 'x' :: rest => scanScalar? 2 rest
  | 'u' :: rest => scanScalar? 4 rest
  | 'U' :: rest => scanScalar? 8 rest
  | c :: rest => (unescape? c).map (·, rest)
  | [] => none

/-- The rest of a text behind its opening mark. At most `fuel` characters are read. -/
abbrev TextScanner := (fuel : Nat) → List Char → Option (List Char × List Char)

/-- Between double quotes on one line. -/
def scanBasic? : TextScanner
  | 0, _ => none
  | _, [] => none
  | fuel + 1, c :: rest =>
    if c == '"' then some ([], rest)
    else if c == '\\' then do
      let (e, rest) ← scanEscape? rest
      let (text, rest) ← scanBasic? fuel rest
      return (e :: text, rest)
    else if isControl c then none
    else (scanBasic? fuel rest).map fun (text, rest) => (c :: text, rest)

/-- Between single quotes on one line. -/
def scanLiteral? (cs : List Char) : Option (List Char × List Char) :=
  let text := cs.takeWhile (· != '\'')
  match cs.dropWhile (· != '\'') with
  | _ :: rest => if text.any isControl then none else some (text, rest)
  | [] => none

/-- How many times the quote stands in front, up to five. -/
def quoteRun (quote : Char) (cs : List Char) : Nat := ((cs.take 5).takeWhile (· == quote)).length

/-- Drops blanks and ends of lines. -/
def dropBlank : List Char → List Char
  | '\r' :: '\n' :: rest => dropBlank rest
  | c :: rest => if isSpace c || c == '\n' then dropBlank rest else c :: rest
  | [] => []

/-- What follows the blanks and ends of lines that a backslash at the end of a line takes away. -/
def skipContinuation? (cs : List Char) : Option (List Char) :=
  (lineEnd? (cs.dropWhile isSpace)).map dropBlank

/-- Between tripled quotes; up to two quotes may stand before the closing three. Escapes are read if
`escapes` says so. -/
def scanTripled? (quote : Char) (escapes : Bool) : TextScanner
  | 0, _ => none
  | _, [] => none
  | fuel + 1, c :: rest =>
    let run := quoteRun quote (c :: rest)
    if 3 ≤ run then some (List.replicate (run - 3) quote, (c :: rest).drop run)
    else if escapes && c == '\\' then
      match skipContinuation? rest with
      | some rest => scanTripled? quote escapes fuel rest
      | none => do
        let (e, rest) ← scanEscape? rest
        let (text, rest) ← scanTripled? quote escapes fuel rest
        return (e :: text, rest)
    else if isControl c && (lineEnd? (c :: rest)).isNone then none
    else (scanTripled? quote escapes fuel rest).map fun (text, rest) => (c :: text, rest)

/-- Drops the end of the line right behind an opening mark. -/
def dropFirstLineEnd (cs : List Char) : List Char := (lineEnd? cs).getD cs

/-- A string of any kind at the start of the characters. -/
def scanText? (cs : List Char) : Option (List Char × List Char) :=
  match cs with
  | '"' :: '"' :: '"' :: rest =>
    scanTripled? '"' true (rest.length + 1) (dropFirstLineEnd rest)
  | '\'' :: '\'' :: '\'' :: rest =>
    scanTripled? '\'' false (rest.length + 1) (dropFirstLineEnd rest)
  | '"' :: rest => scanBasic? (rest.length + 1) rest
  | '\'' :: rest => scanLiteral? rest
  | _ => none

end Rowgate.Toml
