import Rowgate.Toml.Scalar
import Rowgate.Toml.Table
import Rowgate.Toml.Text
/-
Reading TOML documents.

A document is a sequence of lines, each a header, a key with its value, or nothing, and perhaps a
comment; a string, an array or an inline table may go on over several lines. Keys between headers
belong to the table of the last header.
-/
set_option autoImplicit false

namespace Rowgate.Toml

/-! ## Keys -/

def isBareKeyChar (c : Char) : Bool := c.isAlphanum || c == '-' || c == '_'

def skipSpaces (cs : List Char) : List Char := cs.dropWhile isSpace

/-- A key without dots: bare, or a string on one line. -/
def scanKey? (cs : List Char) : Option (String × List Char) :=
  match cs with
  | '"' :: rest => (scanBasic? (rest.length + 1) rest).map fun (k, rest) => (String.ofList k, rest)
  | '\'' :: rest => (scanLiteral? rest).map fun (k, rest) => (String.ofList k, rest)
  | cs =>
    let key := cs.takeWhile isBareKeyChar
    if key.isEmpty then none else some (String.ofList key, cs.dropWhile isBareKeyChar)

/-- How many parts a key may have, and how deep arrays and inline tables may nest. -/
def maxDepth : Nat := 80

/-- A key of at most `count` parts that are separated by dots. -/
def scanParts? (count : Nat) (cs : List Char) : Option (List String × List Char) :=
  match count with
  | 0 => none
  | count + 1 => do
    let (key, rest) ← scanKey? (skipSpaces cs)
    match skipSpaces rest with
    | '.' :: rest => do
      let (path, rest) ← scanParts? count rest
      return (key :: path, rest)
    | rest => return ([key], rest)

/-- A key, which may be dotted. -/
def scanPath? (cs : List Char) : Option (List String × List Char) := scanParts? maxDepth cs

/-! ## Values -/

/-- What is left of a line that may still hold a comment: its end and what follows. -/
def skipComment? (cs : List Char) : Option (List Char) :=
  let inLine (c : Char) : Bool := c != '\r' && c != '\n'
  match skipSpaces cs with
  | '#' :: rest =>
    if (rest.takeWhile inLine).any isControl then none else some (rest.dropWhile inLine)
  | rest => some rest

/-- Skips blanks, comments and ends of lines, from within a comment or not. -/
def skipLines? : (inComment : Bool) → List Char → Option (List Char)
  | _, [] => some []
  | _, '\r' :: '\n' :: rest => skipLines? false rest
  | true, c :: rest =>
    if c == '\n' then skipLines? false rest
    else if isControl c then none else skipLines? true rest
  | false, c :: rest =>
    if isSpace c || c == '\n' then skipLines? false rest
    else if c == '#' then skipLines? true rest else some (c :: rest)

mutual

/-- A value at the start of the characters, with `depth` containers still allowed. -/
def scanValue? : (budget depth : Nat) → List Char → Option (Value × List Char)
  | 0, _, _ => none
  | budget + 1, depth, cs =>
    match depth, cs with
    | _, '"' :: _ | _, '\'' :: _ =>
      (scanText? cs).map fun (text, rest) => (.string (String.ofList text), rest)
    | 0, '[' :: _ | 0, '\x7b' :: _ => none
    | depth + 1, '[' :: rest =>
      (scanItems? budget depth [] rest).map fun (vs, rest) => (.array vs, rest)
    | depth + 1, '\x7b' :: rest =>
      (scanPairs? budget depth [] rest).map fun (es, rest) => (.table (entriesToValues es), rest)
    | _, cs => do
      let (word, rest) := splitScalar cs
      return (← scalarValue? word, rest)

/-- The items of an array up to its bracket, behind the items `done` in reverse; a comma may stand
behind the last one. -/
def scanItems? : (budget depth : Nat) → (done : List Value) → List Char →
    Option (List Value × List Char)
  | 0, _, _, _ => none
  | budget + 1, depth, done, cs => do
    match ← skipLines? false cs with
    | ']' :: rest => return (done.reverse, rest)
    | cs => do
      let (v, rest) ← scanValue? budget depth cs
      match ← skipLines? false rest with
      | ',' :: rest => scanItems? budget depth (v :: done) rest
      | ']' :: rest => return ((v :: done).reverse, rest)
      | _ => none

/-- The keys of an inline table up to its brace, behind the entries `done`; a comma may stand behind
the last one. -/
def scanPairs? : (budget depth : Nat) → (done : Entries) → List Char →
    Option (Entries × List Char)
  | 0, _, _, _ => none
  | budget + 1, depth, done, cs => do
    match ← skipLines? false cs with
    | '\x7d' :: rest => return (done, rest)
    | cs => do
      let (path, rest) ← scanPath? cs
      match ← skipLines? false rest with
      | '=' :: rest => do
        let (v, rest) ← scanValue? budget depth (← skipLines? false rest)
        let done ← assign? v path done
        match ← skipLines? false rest with
        | ',' :: rest => scanPairs? budget depth done rest
        | '\x7d' :: rest => return (done, rest)
        | _ => none
      | _ => none

end

/-! ## Documents -/

/-- A document while it is read: its tables, and the path of the last header. -/
structure Reading where
  entries : Entries := []
  header : List String := []

/-- Reads one line without its end: a header, a key with its value, or nothing. What follows may
only be a comment. -/
def readLine? (reading : Reading) (cs : List Char) : Option (Reading × List Char) :=
  match skipSpaces cs with
  | '[' :: '[' :: rest => do
    let (path, ']' :: ']' :: rest) ← scanPath? rest | none
    return (⟨← appendTable? path reading.entries, path⟩, rest)
  | '[' :: rest => do
    let (path, ']' :: rest) ← scanPath? rest | none
    return (⟨← openTable? path reading.entries, path⟩, rest)
  | [] => some (reading, [])
  | '#' :: rest => some (reading, '#' :: rest)
  | cs => if (lineEnd? cs).isSome then some (reading, cs) else do
    let (path, '=' :: rest) ← scanPath? cs | none
    let (v, rest) ← scanValue? (2 * rest.length + 2) maxDepth (skipSpaces rest)
    return ({ reading with entries := ← within? (assign? v path) reading.header reading.entries },
      rest)

/-- Reads all lines. At most `fuel` lines are read. -/
def readLines? (fuel : Nat) (reading : Reading) (cs : List Char) : Option Reading :=
  match fuel with
  | 0 => none
  | fuel + 1 => do
    let (reading, rest) ← readLine? reading cs
    let rest ← skipComment? rest
    if rest.isEmpty then return reading
    readLines? fuel reading (← lineEnd? rest)

/-- The table that a document spells, if it is TOML. A byte order mark in front is skipped. -/
def parse? (text : String) : Option Value :=
  let cs := match text.toList with
    | '\uFEFF' :: rest => rest
    | cs => cs
  (readLines? (cs.length + 1) {} cs).map fun reading => .table (entriesToValues reading.entries)

end Rowgate.Toml
