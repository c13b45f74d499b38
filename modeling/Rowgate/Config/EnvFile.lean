import Rowgate.Keyed
import Rowgate.Text.Utf8
import Rowgate.Text.Word
/-
Files of environment variables.

Each line gives one variable its value; a quoted value may go on over several lines. A file only
supplies what is missing: a variable that is set already keeps its value, be it set before the file
is read or by an earlier line. A value may name variables, and takes what they hold at that point.
-/
set_option autoImplicit false

namespace Rowgate.Config

/-- The variables that are set, with their values. -/
abbrev Environment := Keyed String

/-- The variables of a process, with the bytes that they hold. -/
abbrev ProcessEnvironment := Keyed (List UInt8)

/-- The variables that hold texts. To read any other fails, so it is as if it were not set. -/
def ProcessEnvironment.readable (env : ProcessEnvironment) : Environment :=
  env.filterMap fun (key, bytes) => (Utf8.decode? bytes).map fun value => (key, value)

namespace EnvFile

/-! ## Lines -/

/-- Where in a line a reader stands that only looks for its end. -/
inductive Mode where
  | plain
  | blank
  | escape
  | strong
  | strongEscape
  | weak
  | weakEscape
deriving DecidableEq, Repr

/-- The place behind a character. -/
def Mode.next : Mode → Char → Mode
  | .plain, c =>
    if Text.isBlank c && c != '\n' && c != '\r' then .blank
    else if c == '\\' then .escape
    else if c == '"' then .weak
    else if c == '\'' then .strong
    else .plain
  | .blank, c =>
    if c == '\\' then .escape
    else if c == '"' then .weak
    else if c == '\'' then .strong
    else .plain
  | .escape, _ => .plain
  | .weak, c => if c == '\\' then .weakEscape else if c == '"' then .plain else .weak
  | .weakEscape, _ => .weak
  | .strong, c => if c == '\\' then .strongEscape else if c == '\'' then .plain else .strong
  | .strongEscape, _ => .strong

/-- Reads on to the end of a line, or to a comment behind a blank: what was read, and the place
there; none at a comment. -/
def scanLine : Mode → List Char → List Char × Option Mode
  | mode, [] => ([], some mode)
  | mode, c :: rest =>
    if mode == .blank && c == '#' then ([], none)
    else
      let (text, last) := scanLine (mode.next c) rest
      (c :: text, last)

/-- The physical lines of a text, each with its line feed. -/
def splitLines (cs : List Char) : List (List Char) :=
  let lines := cs.splitOn '\n'
  lines.dropLast.map (· ++ ['\n']) ++ (lines.getLast?.filter (!·.isEmpty)).toList

/-- A line without its end. -/
def chomp (cs : List Char) : List Char :=
  match cs.reverse with
  | '\n' :: '\r' :: rest => rest.reverse
  | '\n' :: rest => rest.reverse
  | _ => cs

/-- The logical lines: a line whose end lies within quotes goes on in the next. The text before is
`started`. A line that starts with a number sign is empty. -/
def joinLines (started : List Char) (mode : Mode) : List (List Char) → Option (List (List Char))
  | [] => if mode = .plain then some [] else none
  | line :: rest =>
    let whole := started ++ line
    if (whole.dropWhile Text.isBlank).head? = some '#' then
      (joinLines [] .plain rest).map ([] :: ·)
    else
      match scanLine mode line with
      | (text, none) => (joinLines [] .plain rest).map ((started ++ text) :: ·)
      | (_, some .plain) => (joinLines [] .plain rest).map (chomp whole :: ·)
      | (_, some mode) => joinLines whole mode rest

/-! ## Values -/

/-- Where in a value a reader stands. -/
inductive Place where
  | plain
  | strong
  | weak
  /-- behind a backslash -/
  | escape (within : Place)
  /-- behind a dollar sign and the start of a name, in reverse -/
  | name (within : Place) (name : List Char)
  /-- behind a dollar sign, a brace and the start of a name, in reverse -/
  | bracedName (within : Place) (name : List Char)
  /-- behind the value, where only blanks and a comment may come -/
  | ended
  | comment
deriving DecidableEq, Repr

/-- What a variable holds; one that is not set holds nothing. -/
def lookup (env : Environment) (name : List Char) : List Char :=
  ((env.get? (String.ofList name.reverse)).getD "").toList

/-- What one character adds to a value, and the place behind it. -/
def readChar (env : Environment) : Place → Char → Option (List Char × Place)
  | .plain, c =>
    if c == '$' then some ([], .name .plain [])
    else if c == '\'' then some ([], .strong)
    else if c == '"' then some ([], .weak)
    else if c == '\\' then some ([], .escape .plain)
    else if c == ' ' || c == '\t' then some ([], .ended)
    else some ([c], .plain)
  | .strong, c => if c == '\'' then some ([], .plain) else some ([c], .strong)
  | .weak, c =>
    if c == '$' then some ([], .name .weak [])
    else if c == '"' then some ([], .plain)
    else if c == '\\' then some ([], .escape .weak)
    else some ([c], .weak)
  | .escape within, c =>
    if c == 'n' then some (['\n'], within)
    else if c == '\\' || c == '\'' || c == '"' || c == '$' || c == ' ' then some ([c], within)
    else none
  | .name within name, c =>
    if Text.isWordChar c then some ([], .name within (c :: name))
    else if c == '\x7b' && name.isEmpty then some ([], .bracedName within [])
    else if c == '$' then some (lookup env name, .name within [])
    else some (lookup env name ++ [c], within)
  | .bracedName within name, c =>
    if c == '\x7d' then some (lookup env name, within)
    else some ([], .bracedName within (c :: name))
  | .ended, c =>
    if c == ' ' || c == '\t' then some ([], .ended)
    else if c == '#' then some ([], .comment)
    else none
  | .comment, _ => some ([], .comment)

/-- What the end of a line adds to a value, if it may end there. -/
def readEnd (env : Environment) : Place → Option (List Char)
  | .strong | .weak | .bracedName _ _ | .escape .weak | .name .weak _ => none
  | .name _ name => some (lookup env name)
  | _ => some []

/-- The value that characters spell. -/
def readValue (env : Environment) : Place → List Char → Option (List Char)
  | place, [] => readEnd env place
  | place, c :: rest => do
    let (text, place) ← readChar env place c
    return text ++ (← readValue env place rest)

/-! ## Variables -/

def skipBlank (cs : List Char) : List Char := cs.dropWhile Text.isBlank

def isKeyChar (c : Char) : Bool := c.isAlphanum || c == '_' || c == '.'

/-- The key at the start of the characters, and what follows it and the blanks behind it. -/
def readKey (cs : List Char) : Option (String × List Char) :=
  match cs with
  | [] => none
  | c :: _ =>
    if c.isAlpha || c == '_' then
      some (String.ofList (cs.takeWhile isKeyChar), skipBlank (cs.dropWhile isKeyChar))
    else none

/-- What follows an equals sign. -/
def afterEquals : List Char → Option (List Char)
  | '=' :: rest => some rest
  | _ => none

/-- The key of a line, and what follows its equals sign. The word `export` may stand before a key,
or be one. -/
def readAssignment (cs : List Char) : Option (String × List Char) := do
  let (key, rest) ← readKey cs
  match afterEquals rest with
  | some value => return (key, value)
  | none =>
    if key = "export" then do
      let (key, rest) ← readKey rest
      return (key, ← afterEquals rest)
    else none

/-- The variable that a line gives a value, if it is no comment; none at all if it is malformed. -/
def readLine (env : Environment) (line : List Char) : Option (Option (String × String)) :=
  let cs := skipBlank (line.reverse.dropWhile Text.isBlank).reverse
  if cs.isEmpty || cs.head? == some '#' then some none
  else do
    let (key, rest) ← readAssignment cs
    let rest := skipBlank rest
    if rest.isEmpty || rest.head? == some '#' then return some (key, "")
    return some (key, String.ofList (← readValue env .plain rest))

/-- Why a file cannot be applied. -/
inductive Fault where
  | malformed
  /-- a value holds the character zero, which no variable can hold -/
  | unsettable
deriving DecidableEq, Repr

/-- Sets a variable that is not set. -/
def supply (env : Environment) (key value : String) : Except Fault Environment :=
  if (env.get? key).isSome then .ok env
  else if value.toList.contains '\x00' then .error .unsettable
  else .ok (env.insert key value)

/-- The environment after the lines, if none is at fault. -/
def readLines (env : Environment) : List (List Char) → Except Fault Environment
  | [] => .ok env
  | line :: rest =>
    match readLine env line with
    | none => .error .malformed
    | some none => readLines env rest
    | some (some (key, value)) => do readLines (← supply env key value) rest

/-- The environment after a file, if it is well formed. A byte order mark in front is skipped. -/
def extend (env : Environment) (file : List UInt8) : Except Fault Environment :=
  let lines : Option (List (List Char)) := do
    let cs := match (← Utf8.decode? file).toList with
      | '\uFEFF' :: rest => rest
      | cs => cs
    joinLines [] .plain (splitLines cs)
  match lines with
  | none => .error .malformed
  | some lines => readLines env lines

end EnvFile

end Rowgate.Config
