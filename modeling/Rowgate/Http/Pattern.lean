import Rowgate.Json.Value
/-
Path patterns.

A pattern is a path in which `{name}` takes one segment, or the end of one, and `{*name}` takes all
that remains; neither matches where the path has ended. A brace that stands for itself is doubled.
Two patterns conflict if somewhere behind the same beginning both have a parameter and no character
tells them apart; patterns that do not conflict are ranked, a character before a parameter, so of
several that match a path exactly one comes first.
-/
set_option autoImplicit false

namespace Rowgate.Http

/-- One element of a pattern. -/
inductive Piece where
  | char (c : Char)
  /-- what remains of a segment, which may be nothing if a slash follows -/
  | param (name : String)
  /-- what remains of the path; it is not empty -/
  | rest (name : String)
deriving DecidableEq, Repr

/-- Why a path cannot be mounted. -/
inductive PathError where
  | noLeadingSlash
  /-- a segment starts with a colon or a star -/
  | bareMarker
  /-- a brace without its partner, or a name that is empty or holds a slash or a star -/
  | malformedParameter
  /-- something other than a slash behind a parameter -/
  | trailingText
  /-- something behind a parameter that takes all -/
  | restNotLast
  | tooManyParameters
  | conflict
  /-- the method is mounted on the path already -/
  | taken
deriving DecidableEq, Repr

abbrev Pattern := List Piece

namespace Pattern

/-! ## Reading -/

/-- A character that may have been doubled to stand for itself. -/
structure Mark where
  c : Char
  doubled : Bool

/-- Whether a mark is a brace that opens or closes a parameter. -/
def Mark.isBrace (mark : Mark) (c : Char) : Bool := mark.c == c && !mark.doubled

/-- Takes doubled braces together. -/
def marks : List Char → List Mark
  | '{' :: '{' :: cs => ⟨'{', true⟩ :: marks cs
  | '}' :: '}' :: cs => ⟨'}', true⟩ :: marks cs
  | c :: cs => ⟨c, false⟩ :: marks cs
  | [] => []

/-- The characters up to the closing brace, and what follows it. A slash or a star is refused. -/
def nameEnd? : List Mark → Option (List Char × List Mark)
  | [] => none
  | mark :: rest =>
    if mark.isBrace '}' then some ([], rest)
    else if mark.c == '*' || mark.c == '/' then none
    else (nameEnd? rest).map fun (name, rest) => (mark.c :: name, rest)

/-- The name behind an opening brace, and what follows the closing one. The first character of the
name may be any but a closing brace. -/
def name? : List Mark → Option (List Char × List Mark)
  | [] => none
  | first :: rest =>
    if first.c == '}' then none
    else (nameEnd? rest).map fun (name, rest) => (first.c :: name, rest)

/-- The pieces of a pattern. At most `fuel` pieces are read; every piece takes at least one mark. -/
def read (fuel : Nat) (cs : List Mark) : Except PathError Pattern :=
  match fuel, cs with
  | 0, _ => .ok []
  | _, [] => .ok []
  | fuel + 1, mark :: rest =>
    if mark.isBrace '}' then .error .malformedParameter
    else if mark.isBrace '{' then
      match name? rest with
      | none | some (['*'], _) => .error .malformedParameter
      | some (name, following) =>
        if following.head?.any (·.c != '/') then .error .trailingText
        else match name with
          | '*' :: name =>
            if following.isEmpty then .ok [.rest (String.ofList name)] else .error .restNotLast
          | name => do return .param (String.ofList name) :: (← read fuel following)
    else do return .char mark.c :: (← read fuel rest)

/-- The most parameters that a pattern may have. -/
def maxParams : Nat := 25

def Piece.isParam : Piece → Bool
  | .param _ => true
  | _ => false

/-- The pattern that a path spells. -/
def ofPath (path : String) : Except PathError Pattern := do
  let cs := path.toList
  if cs.head? != some '/' then throw .noLeadingSlash
  if (cs.splitOn '/').any fun segment => segment.head? == some ':' || segment.head? == some '*' then
    throw .bareMarker
  let pattern ← read cs.length (marks cs)
  if maxParams < pattern.countP Piece.isParam then throw .tooManyParameters
  return pattern

/-! ## Conflicts and rank -/

/-- Whether two patterns cannot be told apart by rank. -/
def conflicts : Pattern → Pattern → Bool
  | [], [] => true
  | .char c :: p, .char d :: q => c == d && conflicts p q
  | .param _ :: p, .param _ :: q => conflicts p q
  | .param _ :: _, .rest _ :: _ | .rest _ :: _, .param _ :: _ | .rest _ :: _, .rest _ :: _ => true
  | _, _ => false

/-- Whether the first pattern is to be tried before the second one: where they part, it has a
character. -/
def precedes : Pattern → Pattern → Bool
  | .char c :: p, .char d :: q => c == d && precedes p q
  | .param _ :: p, .param _ :: q => precedes p q
  | .char _ :: _, _ => true
  | _, _ => false

/-! ## Matching -/

/-- The texts that the parameters take, if the pattern matches a path. -/
def captures? : Pattern → List Char → Option (List (String × String))
  | [], [] => some []
  | .char c :: p, d :: cs => if c = d then captures? p cs else none
  | .param name :: p, cs =>
    let segment := cs.takeWhile (· != '/')
    if cs.isEmpty then none
    else (captures? p (cs.dropWhile (· != '/'))).map ((name, String.ofList segment) :: ·)
  | .rest name :: _, cs => if cs.isEmpty then none else some [(name, String.ofList cs)]
  | _, _ => none

end Pattern

end Rowgate.Http
