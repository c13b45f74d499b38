import Rowgate.Text.Form
import Rowgate.Url.Address
/-
URLs that name a server, such as the addresses of databases.

Behind the scheme and two slashes come the credentials, a host and a port, then a path, a query and
a fragment. The last at sign before the path ends the credentials, and the first colon in them ends
the user name. A backslash ends the port and then starts the path. Segments of the path that are one
or two dots are resolved. The parts are kept in
their percent-encoded form. Tabs and line ends within a URL, and blanks around it, do not count.
-/
set_option autoImplicit false

namespace Rowgate

/-- The parts of a URL, percent-encoded. -/
structure Url where
  scheme : String
  username : String := ""
  password : Option String := none
  host : String
  port : Option Nat := none
  path : String := ""
  query : Option String := none
deriving DecidableEq, Repr

namespace Url

/-! ## Characters -/

/-- Writes a character as percent-encoded bytes. -/
def percentChar (c : Char) : List Char :=
  (Utf8.encode (String.ofList [c])).flatMap fun b =>
    ['%', Percent.digit (b.toNat / 16), Percent.digit (b.toNat % 16)]

/-- Whether a character is outside of printing ASCII. -/
def isControl (c : Char) : Bool := c.toNat < 0x20 || 0x7F ≤ c.toNat

/-- Percent-encodes control characters, what is not ASCII, and the characters given. -/
def encodeWith (special : List Char) (cs : List Char) : String :=
  String.ofList <| cs.flatMap fun c =>
    if isControl c || special.contains c then percentChar c else [c]

def querySpecial : List Char := [' ', '"', '#', '<', '>']

def pathSpecial : List Char := querySpecial ++ ['?', '^', Char.ofNat 0x60, '\x7b', '\x7d']

def userSpecial : List Char :=
  pathSpecial ++ ['/', ':', ';', '=', '@', '[', '\\', ']', '|']

/-- Characters that may not stand in a host. -/
def hostForbidden : List Char :=
  ['\x00', '\t', '\n', '\r', ' ', '#', '/', ':', '<', '>', '?', '@', '[', '\\', ']', '^', '|']

/-! ## Parts -/

/-- Whether a character ends the part with the host. -/
def endsAuthority (c : Char) : Bool := c == '/' || c == '?' || c == '#'

/-- Splits at the last occurrence of a character. -/
def splitAtLast (sep : Char) (cs : List Char) : Option (List Char × List Char) :=
  match cs.reverse.span (· != sep) with
  | (_, []) => none
  | (after, _ :: before) => some (before.reverse, after.reverse)

/-- The user name and the password of credentials. -/
def credentials (cs : List Char) : String × Option String :=
  let username := encodeWith userSpecial (cs.takeWhile (· != ':'))
  match cs.dropWhile (· != ':') with
  | [] | [_] => (username, none)
  | _ :: password => (username, some (encodeWith userSpecial password))

/-- How many characters the host takes: up to the first colon outside of brackets. -/
def hostLength (inBrackets : Bool) : List Char → Nat
  | [] => 0
  | c :: rest =>
    if c == ':' && !inBrackets then 0
    else hostLength (if c == '[' then true else if c == ']' then false else inBrackets) rest + 1

/-- The written form of a host. -/
def host? (cs : List Char) : Option String :=
  match cs with
  | '[' :: rest =>
    match rest.reverse with
    | ']' :: inner => (readAddress? inner.reverse).map fun a => "[" ++ writeAddress a ++ "]"
    | _ => none
  | cs => if cs.any hostForbidden.contains then none else some (encodeWith [] cs)

/-- The port behind a host, if one is given. -/
def port? : List Char → Option (Option Nat)
  | [] | [':'] => some none
  | ':' :: ds =>
    if ds.all Char.isDigit then
      let n := ds.foldl (fun n c => 10 * n + (c.toNat - '0'.toNat)) 0
      if n < UInt16.size then some (some n) else none
    else none
  | _ => none

/-! ## Paths -/

/-- A segment in which encoded dots are dots. -/
def plainDots : List Char → List Char
  | '%' :: '2' :: 'e' :: rest | '%' :: '2' :: 'E' :: rest => '.' :: plainDots rest
  | c :: rest => c :: plainDots rest
  | [] => []

/-- Whether a segment names a drive: a letter and a colon or a bar. -/
def isDrive : List Char → Bool
  | [letter, mark] => letter.isAlpha && (mark == ':' || mark == '|')
  | _ => false

/-- Takes the latest segment away, unless it names a drive. -/
def goUp : List (List Char) → List (List Char)
  | [] => []
  | segment :: done => if isDrive segment then segment :: done else done

/-- The segments that are left behind those `done`, in reverse, when dots are resolved. The last one
ends in a slash if it was dots. -/
def resolve (done : List (List Char)) : List (List Char) → List (List Char)
  | [] => done.reverse
  | segment :: rest =>
    let keep (done : List (List Char)) := resolve (if rest.isEmpty then [] :: done else done) rest
    if plainDots segment = ['.'] then keep done
    else if plainDots segment = ['.', '.'] then keep (goUp done)
    else resolve (segment :: done) rest

/-- The written form of a path, which starts with a slash unless it is empty. -/
def writePath (cs : List Char) : String :=
  if cs.isEmpty then "" else
  let segments := resolve [] ((if cs.head? = some '/' then cs.drop 1 else cs).splitOn '/')
  String.join (segments.map fun segment => "/" ++ encodeWith pathSpecial segment)

/-! ## Reading -/

/-- Removes blanks and control characters around a text, and tabs and line ends within it. -/
def clean (s : String) : List Char :=
  let isAround (c : Char) : Bool := c.toNat ≤ 0x20
  let cs := ((s.toList.dropWhile isAround).reverse.dropWhile isAround).reverse
  cs.filter fun c => c != '\t' && c != '\n' && c != '\r'

/-- The parts of a URL with two slashes behind its scheme. Credentials need a host. -/
def ofString? (s : String) : Option Url := do
  let cs := clean s
  let scheme := cs.takeWhile (· != ':')
  let ':' :: '/' :: '/' :: rest := cs.drop scheme.length | none
  let authority := rest.takeWhile (!endsAuthority ·)
  let rest := rest.drop authority.length
  let (user, server) := (splitAtLast '@' authority).getD ([], authority)
  let (username, password) := credentials user
  let hostText := server.take (hostLength false server)
  let host ← host? hostText
  let server := server.drop hostText.length
  let port ← port? (server.takeWhile (· != '\\'))
  if host.isEmpty && !authority.isEmpty then none
  let rest := (server.dropWhile (· != '\\') ++ rest).takeWhile (· != '#')
  let path := rest.takeWhile (· != '?')
  let query := match rest.drop path.length with
    | [] => none
    | _ :: query => some (encodeWith querySpecial query)
  return { scheme := String.ofList (scheme.map Char.toLower)
           username, password, host, port, path := writePath path, query }

/-- The pairs of the query. -/
def queryPairs (url : Url) : List (String × String) :=
  (url.query.map Form.pairs).getD []

end Url

end Rowgate
