import ListenDeck.Url.Basic
import ListenDeck.Url.Host

/-!
# Reading addresses

The address that a text names on its own. Blanks around it and line breaks within do not count, the
scheme and the host lose their case, the path loses its dot segments, and what may not stand for
itself is put into percent form.

* `Url.parse?`: the address of a text.
* `Url.resolve`: a path without its dot segments.
-/

namespace ListenDeck.Url

open Text

/-! ## What may stand for itself -/

/-- The characters that are escaped in a fragment, besides those that are not visible. -/
def fragmentEscaped : List Char := [' ', '"', '<', '>', Char.ofNat 0x60]

/-- The character stands for itself in a fragment. -/
def keptInFragment (c : Char) : Bool := isVisibleAscii c && !fragmentEscaped.contains c

/-- The visible characters that are escaped in a query. -/
def queryEscaped : List Char := [' ', '"', '#', '<', '>']

/-- The character stands for itself in a query; an apostrophe only in schemes that are not
special. -/
def keptInQuery (special : Bool) (c : Char) : Bool :=
  isVisibleAscii c && !queryEscaped.contains c && !(special && c == '\'')

/-- The characters that are escaped in a path but not in a fragment. -/
def pathEscaped : List Char := ['#', '?', '{', '}']

/-- The character stands for itself in a segment of a path. -/
def keptInPath (c : Char) : Bool := keptInFragment c && !pathEscaped.contains c

/-! ## Scheme -/

/-- The character may be part of a scheme, after its first letter. -/
def isSchemeChar (c : Char) : Bool := c.isAlphanum || c == '+' || c == '-' || c == '.'

/-- The scheme of what stands before the first colon, in lower case. -/
def scheme? (cs : List Char) : Option String :=
  if cs.head?.any Char.isAlpha && cs.all isSchemeChar then
    some (String.ofList (cs.map Char.toLower))
  else none

/-! ## Authority -/

/-- The character ends a host and separates segments. -/
def isSlash (special : Bool) (c : Char) : Bool := c == '/' || (special && c == '\\')

/-- The parts before and after the first colon outside brackets. -/
def cutPort : Bool → List Char → List Char × Option (List Char)
  | _, [] => ([], none)
  | inside, c :: rest =>
    if c = ':' ∧ inside = false then ([], some rest)
    else
      let inside := if c = '[' then true else if c = ']' then false else inside
      let (before, after) := cutPort inside rest
      (c :: before, after)

/-- The port of a text of digits; no digits are no port, and neither is the scheme's own. -/
def readPort? (scheme : String) (cs : List Char) : Option (Option Nat) :=
  if cs.isEmpty then some none
  else
    match readDigits? cs with
    | some n => if n < 65536 then some (if ownPort scheme = some n then none else some n) else none
    | none => none

/-- The text before an `@` names a user or a password. -/
def hasCredentials (cs : List Char) : Bool := cs != [':']

/-- The host and port of an authority, and what belongs to the path already: all from a backslash in
the port on. Credentials are left out. -/
def readAuthority? (scheme : String) (cs : List Char) :
    Option (String × Option Nat × List Char) :=
  let special := isSpecialScheme scheme
  let (credentials, place) := cutAtLast (· == '@') cs
  let (hostChars, portChars) := cutPort false place
  if hostChars.isEmpty then
    if special || credentials.any hasCredentials || portChars.isSome then none
    else some ("", none, [])
  else do
    let host ← if special then readHost? hostChars else readPlainHost? hostChars
    let portChars := portChars.getD []
    let port ← readPort? scheme (portChars.takeWhile (· != '\\'))
    some (host, port, portChars.dropWhile (· != '\\'))

/-! ## Path -/

/-- The segment stays where it is: a dot, which may be in percent form. -/
def isDot (cs : List Char) : Bool := [".", "%2e"].contains (String.ofList (cs.map Char.toLower))

/-- The segment goes up: two dots, each of which may be in percent form. -/
def isDoubleDot (cs : List Char) : Bool :=
  ["..", ".%2e", "%2e.", "%2e%2e"].contains (String.ofList (cs.map Char.toLower))

/-- A segment in percent form. -/
def segment (cs : List Char) : String := String.ofList (percentChars keptInPath cs)

/-- The segment is a letter and a colon or bar: the name of a drive. -/
def isDrive : List Char → Bool
  | [a, b] => a.isAlpha && (b == ':' || b == '|')
  | _ => false

/-- The segment is a drive, or starts with one and a backslash. -/
def startsWithDrive (cs : List Char) : Bool :=
  isDrive (cs.take 2) && (cs.drop 2).head?.all (· == '\\')

/-- Leaves the last segment, which is the first in the list. A drive is not left. -/
def goUp : List String → List String
  | [] => []
  | s :: before => if startsWithDrive s.toList then s :: before else before

/-- What a segment makes of the segments before it, last one first. A dot segment at the end leaves
an empty one. -/
def addSegment (before : List String) (last : Bool) (cs : List Char) : List String :=
  let rest := if last then [""] else []
  if isDoubleDot cs then rest ++ goUp before
  else if isDot cs then rest ++ before
  else segment cs :: before

/-- A path without its dot segments; `before` is what was read already, last segment first. -/
def resolveFrom (before : List String) : List (List Char) → List String
  | [] => before.reverse
  | s :: rest => resolveFrom (addSegment before rest.isEmpty s) rest

/-- A path without its dot segments. -/
def resolve (segments : List (List Char)) : List String := resolveFrom [] segments

/-- The segments of what follows the authority. A special scheme always has at least one. -/
def readPath (special : Bool) (cs : List Char) : List String :=
  match cs with
  | [] => if special then [""] else []
  | c :: rest => resolve (pieces (isSlash special) (if isSlash special c then rest else c :: rest))

/-! ## Blanks and line breaks -/

/-- A control character or a space. -/
def isOuterBlank (c : Char) : Bool := c.toNat ≤ 0x20

/-- The text without the blanks around it. -/
def trimOuter (cs : List Char) : List Char :=
  dropEndWhile isOuterBlank (cs.dropWhile isOuterBlank)

/-- A tab or a line break. -/
def isLineBreak (c : Char) : Bool := c == '\t' || c == '\n' || c == '\r'

/-- The text without the line breaks in it. -/
def unbroken (cs : List Char) : List Char := cs.filter fun c => !isLineBreak c

/-! ## Files

Line breaks in the path of a file are not left out before the path is read: one of them can end a
drive. -/

/-- The path of a file while it is read. -/
structure FilePath where
  /-- The segments, last one first. -/
  segments : List String := []
  /-- The path starts with a drive, so that there is no host. -/
  onDrive : Bool := false
  deriving DecidableEq, Repr, Inhabited

/-- The characters from the first one on that is no line break. -/
def skipBreaks (cs : List Char) : List Char := cs.dropWhile isLineBreak

/-- The segment is a drive with a colon and more, with a line break between them. -/
def breaksAfterDrive (cs : List Char) : Bool :=
  match skipBreaks cs with
  | [] => false
  | a :: rest =>
    match skipBreaks rest with
    | ':' :: rest => a.isAlpha && rest.head?.any isLineBreak && !(skipBreaks rest).isEmpty
    | _ => false

/-- The path with a segment more. A drive at its start is written with a colon. -/
def FilePath.add (p : FilePath) (last : Bool) (cs : List Char) : FilePath :=
  let name := unbroken cs
  if p.segments.isEmpty && breaksAfterDrive cs then
    { p with segments := [segment (name.drop 2), segment (name.take 2)] }
  else if p.segments.isEmpty && isDrive name then
    { segments := [String.ofList (name.take 1 ++ [':'])], onDrive := true }
  else { p with segments := addSegment p.segments last name }

/-- The path with segments more. -/
def FilePath.addAll (p : FilePath) : List (List Char) → FilePath
  | [] => p
  | s :: rest => (p.add rest.isEmpty s).addAll rest

/-- The path of what follows the first slash. -/
def readFilePath (cs : List Char) : FilePath := ({} : FilePath).addAll (pieces (isSlash true) cs)

/-- The segments of the path, without empty ones at its start. -/
def FilePath.resolved (p : FilePath) : List String :=
  match p.segments.reverse.dropWhile (· = "") with
  | [] => [""]
  | l => l

/-- What follows a slash at the start. -/
def afterSlash? (cs : List Char) : Option (List Char) :=
  match skipBreaks cs with
  | c :: rest => if isSlash true c then some rest else none
  | [] => none

/-- The host and path of what follows two slashes. An empty host and the local one leave the slash
after them to the path. -/
def readFilePlace? (cs : List Char) : Option (String × List String) :=
  let host := unbroken (cs.takeWhile fun c => !isSlash true c)
  let rest := cs.dropWhile fun c => !isSlash true c
  if isDrive host then some ("", (readFilePath cs).resolved)
  else if host.isEmpty then some ("", (readFilePath rest).resolved)
  else do
    let host ← readHost? host
    if host = "localhost" then some ("", (readFilePath rest).resolved)
    else
      let path := readFilePath (rest.drop 1)
      some (if path.onDrive then "" else host, path.resolved)

/-- The host and path of a file. -/
def readFile? (cs : List Char) : Option (String × List String) :=
  match afterSlash? cs with
  | none => some ("", (readFilePath cs).resolved)
  | some one =>
    match afterSlash? one with
    | none => some ("", (readFilePath one).resolved)
    | some two => readFilePlace? two

/-! ## The whole -/

/-- The host, port and path of what stands between scheme and query, in a scheme other than that of
files. -/
def readSite? (scheme : String) (cs : List Char) : Option (Option String × Option Nat × UrlPath) :=
  let special := isSpecialScheme scheme
  let withHost (cs : List Char) : Option (Option String × Option Nat × UrlPath) := do
    let (host, port, more) ← readAuthority? scheme (cs.takeWhile fun c => !isSlash special c)
    let path := readPath special (more ++ cs.dropWhile fun c => !isSlash special c)
    some (some host, port, .segments path)
  if special then withHost (cs.dropWhile (isSlash true))
  else
    match cs with
    | '/' :: '/' :: rest => withHost rest
    | '/' :: _ => some (none, none, .segments (readPath false cs))
    | _ => some (none, none, .plain (String.ofList (percentChars isVisibleAscii cs)))

/-- The host, port and path of what stands between scheme and query. -/
def readPlace? (scheme : String) (cs : List Char) : Option (Option String × Option Nat × UrlPath) :=
  if scheme = "file" then (readFile? cs).map fun f => (some f.1, none, .segments f.2)
  else readSite? scheme (unbroken cs)

/-- The address that a text names on its own. -/
def parse? (s : String) : Option Url := do
  let (front, rest) := cutAt (· == ':') (trimOuter s.toList)
  let scheme ← scheme? (unbroken front)
  let (rest, fragment) := cutAt (· == '#') (← rest)
  let (place, query) := cutAt (· == '?') rest
  let (host, port, path) ← readPlace? scheme place
  some {
    scheme, host, port, path
    query := query.map fun q =>
      String.ofList (percentChars (keptInQuery (isSpecialScheme scheme)) (unbroken q))
    fragment := fragment.map fun f => String.ofList (percentChars keptInFragment (unbroken f)) }

end ListenDeck.Url
