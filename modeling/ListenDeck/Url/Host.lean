import ListenDeck.Text.Numeral
import ListenDeck.Text.Percent
import ListenDeck.Text.Split
import ListenDeck.Url.Name

/-!
# Hosts

The host of an address: a name in lower case, an address of 32 bits in four decimal parts, or one of
128 bits in brackets. Each has one written form, whatever form it is given in.

* `readHost?`: the host of a special scheme in its written form.
* `readPlainHost?`: the host of another scheme.
* `readAddress4?`, `readAddress6?`: the numbers of the two kinds of addresses.
-/

namespace ListenDeck.Url

open Text

/-! ## Addresses of 32 bits -/

/-- The value of digits in a base. -/
def digitsIn? (base : Nat) (cs : List Char) : Option Nat :=
  cs.foldl (fun acc c => do
    let n ← acc
    let d ← hexValue? c
    if d < base then some (n * base + d) else none) (some 0)

/-- A number of an address: hexadecimal after `0x`, octal after a zero, or decimal. -/
def addressNumber? : List Char → Option Nat
  | [] => none
  | ['0'] => some 0
  | '0' :: 'x' :: cs => digitsIn? 16 cs
  | '0' :: 'X' :: cs => digitsIn? 16 cs
  | '0' :: cs => digitsIn? 8 cs
  | cs => digitsIn? 10 cs

/-- The parts of a name between its dots, but for an empty one at the end. -/
def labels (cs : List Char) : List (List Char) :=
  match pieces (· == '.') cs with
  | [p] => [p]
  | ps => if ps.getLast? = some [] then ps.dropLast else ps

/-- The last part of the name is a number, so that the name must be an address. -/
def endsInNumber (cs : List Char) : Bool :=
  match (labels cs).getLast? with
  | some l => (!l.isEmpty && l.all Char.isDigit) || (addressNumber? l).isSome
  | none => false

/-- The number of an address of parts; the last part stands for all bytes that are left. -/
def addressOfParts? : Nat → List Nat → Option Nat
  | _, [] => none
  | room, [last] => if last < room then some last else none
  | room, part :: rest =>
    if part < 256 then (addressOfParts? (room / 256) rest).map (part * (room / 256) + ·) else none

/-- The number of an address of at most four parts. -/
def readAddress4? (cs : List Char) : Option Nat := do
  let parts ← (labels cs).mapM addressNumber?
  if parts.length ≤ 4 then addressOfParts? UInt32.size parts else none

/-- The four parts of an address. -/
def address4Text (n : Nat) : String :=
  ".".intercalate ((List.range 4).map fun k => decimal (n / Nat.pow 256 (3 - k) % 256))

/-! ## Addresses of 128 bits -/

/-- A number of at most 16 bits in at most four hexadecimal digits. -/
def group? (cs : List Char) : Option Nat :=
  if cs.isEmpty || 4 < cs.length then none else digitsIn? 16 cs

/-- A decimal number below 256 without a leading zero. -/
def octet? (cs : List Char) : Option Nat :=
  match cs with
  | '0' :: _ :: _ => none
  | _ => (readDigits? cs).filter (· < 256)

/-- The two groups of an address of four decimal numbers. -/
def dotted? (cs : List Char) : Option (List Nat) :=
  match (pieces (· == '.') cs).mapM octet? with
  | some [a, b, c, d] => some [a * 256 + b, c * 256 + d]
  | _ => none

/-- The groups between colons; the last may be four decimal numbers if `tail`. -/
def groupsOf? (tail : Bool) : List (List Char) → Option (List Nat)
  | [] => some []
  | [last] => ((group? last).map fun g => [g]).or (if tail then dotted? last else none)
  | p :: rest => do
    let g ← group? p
    let gs ← groupsOf? tail rest
    some (g :: gs)

/-- The groups of a text, none if it is empty. -/
def groups? (tail : Bool) (cs : List Char) : Option (List Nat) :=
  if cs.isEmpty then some [] else groupsOf? tail (pieces (· == ':') cs)

/-- The parts before and after the first pair of colons, if there is one. -/
def cutAtPair : List Char → List Char × Option (List Char)
  | [] => ([], none)
  | ':' :: ':' :: rest => ([], some rest)
  | c :: rest =>
    let (before, after) := cutAtPair rest
    (c :: before, after)

/-- The eight groups of an address; a pair of colons stands for at least one group of zeros. -/
def readAddress6? (cs : List Char) : Option (List Nat) :=
  match cutAtPair cs with
  | (_, none) => (groups? true cs).filter (·.length = 8)
  | (before, some after) => do
    let left ← groups? false before
    let right ← groups? true after
    let given := left.length + right.length
    if given < 8 then some (left ++ List.replicate (8 - given) 0 ++ right) else none

/-- The length of the run of zeros at the start. -/
def zeros (gs : List Nat) : Nat := (gs.takeWhile (· = 0)).length

/-- The place and length of the first of the longest runs of zeros, if one has at least two. -/
def longestZeros? (gs : List Nat) : Option (Nat × Nat) :=
  let runs := (List.range gs.length).map fun k => (k, zeros (gs.drop k))
  runs.foldl (fun best r => if max 1 (best.elim 0 (·.2)) < r.2 then some r else best) none

/-- Groups between colons. -/
def groupsText (gs : List Nat) : String :=
  ":".intercalate (gs.map fun g => String.ofList (Nat.toDigits 16 g))

/-- The address in brackets, the longest run of zeros as a pair of colons. -/
def address6Text (gs : List Nat) : String :=
  match longestZeros? gs with
  | some (k, n) => "[" ++ groupsText (gs.take k) ++ "::" ++ groupsText (gs.drop (k + n)) ++ "]"
  | none => "[" ++ groupsText gs ++ "]"

/-- The host in brackets. -/
def bracketed? (cs : List Char) : Option String :=
  match cs.reverse with
  | ']' :: inner => (readAddress6? inner.reverse).map address6Text
  | _ => none

/-! ## Hosts -/

/-- The host of a special scheme. The percent form is undone first. -/
def readHost? (cs : List Char) : Option String :=
  match cs with
  | '[' :: inner => bracketed? inner
  | _ => do
    let name ← readName? (readUtf8Lossy (percentBytes cs)).toList
    if name.isEmpty then none
    else if endsInNumber name then (readAddress4? name).map address4Text
    else some (String.ofList name)

/-- The control characters that a host may not have either. -/
def hostControls : List Char := ['\x00', '\t', '\n', '\r']

/-- A character that stands for itself where only control characters are escaped. -/
def isVisibleAscii (c : Char) : Bool := 0x20 ≤ c.toNat && c.toNat < 0x7F

/-- The host of another scheme: any text without delimiters, escaped where it is not visible. -/
def readPlainHost? (cs : List Char) : Option String :=
  match cs with
  | '[' :: inner => bracketed? inner
  | _ =>
    if cs.any fun c => hostDelimiters.contains c || hostControls.contains c then none
    else some (String.ofList (percentChars isVisibleAscii cs))

end ListenDeck.Url
