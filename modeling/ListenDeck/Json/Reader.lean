import ListenDeck.Json.Number
import ListenDeck.Text.Hex

/-!
# Reading JSON

Strict JSON: blanks are space, tab, carriage return and line feed; a raw control character in a
string, a leading zero, a trailing comma and anything after the value are refused. A container with
127 containers open around it is unreadable, and so are a string with half of a surrogate pair and
an object with such a field name.

* `Json.stringBody?`: the characters of a string after its opening quote.
* `Json.value?`: the value at the start of a text; its first argument bounds the number of steps.
* `Json.parse?`: the value of a whole text.
-/

namespace ListenDeck.Json

open Text (hexValue?)

/-- The blanks between tokens. -/
def isSpace (c : Char) : Bool := c == ' ' || c == '\t' || c == '\r' || c == '\n'

/-- The text after its leading blanks. -/
def skipSpace (cs : List Char) : List Char := cs.dropWhile isSpace

/-! ## Strings -/

/-- The unit of 16 bits that four hexadecimal digits stand for. -/
def unit? (a b c d : Char) : Option Nat := do
  let a ← hexValue? a
  let b ← hexValue? b
  let c ← hexValue? c
  let d ← hexValue? d
  some (((a * 16 + b) * 16 + c) * 16 + d)

/-- The first half of a surrogate pair. -/
def isHighHalf (u : Nat) : Bool := 0xD800 ≤ u && u ≤ 0xDBFF

/-- The second half of a surrogate pair. -/
def isLowHalf (u : Nat) : Bool := 0xDC00 ≤ u && u ≤ 0xDFFF

/-- The character of a surrogate pair. -/
def pairChar (high low : Nat) : Char :=
  Char.ofNat (0x10000 + (high - 0xD800) * 0x400 + (low - 0xDC00))

/-- The character of a short escape. -/
def shortEscape? : Char → Option Char
  | '"' => some '"'
  | '\\' => some '\\'
  | '/' => some '/'
  | 'b' => some '\x08'
  | 'f' => some '\x0c'
  | 'n' => some '\n'
  | 'r' => some '\r'
  | 't' => some '\t'
  | _ => none

/-- A piece of a string: a character, or an escaped unit of 16 bits. -/
inductive Piece where
  | char (c : Char)
  | unit (u : Nat)
  deriving DecidableEq, Repr

/-- The pieces of a string after its opening quote, and the text after its closing quote. -/
def pieces? : List Char → Option (List Piece × List Char)
  | [] => none
  | '"' :: r => some ([], r)
  | '\\' :: 'u' :: a :: b :: c :: d :: r =>
    match unit? a b c d with
    | none => none
    | some u => (pieces? r).map fun p => (.unit u :: p.1, p.2)
  | '\\' :: c :: r =>
    match shortEscape? c with
    | none => none
    | some e => (pieces? r).map fun p => (.char e :: p.1, p.2)
  | c :: r =>
    if c.toNat < 0x20 then none else (pieces? r).map fun p => (.char c :: p.1, p.2)

/-- The characters of the pieces; none if half of a surrogate pair stands alone. -/
def joinPieces? : List Piece → Option (List Char)
  | [] => some []
  | .char c :: rest => (joinPieces? rest).map (c :: ·)
  | .unit u :: .unit v :: rest =>
    if isHighHalf u then
      if isLowHalf v then (joinPieces? rest).map (pairChar u v :: ·) else none
    else if isLowHalf u then none
    else (joinPieces? (.unit v :: rest)).map (Char.ofNat u :: ·)
  | .unit u :: rest =>
    if isHighHalf u || isLowHalf u then none else (joinPieces? rest).map (Char.ofNat u :: ·)

/-- The characters of a string after its opening quote, unless a part of it is unreadable, and the
text after its closing quote. -/
def stringBody? (cs : List Char) : Option (Option (List Char) × List Char) :=
  (pieces? cs).map fun p => (joinPieces? p.1, p.2)

/-- The value of a string that was read. -/
def ofStringRead : Option (List Char) → Json
  | some cs => .string (String.ofList cs)
  | none => .unreadable

/-! ## Values -/

/-- The number of containers that may be open at once. -/
def maxDepth : Nat := 127

/-- A container inside `depth` others. -/
def atDepth (depth : Nat) (j : Json) : Json := if depth < maxDepth then j else .unreadable

/-- The object of the fields that were read, unless a field's name is unreadable. -/
def ofFieldsRead : Option (List (String × Json)) → Json
  | some fields => .object fields
  | none => .unreadable

/-- The fields read so far with one more in front. -/
def addField (key : Option (List Char)) (j : Json) (fields : Option (List (String × Json))) :
    Option (List (String × Json)) := do
  let key ← key
  let fields ← fields
  some ((String.ofList key, j) :: fields)

mutual

/-- The value at the start of a text inside `depth` containers, and the text after it. -/
def value? : Nat → Nat → List Char → Option (Json × List Char)
  | 0, _, _ => none
  | fuel + 1, depth, cs =>
    match skipSpace cs with
    | 'n' :: 'u' :: 'l' :: 'l' :: r => some (.null, r)
    | 't' :: 'r' :: 'u' :: 'e' :: r => some (.bool true, r)
    | 'f' :: 'a' :: 'l' :: 's' :: 'e' :: r => some (.bool false, r)
    | '"' :: r => (stringBody? r).map fun s => (ofStringRead s.1, s.2)
    | '[' :: r =>
      match skipSpace r with
      | ']' :: r => some (atDepth depth (.array []), r)
      | r => (items? fuel (depth + 1) r).map fun p => (atDepth depth (.array p.1), p.2)
    | '{' :: r =>
      match skipSpace r with
      | '}' :: r => some (atDepth depth (.object []), r)
      | r => (fields? fuel (depth + 1) r).map fun p => (atDepth depth (ofFieldsRead p.1), p.2)
    | r => number? r

/-- The items of an array from its first item on. -/
def items? : Nat → Nat → List Char → Option (List Json × List Char)
  | 0, _, _ => none
  | fuel + 1, depth, cs =>
    match value? fuel depth cs with
    | none => none
    | some (j, r) =>
      match skipSpace r with
      | ',' :: r => (items? fuel depth r).map fun p => (j :: p.1, p.2)
      | ']' :: r => some ([j], r)
      | _ => none

/-- The fields of an object from its first field on. -/
def fields? : Nat → Nat → List Char → Option (Option (List (String × Json)) × List Char)
  | 0, _, _ => none
  | fuel + 1, depth, cs =>
    match skipSpace cs with
    | '"' :: r =>
      match stringBody? r with
      | none => none
      | some (key, r) =>
        match skipSpace r with
        | ':' :: r =>
          match value? fuel depth r with
          | none => none
          | some (j, r) =>
            match skipSpace r with
            | ',' :: r => (fields? fuel depth r).map fun p => (addField key j p.1, p.2)
            | '}' :: r => some (addField key j (some []), r)
            | _ => none
        | _ => none
    | _ => none

end

/-- The value of a list of characters, with nothing but blanks around it. -/
def parseChars? (cs : List Char) : Option Json :=
  match value? (2 * cs.length + 2) 0 cs with
  | some (j, r) => if (skipSpace r).isEmpty then some j else none
  | none => none

/-- The value of a text. -/
def parse? (text : String) : Option Json := parseChars? text.toList

/-- The value of a text when all of it is read, with the last of equal fields in each object. -/
def parseValue? (text : String) : Option Json :=
  ((parse? text).filter readable).map lastWins

end ListenDeck.Json
