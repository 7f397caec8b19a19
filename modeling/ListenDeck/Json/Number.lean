import ListenDeck.Json.Basic

/-!
# JSON numbers

A number is an optional minus sign, a whole part without leading zeros, an optional fraction and an
optional exponent. A number that is only a whole part within 64 bits is exact; any other number is
kept as it is written, provided a double can hold it.

* `Json.number?`: the number a list of characters starts with, and what follows it.
* `Json.tooLarge`: the size `significand * 10 ^ exponent` lies beyond the doubles, when both
  factors are first rounded to a double's 53 bits.
-/

namespace ListenDeck.Json

/-- The nearest number with at most 53 significant bits; of two equally near ones the even one. -/
def round53 (n : Nat) : Nat :=
  let drop := n.log2 + 1 - 53
  let unit := Nat.pow 2 drop
  let q := n / unit
  let r := n % unit
  if unit < 2 * r || (unit == 2 * r && q % 2 == 1) then (q + 1) * unit else q * unit

/-- The least number that rounds beyond the greatest double. -/
def doubleLimit : Nat := Nat.pow 2 1024 - Nat.pow 2 970

/-- The product of a significand and a power of ten is beyond the doubles. -/
def tooLarge (significand : Nat) (exponent : Int) : Bool :=
  significand != 0 && 0 ≤ exponent &&
    (308 < exponent ||
      doubleLimit ≤ round53 significand * round53 (Nat.pow 10 exponent.toNat))

/-- The longest start of a list of digits whose value fits into 64 bits: its value, and how many
digits were left. -/
def significandFrom : Nat → List Char → Nat × Nat
  | acc, [] => (acc, 0)
  | acc, c :: cs =>
    let next := acc * 10 + (c.toNat - '0'.toNat)
    if next < UInt64.size then significandFrom next cs else (acc, cs.length + 1)

/-- Whether the number with these whole digits, fraction digits and exponent is beyond the
doubles. Digits past the first 64 bits count by their place only. -/
def overflows (whole fraction : List Char) (exponent : Int) : Bool :=
  let (significand, left) := significandFrom 0 (whole ++ fraction)
  tooLarge significand (exponent + left - fraction.length)

/-- The value of a number without fraction and exponent, if it is a whole number of 64 bits. The
number `-0` is not one. -/
def whole? (negative : Bool) (digits : List Char) : Option Int :=
  let n := Nat.ofDigitChars 10 digits 0
  if negative then
    if n != 0 && n ≤ 9223372036854775808 then some (-n) else none
  else if n < UInt64.size then some n else none

/-- Digits of an exponent after its letter: an optional sign and at least one digit. -/
def exponent? (cs : List Char) : Option (Int × List Char) :=
  let (negative, cs) : Bool × List Char :=
    match cs with
    | '-' :: r => (true, r)
    | '+' :: r => (false, r)
    | r => (false, r)
  let ds := cs.takeWhile Char.isDigit
  if ds.isEmpty then none
  else
    let n : Int := Nat.ofDigitChars 10 ds 0
    some (if negative then -n else n, cs.dropWhile Char.isDigit)

/-- A whole part: a single zero, or digits that do not start with one. -/
def wholePart? : List Char → Option (List Char × List Char)
  | '0' :: r => if (r.head?.map Char.isDigit).getD false then none else some (['0'], r)
  | cs =>
    let ds := cs.takeWhile Char.isDigit
    if ds.isEmpty then none else some (ds, cs.dropWhile Char.isDigit)

/-- A fraction: nothing, or a point and at least one digit. -/
def fraction? : List Char → Option (List Char × List Char)
  | '.' :: cs =>
    let ds := cs.takeWhile Char.isDigit
    if ds.isEmpty then none else some (ds, cs.dropWhile Char.isDigit)
  | cs => some ([], cs)

/-- An exponent part: nothing, or a letter and an exponent. -/
def exponentPart? : List Char → Option (Option Int × List Char)
  | 'e' :: cs => (exponent? cs).map fun p => (some p.1, p.2)
  | 'E' :: cs => (exponent? cs).map fun p => (some p.1, p.2)
  | cs => some (none, cs)

/-- The value of a number given by its parts and by the text it is written as. -/
def ofParts (negative : Bool) (whole fraction : List Char) (exponent : Option Int)
    (literal : List Char) : Json :=
  let plain := fraction.isEmpty && exponent.isNone
  match if plain then whole? negative whole else none with
  | some n => .int n
  | none =>
    if overflows whole fraction (exponent.getD 0) then .unreadable
    else .decimal (String.ofList literal)

/-- The number at the start of a text and the rest of the text. -/
def number? (cs : List Char) : Option (Json × List Char) := do
  let (negative, body) : Bool × List Char :=
    match cs with
    | '-' :: r => (true, r)
    | r => (false, r)
  let (whole, r) ← wholePart? body
  let (fraction, r) ← fraction? r
  let (exponent, r) ← exponentPart? r
  some (ofParts negative whole fraction exponent (cs.take (cs.length - r.length)), r)

end ListenDeck.Json
