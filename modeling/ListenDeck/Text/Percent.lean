import ListenDeck.Text.Hex
import ListenDeck.Text.Utf8

/-!
# Percent form

A text in which every byte of a character that may not stand for itself is written as a percent
sign and two hexadecimal digits.

* `percentChars`: the percent form, given which characters stand for themselves.
* `percentBytes`: the bytes that a percent form stands for.
* `segmentText`: a text as one segment of a path.
* `formText`: a text as a value of a query.
-/

namespace ListenDeck.Text

/-- A byte in percent form. -/
def percentByte (b : UInt8) : List Char :=
  ['%', hexDigitUpper (b.toNat / 16), hexDigitUpper (b.toNat % 16)]

/-- A character in percent form, unless it stands for itself. -/
def percentChar (keep : Char → Bool) (c : Char) : List Char :=
  if keep c then [c] else (String.utf8EncodeChar c).flatMap percentByte

/-- The characters in percent form, but for those that stand for themselves. -/
def percentChars (keep : Char → Bool) (cs : List Char) : List Char := cs.flatMap (percentChar keep)

/-- The bytes that a percent form stands for. A percent sign without two digits stands for
itself. -/
def percentBytes : List Char → List UInt8
  | '%' :: a :: b :: rest =>
    match hexValue? a, hexValue? b with
    | some x, some y => UInt8.ofNat (x * 16 + y) :: percentBytes rest
    | _, _ => 0x25 :: percentBytes (a :: b :: rest)
  | c :: rest => String.utf8EncodeChar c ++ percentBytes rest
  | [] => []

/-- The characters that mean nothing in an address: letters, digits and `-`, `_`, `.`, `~`. -/
def isUnreserved (c : Char) : Bool :=
  c.isAlphanum || c == '-' || c == '_' || c == '.' || c == '~'

/-- A text as one segment of a path. -/
def segmentText (s : String) : String := String.ofList (percentChars isUnreserved s.toList)

/-- The characters that stand for themselves in a query's value: letters, digits and `*`, `-`, `.`,
`_`. -/
def isFormKept (c : Char) : Bool :=
  c.isAlphanum || c == '*' || c == '-' || c == '.' || c == '_'

/-- A character of a query's value; a space is a plus sign. -/
def formChar (c : Char) : List Char := if c = ' ' then ['+'] else percentChar isFormKept c

/-- A text as a name or value of a query. -/
def formText (s : String) : String := String.ofList (s.toList.flatMap formChar)

end ListenDeck.Text
