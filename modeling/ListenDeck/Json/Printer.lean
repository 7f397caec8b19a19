import ListenDeck.Json.Reader
import ListenDeck.Text.Numeral

/-!
# Writing JSON

The shortest text of a value: no blanks, fields in their order. In a string the quote, the
backslash and the characters below U+0020 are escaped, the five that have a short escape by it, the
others by four hexadecimal digits; every other character stands for itself.

* `Json.escapeChar`, `Json.quoteChars`: a character and a string as they are written.
* `Json.toChars`, `Json.render`: the text of a value.
-/

namespace ListenDeck.Json

open Text (hexDigit)

/-- A character as it is written inside a string. -/
def escapeChar (c : Char) : List Char :=
  if c = '"' then ['\\', '"']
  else if c = '\\' then ['\\', '\\']
  else if c = '\x08' then ['\\', 'b']
  else if c = '\x0c' then ['\\', 'f']
  else if c = '\n' then ['\\', 'n']
  else if c = '\r' then ['\\', 'r']
  else if c = '\t' then ['\\', 't']
  else if c.toNat < 0x20 then
    ['\\', 'u', '0', '0', hexDigit (c.toNat / 16), hexDigit (c.toNat % 16)]
  else [c]

/-- A string between its quotes. -/
def quoteChars (s : String) : List Char :=
  '"' :: s.toList.flatMap escapeChar ++ ['"']

mutual

/-- The characters of a value. An unreadable piece is written as `null`. -/
def toChars : Json → List Char
  | .null => ['n', 'u', 'l', 'l']
  | .bool true => ['t', 'r', 'u', 'e']
  | .bool false => ['f', 'a', 'l', 's', 'e']
  | .int n => (Text.decimalInt n).toList
  | .decimal literal => literal.toList
  | .string s => quoteChars s
  | .array items => '[' :: itemsToChars items ++ [']']
  | .object fields => '{' :: fieldsToChars fields ++ ['}']
  | .unreadable => ['n', 'u', 'l', 'l']

/-- The items of an array, with commas between them. -/
def itemsToChars : List Json → List Char
  | [] => []
  | [j] => toChars j
  | j :: rest => toChars j ++ ',' :: itemsToChars rest

/-- The fields of an object, with commas between them. -/
def fieldsToChars : List (String × Json) → List Char
  | [] => []
  | [(k, j)] => quoteChars k ++ ':' :: toChars j
  | (k, j) :: rest => quoteChars k ++ ':' :: (toChars j ++ ',' :: fieldsToChars rest)

end

/-- The text of a value. -/
def render (j : Json) : String := String.ofList j.toChars

end ListenDeck.Json
