import ListenDeck.Text.Hidden

/-!
# Quoted texts

A text between quotes, with escapes for what would end it or could not be seen.

* `quoted`: the text between quotes.
-/

namespace ListenDeck.Text

/-- The code point in lower case hexadecimal digits. -/
def hexCode (c : Char) : String := String.ofList (Nat.toDigits 16 c.toNat)

/-- A character of a quoted text. -/
def quotedChar (c : Char) : String :=
  if c = '"' then "\\\""
  else if c = '\\' then "\\\\"
  else if c = '\n' then "\\n"
  else if c = '\r' then "\\r"
  else if c = '\t' then "\\t"
  else if c = '\x00' then "\\0"
  else if isHidden c then "\\u\x7b" ++ hexCode c ++ "\x7d"
  else String.singleton c

/-- The text between quotes. -/
def quoted (s : String) : String := "\"" ++ String.join (s.toList.map quotedChar) ++ "\""

end ListenDeck.Text
