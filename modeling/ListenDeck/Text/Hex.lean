/-!
# Hexadecimal digits

* `hexValue?`: the value of a digit of either case.
* `hexDigit`, `hexDigitUpper`: the digit of a value below 16.
-/

namespace ListenDeck.Text

/-- The value of a hexadecimal digit. -/
def hexValue? (c : Char) : Option Nat :=
  if '0' ≤ c && c ≤ '9' then some (c.toNat - '0'.toNat)
  else if 'a' ≤ c && c ≤ 'f' then some (c.toNat - 'a'.toNat + 10)
  else if 'A' ≤ c && c ≤ 'F' then some (c.toNat - 'A'.toNat + 10)
  else none

/-- The character some places after another one. -/
def charAfter (c : Char) (n : Nat) : Char := Char.ofNat (c.toNat + n)

/-- A hexadecimal digit in lower case. -/
def hexDigit (n : Nat) : Char := if n < 10 then charAfter '0' n else charAfter 'a' (n - 10)

/-- A hexadecimal digit in upper case. -/
def hexDigitUpper (n : Nat) : Char := if n < 10 then charAfter '0' n else charAfter 'A' (n - 10)

theorem hexValue?_hexDigit {n : Nat} (h : n < 16) : hexValue? (hexDigit n) = some n := by
  have all : ∀ n ∈ List.range 16, hexValue? (hexDigit n) = some n := by decide
  exact all n (List.mem_range.2 h)

theorem hexValue?_hexDigitUpper {n : Nat} (h : n < 16) :
    hexValue? (hexDigitUpper n) = some n := by
  have all : ∀ n ∈ List.range 16, hexValue? (hexDigitUpper n) = some n := by decide
  exact all n (List.mem_range.2 h)

end ListenDeck.Text
