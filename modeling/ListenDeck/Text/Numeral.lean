import ListenDeck.Text.Blank

/-!
# Numerals

Whole numbers written in decimal. A numeral is an optional sign and at least one ASCII digit,
nothing else; a reader for a word type refuses a value outside the type's range, so no reader wraps.

* `readDigits?`: the value of a non-empty list of ASCII digits.
* `readNat?`, `readInt?`: with an optional `+`, respectively an optional `+` or `-`.
* `readUInt32?`, `readUInt64?`, `readInt64?`: the same within the range of a word.
* `decimal`, `decimalInt`: the shortest numeral of a value.
-/

namespace ListenDeck.Text

/-- The value of a non-empty list of ASCII digits. -/
def readDigits? (cs : List Char) : Option Nat :=
  if !cs.isEmpty && cs.all Char.isDigit then some (Nat.ofDigitChars 10 cs 0) else none

/-- An optional `+`, then digits. -/
def readNat? : List Char → Option Nat
  | '+' :: cs => readDigits? cs
  | cs => readDigits? cs

/-- An optional `+` or `-`, then digits. -/
def readInt? : List Char → Option Int
  | '-' :: cs => (readDigits? cs).map fun n => -(n : Int)
  | cs => (readNat? cs).map Int.ofNat

/-- The natural number below `bound` that the whole text is a numeral of. -/
def readBelow? (bound : Nat) (s : String) : Option Nat :=
  (readNat? s.toList).filter (· < bound)

/-- The text as a numeral of 32 bits without sign. -/
def readUInt32? (s : String) : Option UInt32 :=
  (readBelow? UInt32.size s).map UInt32.ofNat

/-- The text as a numeral of 64 bits without sign. -/
def readUInt64? (s : String) : Option UInt64 :=
  (readBelow? UInt64.size s).map UInt64.ofNat

/-- The range of a signed word of 64 bits. -/
def InInt64 (n : Int) : Prop := -9223372036854775808 ≤ n ∧ n < 9223372036854775808

instance (n : Int) : Decidable (InInt64 n) := inferInstanceAs (Decidable (_ ∧ _))

/-- The text as a signed numeral of 64 bits. -/
def readInt64? (s : String) : Option Int64 :=
  ((readInt? s.toList).filter fun n => decide (InInt64 n)).map Int64.ofInt

/-- The numeral of a natural number. -/
def decimal (n : Nat) : String := n.repr

/-- The numeral of an integer: a minus sign before the size of a negative one. -/
def decimalInt : Int → String
  | .ofNat n => decimal n
  | .negSucc n => "-" ++ decimal (n + 1)

/-- Two digits at least, a zero in front of a single one. -/
def decimalTwo (n : Nat) : String :=
  if n < 10 then "0" ++ decimal n else decimal n

theorem readDigits?_toDigits (n : Nat) : readDigits? (Nat.toDigits 10 n) = some n := by
  have hall : (Nat.toDigits 10 n).all Char.isDigit = true :=
    List.all_eq_true.2 fun c hc => Nat.isDigit_of_mem_toDigits (by omega) (by omega) hc
  have hne : (Nat.toDigits 10 n).isEmpty = false := by
    simp [Nat.toDigits_ne_nil]
  simp [readDigits?, hall, hne, Nat.ofDigitChars_toDigits]

theorem readDigits?_decimal (n : Nat) : readDigits? (decimal n).toList = some n := by
  simp [decimal, Nat.toList_repr, readDigits?_toDigits]

end ListenDeck.Text
