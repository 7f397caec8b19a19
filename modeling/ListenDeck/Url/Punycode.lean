import ListenDeck.Text.Split

/-!
# Punycode

A label of a host name that is not ASCII is written in ASCII: its ASCII characters, then the places
and numbers of the others as differences in a variable base.

* `punycode`: the ASCII form of a label.
* `readPunycode?`: the label of an ASCII form.
-/

namespace ListenDeck.Url

open Text

/-- A digit in base 36: the letters, then the figures. -/
def base36Digit (n : Nat) : Char :=
  if n < 26 then Char.ofNat ('a'.toNat + n) else Char.ofNat ('0'.toNat + (n - 26))

/-- The base of the digit at a weight: between 1 and 26. -/
def digitThreshold (weight bias : Nat) : Nat := max 1 (min 26 (weight - bias))

/-- The digits of a difference, least first. -/
def differenceDigits (n weight bias : Nat) : List Char :=
  let t := digitThreshold weight bias
  if n < t then [base36Digit n]
  else
    base36Digit (t + (n - t) % (36 - t)) ::
      differenceDigits ((n - t) / (36 - t)) (weight + 36) bias
termination_by n
decreasing_by
  have ht : 1 ≤ t := Nat.le_max_left ..
  exact Nat.lt_of_le_of_lt (Nat.div_le_self ..) (by omega)

/-- Divides by 35 until at most 455 is left, and counts 36 for each time. -/
def shrink (n count : Nat) : Nat × Nat :=
  if n ≤ 455 then (n, count) else shrink (n / 35) (count + 36)
termination_by n
decreasing_by exact Nat.div_lt_self (by omega) (by omega)

/-- The bias after a difference, with the number of characters written then. -/
def adaptBias (difference written : Nat) (first : Bool) : Nat :=
  let n := if first then difference / 700 else difference / 2
  let (n, count) := shrink (n + n / written) 0
  count + 36 * n / (n + 38)

/-- How far a label is written. -/
structure PunycodeState where
  written : Nat
  difference : Nat := 0
  bias : Nat := 72
  first : Bool := true
  output : List Char

/-- A character of the label while the characters of a number are written. -/
def PunycodeState.visit (number : Nat) (s : PunycodeState) (c : Char) : PunycodeState :=
  if c.toNat < number then { s with difference := s.difference + 1 }
  else if c.toNat = number then
    { written := s.written + 1
      difference := 0
      bias := adaptBias s.difference (s.written + 1) s.first
      first := false
      output := s.output ++ differenceDigits s.difference 36 s.bias }
  else s

/-- Writes the characters of each number in turn; `next` is the least number not written yet. -/
def PunycodeState.writeAll (label : List Char) (next : Nat) (s : PunycodeState) :
    List Nat → PunycodeState
  | [] => s
  | number :: rest =>
    let s := { s with difference := s.difference + (number - next) * (s.written + 1) }
    let s := label.foldl (visit number) s
    writeAll label (number + 1) { s with difference := s.difference + 1 } rest

/-- The numbers of the characters that are not ASCII, each once, in order. -/
def foreignNumbers (label : List Char) : List Nat :=
  (((label.filter (0x80 ≤ ·.toNat)).map Char.toNat).mergeSort (· ≤ ·)).eraseDups

/-- The ASCII form of a label. -/
def punycode (label : List Char) : List Char :=
  let basic := label.filter (·.toNat < 0x80)
  let start : PunycodeState :=
    { written := basic.length, output := if basic.isEmpty then [] else basic ++ ['-'] }
  (start.writeAll label 0x80 (foreignNumbers label)).output

/-! ## Reading -/

/-- The value of a digit in base 36. -/
def base36Value? (c : Char) : Option Nat :=
  if 'a' ≤ c && c ≤ 'z' then some (c.toNat - 'a'.toNat)
  else if '0' ≤ c && c ≤ '9' then some (c.toNat - '0'.toNat + 26)
  else none

/-- The difference that starts a text, added to `n`, and what follows it. A digit of the given
weight counts `unit`. No number here may need more than 32 bits. -/
def readDifference? (bias : Nat) : Nat → Nat → Nat → List Char → Option (Nat × List Char)
  | _, _, _, [] => none
  | n, weight, unit, c :: rest =>
    match base36Value? c with
    | none => none
    | some d =>
      let n := n + d * unit
      let t := digitThreshold weight bias
      if UInt32.size ≤ n then none
      else if d < t then some (n, rest)
      else if UInt32.size ≤ unit * (36 - t) then none
      else readDifference? bias n (weight + 36) (unit * (36 - t)) rest

theorem length_lt_of_readDifference? {bias n weight unit : Nat} {cs : List Char}
    {r : Nat × List Char} (h : readDifference? bias n weight unit cs = some r) :
    r.2.length < cs.length := by
  induction cs generalizing n weight unit with
  | nil => simp [readDifference?] at h
  | cons c rest ih =>
    unfold readDifference? at h
    split at h
    · simp at h
    · dsimp only at h
      split at h
      · simp at h
      · split at h
        · cases h
          simp
        · split at h
          · simp at h
          · have := ih h
            simp only [List.length_cons]
            omega

/-- Puts the characters of an ASCII form into a label. `number` is the number of the last one and
`place` the place after it. -/
def insertForeign? (label : List Char) (number place bias : Nat) (cs : List Char) :
    Option (List Char) :=
  match cs with
  | [] => some label
  | c :: rest =>
    match _h : readDifference? bias place 36 1 (c :: rest) with
    | none => none
    | some (n, rest') =>
      let count := label.length + 1
      let number := number + n / count
      if number.isValidChar then
        insertForeign? (label.insertIdx (n % count) (Char.ofNat number)) number (n % count + 1)
          (adaptBias (n - place) count (place = 0)) rest'
      else none
termination_by cs.length
decreasing_by exact length_lt_of_readDifference? _h

/-- The label of an ASCII form in lower case. -/
def readPunycode? (cs : List Char) : Option (List Char) :=
  match cutAtLast (· == '-') cs with
  | (none, code) => insertForeign? [] 0x80 0 72 code
  | (some [], _) => none
  | (some basic, code) => insertForeign? basic 0x80 0 72 code

end ListenDeck.Url
