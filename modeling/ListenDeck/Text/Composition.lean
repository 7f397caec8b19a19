import ListenDeck.Text.Composition.Rows
import ListenDeck.Text.Mark

/-!
# Composed form

A letter with marks can be written as one character or as several. In the composed form it is as few
as there are characters for, and marks whose order means nothing are in the order of their classes.

* `partsOf`, `whole?`: the parts of a character, and the character of parts.
* `inOrder`: marks in the order of their classes.
* `composed`: the composed form.
-/

namespace ListenDeck.Text

/-- The composites and their parts. -/
def composites : List Run := readRuns compositeRows

/-! ## Syllables of Hangul -/

/-- The first syllable. For each pair of a consonant and a vowel there are 28: one without another
consonant at its end, and 27 with one. -/
def syllableStart : Nat := 0xAC00

/-- The first of the 19 consonants that begin a syllable. -/
def leadStart : Nat := 0x1100

/-- The first of the 21 vowels of syllables. -/
def vowelStart : Nat := 0x1161

/-- The place before the first of the 27 consonants that end a syllable. -/
def tailStart : Nat := 0x11A7

/-- The letters of a syllable. -/
def syllableParts? (c : Char) : Option (List Char) :=
  let n := c.toNat - syllableStart
  if c.toNat < syllableStart || 19 * 21 * 28 ≤ n then none
  else
    let lead := Char.ofNat (leadStart + n / (21 * 28))
    let vowel := Char.ofNat (vowelStart + n / 28 % 21)
    some (if n % 28 = 0 then [lead, vowel] else [lead, vowel, Char.ofNat (tailStart + n % 28)])

/-- The place of a character among `count` characters from a first one on. -/
def placeAmong? (first count : Nat) (c : Char) : Option Nat :=
  if first ≤ c.toNat ∧ c.toNat < first + count then some (c.toNat - first) else none

/-- The syllable of a consonant, a vowel and perhaps another consonant. -/
def syllable? : List Char → Option Char
  | [lead, vowel] => do
    let l ← placeAmong? leadStart 19 lead
    let v ← placeAmong? vowelStart 21 vowel
    some (Char.ofNat (syllableStart + (l * 21 + v) * 28))
  | [lead, vowel, tail] => do
    let l ← placeAmong? leadStart 19 lead
    let v ← placeAmong? vowelStart 21 vowel
    let t ← placeAmong? (tailStart + 1) 27 tail
    some (Char.ofNat (syllableStart + (l * 21 + v) * 28 + t + 1))
  | _ => none

/-! ## Parts -/

/-- The parts of a character: itself, if it is none of the composites. -/
def partsOf (c : Char) : List Char :=
  match syllableParts? c with
  | some l => l
  | none =>
    match runOf? composites c with
    | some r => r.numbers.map Char.ofNat
    | none => [c]

/-- The composite of parts. -/
def whole? (parts : List Char) : Option Char :=
  (syllable? parts).or
    ((composites.find? (·.numbers = parts.map Char.toNat)).map fun r => Char.ofNat r.first)

/-- The composite of a character and a part more. -/
def join? (c part : Char) : Option Char := whole? (partsOf c ++ [part])

/-! ## Order of marks -/

/-- Puts a character before the marks that are ordered already, behind those of a lesser class. -/
def settle (c : Char) : List Char → List Char
  | [] => [c]
  | d :: rest =>
    if combiningClass d = 0 ∨ combiningClass c ≤ combiningClass d then c :: d :: rest
    else d :: settle c rest

/-- The characters with each sequence of marks in the order of their classes. -/
def inOrder (cs : List Char) : List Char := cs.foldr settle []

/-! ## Composing -/

/-- Joins characters to the last one that is no mark, which is `base`. The marks since then that are
not joined are `marks`, last one first. A mark is joined only past marks of a lesser class. -/
def composeOn (base : Char) (marks : List Char) : List Char → List Char
  | [] => base :: marks.reverse
  | c :: rest =>
    let near := marks.all fun m => combiningClass m < combiningClass c
    match if near then join? base c else none with
    | some whole => composeOn whole marks rest
    | none =>
      if combiningClass c = 0 then base :: marks.reverse ++ composeOn c [] rest
      else composeOn base (c :: marks) rest

/-- Joins what can be joined, from the first character on that is no mark. -/
def compose : List Char → List Char
  | [] => []
  | c :: rest => if combiningClass c = 0 then composeOn c [] rest else c :: compose rest

/-- The composed form. -/
def composed (cs : List Char) : List Char := compose (inOrder (cs.flatMap partsOf))

end ListenDeck.Text
