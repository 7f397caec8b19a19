import ListenDeck.Text.Mark.Rows
import ListenDeck.Text.Run

/-!
# Marks

Characters that are written on or beside the character before them. Marks of different combining
classes do not touch each other, so that their order means nothing; those of one class stand further
out one after the other. Everything else has the class zero.

* `isMark`, `isNonspacing`: the character is a mark, or one without a width of its own.
* `combiningClass`: the class of a character.
* `isVirama`: the mark takes the vowel from the letter before it.
-/

namespace ListenDeck.Text

/-- The marks without a width of their own. -/
def nonspacingMarks : List Run := readRuns nonspacingRows

/-- The marks with a width of their own. -/
def spacingMarks : List Run := readRuns spacingRows

/-- The character is a mark without a width of its own. -/
def isNonspacing (c : Char) : Bool := inRuns nonspacingMarks c

/-- The character is a mark. -/
def isMark (c : Char) : Bool := isNonspacing c || inRuns spacingMarks c

/-- The combining class of a character. -/
def combiningClass (c : Char) : Nat :=
  match (runOf? nonspacingMarks c).or (runOf? spacingMarks c) with
  | some r => r.numbers.headD 0
  | none => 0

/-- The mark takes the vowel from the letter before it. -/
def isVirama (c : Char) : Bool := combiningClass c = 9

end ListenDeck.Text
