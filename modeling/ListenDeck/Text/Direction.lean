import ListenDeck.Text.Blank
import ListenDeck.Text.Direction.Rows
import ListenDeck.Text.Mark

/-!
# Directions of writing

A text may hold letters that are written from the left and others that are written from the right.
It has one clear order only if no part mixes them.

* `Direction`: how a character is written.
* `direction`: the direction of a character.
* `keepsDirection`: the part can stand in a text with letters from the right.
-/

namespace ListenDeck.Text

/-- How a character is written. -/
inductive Direction where
  | left
  | right
  | europeanNumber
  | arabicNumber
  /-- A sign that follows what stands around it. -/
  | neutral
  /-- A mark, which follows what stands before it. -/
  | mark
  deriving DecidableEq, Repr, Inhabited

/-- Letters written from right to left. -/
def rightRuns : List Run := readRuns rightRows

/-- Digits that are written as Arabic ones. -/
def arabicNumberRuns : List Run := readRuns arabicNumberRows

/-- Digits that are written as European ones. -/
def europeanNumberRuns : List Run := readRuns europeanNumberRows

/-- Signs without a direction of their own. -/
def neutralRuns : List Run := readRuns neutralRows

/-- The marks without a width of their own that are written like letters. -/
def letterlikeMarks : List Nat := [0xCBF, 0xCC6, 0x11A07, 0x11A08, 0x11C3F]

/-- The direction of a character. -/
def direction (c : Char) : Direction :=
  if c.isAlpha then .left
  else if c.isDigit then .europeanNumber
  else if c.toNat < 0x80 then .neutral
  else if inRuns rightRuns c then .right
  else if inRuns arabicNumberRuns c then .arabicNumber
  else if inRuns europeanNumberRuns c then .europeanNumber
  else if inRuns neutralRuns c then .neutral
  else if isNonspacing c && !letterlikeMarks.contains c.toNat then .mark
  else .left

/-- The character is written from the right, or a digit in a text that is. -/
def Direction.isRight (d : Direction) : Bool := d = .right || d = .arabicNumber

/-- The directions end with one of some, not counting marks. -/
def endsIn (allowed : List Direction) (ds : List Direction) : Bool :=
  ((dropEndWhile (· = .mark) ds).getLast?).all allowed.contains

/-- The directions of a part that begins with a letter. It is written from the left or from the
right as a whole, ends in a letter or digit, and has digits of one kind. -/
def keepsDirectionFrom (ds : List Direction) : Bool :=
  match ds with
  | [] => true
  | .left :: _ => !ds.any (·.isRight) && endsIn [.left, .europeanNumber] ds
  | .right :: _ =>
    !ds.contains .left && endsIn [.right, .europeanNumber, .arabicNumber] ds &&
      !(ds.contains .europeanNumber && ds.contains .arabicNumber)
  | _ => false

/-- The part can stand in a text with letters from the right. -/
def keepsDirection (cs : List Char) : Bool := keepsDirectionFrom (cs.map direction)

end ListenDeck.Text
