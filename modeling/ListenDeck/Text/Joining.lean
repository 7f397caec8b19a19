import ListenDeck.Text.Joining.Rows
import ListenDeck.Text.Mark

/-!
# Joining letters

In cursive scripts the shape of a letter depends on the letters beside it. Two characters without a
shape, the joiner and the non-joiner, ask for another shape; they stand where they can change one.

* `Joining`: the sides on which a character joins.
* `joining`: how a character joins.
* `placesJoiners`: each joiner stands where it can change a shape.
-/

namespace ListenDeck.Text

/-- The sides on which a character joins its neighbours. -/
inductive Joining where
  | neither
  | both
  /-- What stands before it. -/
  | before
  /-- What stands after it. -/
  | after
  /-- The characters around it join as if it were not there. -/
  | transparent
  deriving DecidableEq, Repr, Inhabited

/-- Letters that join on both sides. -/
def bothRuns : List Run := readRuns bothRows

/-- Letters that join what stands before them only. -/
def beforeRuns : List Run := readRuns beforeRows

/-- Letters that join what stands after them only. -/
def afterRuns : List Run := readRuns afterRows

/-- The one letter that joins like a mark. -/
def marklikeLetter : Nat := 0x1E94B

/-- How a character joins. -/
def joining (c : Char) : Joining :=
  if c.toNat < 0x80 then .neither
  else if inRuns bothRuns c then .both
  else if inRuns beforeRuns c then .before
  else if inRuns afterRuns c then .after
  else if isNonspacing c || c.toNat = marklikeLetter then .transparent
  else .neither

/-- The nearest character that is not transparent joins in one of some ways. -/
def meets (ways : List Joining) (cs : List Char) : Bool :=
  match cs.map joining |>.dropWhile (· = .transparent) with
  | [] => false
  | j :: _ => ways.contains j

/-- The character that keeps letters apart. -/
def nonJoiner : Char := '\u200C'

/-- The character that joins letters. -/
def joiner : Char := '\u200D'

/-- Each joiner follows a virama, or is a non-joiner between letters that would join. The characters
before are `before`, last one first. -/
def placesJoinersAfter (before : List Char) : List Char → Bool
  | [] => true
  | c :: rest =>
    ((c ≠ joiner && c ≠ nonJoiner) || before.head?.any isVirama ||
        (c == nonJoiner && meets [.after, .both] before && meets [.before, .both] rest)) &&
      placesJoinersAfter (c :: before) rest

/-- Each joiner stands where it can change a shape. -/
def placesJoiners (cs : List Char) : Bool := placesJoinersAfter [] cs

end ListenDeck.Text
