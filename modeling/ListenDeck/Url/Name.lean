import ListenDeck.Text.Direction
import ListenDeck.Text.Joining
import ListenDeck.Url.Punycode
import ListenDeck.Url.Spelling

/-!
# Names of hosts

A name is one or more labels with dots between them. A label may be given as it is read or in ASCII,
behind the mark `xn--`; it is written in ASCII.

* `Label`: a label in both forms.
* `readLabel?`: the label of a spelling.
* `readName?`: a name as it is written.
-/

namespace ListenDeck.Url

open Text

/-- A part of a name between its dots. -/
structure Label where
  read : List Char
  written : List Char
  deriving DecidableEq, Repr, Inhabited

/-- What stands before a label that is not written as it is read. -/
def codeMark : List Char := ['x', 'n', '-', '-']

/-- The label can be read: it does not start with a mark, its joiners have an effect, and it is not
too long. -/
def isLegible (label : List Char) : Bool :=
  !label.head?.any isMark && placesJoiners label && label.length ≤ 1000

/-- The label of an ASCII form. It stands for a spelling and for nothing that would be spelled in
another way. -/
def readCode? (code : List Char) : Option (List Char) :=
  if code.isEmpty || code.getLast? = some '-' || !code.all isAscii || 2000 < code.length then none
  else (readPunycode? code).filter fun label => spelled? label = some label && isLegible label

/-- The label of a spelling. -/
def readLabel? (cs : List Char) : Option Label :=
  if codeMark.isPrefixOf cs then (readCode? (cs.drop codeMark.length)).map fun label => ⟨label, cs⟩
  else if cs.all isAscii then some ⟨cs, cs⟩
  else if isLegible cs then some ⟨cs, codeMark ++ punycode cs⟩
  else none

/-- No label mixes letters from the left and from the right, if the name has letters from the
right. -/
def keepsDirections (labels : List Label) : Bool :=
  !(labels.any fun l => l.read.any fun c => (direction c).isRight) ||
    labels.all fun l => keepsDirection l.read

/-- The characters no host may have, besides control characters. -/
def hostDelimiters : List Char :=
  [' ', '#', '/', ':', '<', '>', '?', '@', '[', '\\', ']', '^', '|']

/-- The character may be part of a name: it is not of ASCII, or it is visible, no percent sign and
no delimiter. -/
def isNameChar (c : Char) : Bool :=
  !isAscii c || (0x20 < c.toNat && c.toNat < 0x7F && c ≠ '%' && !hostDelimiters.contains c)

/-- A name as it is written. -/
def readName? (cs : List Char) : Option (List Char) := do
  let spelling ← (spelled? cs).filter (·.all isNameChar)
  let labels ← (pieces (· == '.') spelling).mapM readLabel?
  if keepsDirections labels then some (['.'].intercalate (labels.map (·.written))) else none

end ListenDeck.Url
