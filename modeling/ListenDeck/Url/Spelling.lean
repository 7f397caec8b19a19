import ListenDeck.Text.Composition
import ListenDeck.Url.Spelling.Rows

/-!
# Spelling of names

A name of a host can be typed in many ways: with capitals, with wide or narrow forms, with signs
that stand for several letters, with characters that cannot be seen. They all are one name, which is
spelled in one way. Some characters cannot be part of a name at all. The tables are those of Unicode
17 for names of hosts.

* `spelling?`: what stands for a character in a name.
* `spelled?`: the one spelling of a name.
-/

namespace ListenDeck.Url

open Text

/-- The characters that are left out. -/
def droppedRuns : List Run := readRuns droppedRows

/-- Runs of capitals, each before its small letter. -/
def capitalRuns : List Run := readRuns capitalRows

/-- The characters that stand for themselves. -/
def keptRuns : List Run := readRuns keptRows

/-- The characters with others that stand for them. -/
def replacedRuns : List Run := readRuns replacedRows

/-- The character is the capital of the next one. -/
def isPairedCapital (c : Char) : Bool :=
  capitalRuns.any fun r => r.has c && (c.toNat - r.first) % 2 == 0

/-- What stands for a character beyond ASCII; `none` if it cannot be part of a name. -/
def foreignSpelling? (c : Char) : Option (List Char) :=
  if inRuns droppedRuns c then some []
  else
    match runOf? replacedRuns c with
    | some r => some ((r.numbersAt c).map Char.ofNat)
    | none =>
      if isPairedCapital c then some [Char.ofNat (c.toNat + 1)]
      else if inRuns keptRuns c then some [c]
      else none

/-- What stands for a character. -/
def spelling? (c : Char) : Option (List Char) :=
  if c.toNat < 0x80 then some [c.toLower] else foreignSpelling? c

/-- The character is one of ASCII. -/
def isAscii (c : Char) : Bool := c.toNat < 0x80

/-- The one spelling of a name: in ASCII only the case is free. -/
def spelled? (cs : List Char) : Option (List Char) :=
  if cs.all isAscii then some (cs.map Char.toLower)
  else (cs.mapM spelling?).map fun parts => composed parts.flatten

end ListenDeck.Url
