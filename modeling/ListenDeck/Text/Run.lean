import ListenDeck.Text.Hex
import ListenDeck.Text.Split

/-!
# Tables of characters

A property of characters is the same for runs of neighbours, so that a table of it lists the runs.
The rows of a table are texts with blanks between the runs. A run is written as its first code point
and, after a hyphen, its last one, if there are more than one. What belongs to it follows: after `=`
if it is the same for the whole run, or after `>` if it is that of the first code point and grows
with the code points. Numbers are hexadecimal; `+` stands between several.

* `Run`: neighbouring code points and the numbers that belong to them.
* `readRuns`: the runs of rows.
* `runOf?`: the run of a character.
-/

namespace ListenDeck.Text

/-- Neighbouring code points and what belongs to them. -/
structure Run where
  first : Nat
  last : Nat
  /-- The numbers that belong to the first code point. -/
  numbers : List Nat := []
  /-- The numbers grow with the code point. -/
  grows : Bool := false
  deriving DecidableEq, Repr, Inhabited

/-- The code point is in the run. -/
def Run.has (r : Run) (c : Char) : Bool := r.first ≤ c.toNat && c.toNat ≤ r.last

/-- The numbers that belong to a code point of the run. -/
def Run.numbersAt (r : Run) (c : Char) : List Nat :=
  if r.grows then r.numbers.map (· + (c.toNat - r.first)) else r.numbers

/-- The value of hexadecimal digits; other characters count as zero. -/
def hexNumber (cs : List Char) : Nat := cs.foldl (fun n c => n * 16 + (hexValue? c).getD 0) 0

/-- The run of a text. -/
def readRun (cs : List Char) : Run :=
  let (place, numbers) := cutAt (fun c => c == '=' || c == '>') cs
  let (first, last) := cutAt (· == '-') place
  { first := hexNumber first
    last := hexNumber (last.getD first)
    numbers := numbers.elim [] fun l => (pieces (· == '+') l).map hexNumber
    grows := cs.contains '>' }

/-- The runs of rows. -/
def readRuns (rows : List String) : List Run :=
  rows.flatMap fun row => (pieces (· == ' ') row.toList).map readRun

/-- The run of a character. -/
def runOf? (runs : List Run) (c : Char) : Option Run := runs.find? (·.has c)

/-- The character is in one of the runs. -/
def inRuns (runs : List Run) (c : Char) : Bool := runs.any (·.has c)

end ListenDeck.Text
