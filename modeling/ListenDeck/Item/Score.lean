import ListenDeck.Json.Record

/-!
# Feedback scores

What a user thinks of a recording: hated, neutral or loved, on the wire -1, 0 and 1.

* `Score.ofInt?`, `Score.toInt`: the numbers of the scores.
* `Score.toggled`: asking for the score that is already set clears it.
-/

namespace ListenDeck

/-- What a user thinks of a recording. -/
inductive Score where
  | hated
  | neutral
  | loved
  deriving DecidableEq, Repr, Inhabited

namespace Score

/-- The number of a score. -/
def toInt : Score → Int
  | .hated => -1
  | .neutral => 0
  | .loved => 1

/-- The score of a number. -/
def ofInt? : Int → Option Score
  | -1 => some .hated
  | 0 => some .neutral
  | 1 => some .loved
  | _ => none

/-- What is said of a number that is no score. -/
def invalidMessage (n : Int) : String := "invalid feedback score " ++ Text.decimalInt n

/-- The score after `requested` was asked for while `current` was set. -/
def toggled (current requested : Score) : Score :=
  if current = requested then .neutral else requested

/-- The score of a JSON number. -/
def ofJson? (j : Json) : Option Score := j.int?.bind ofInt?

/-- The JSON number of a score. -/
def toJson (s : Score) : Json := .int s.toInt

end Score

end ListenDeck
