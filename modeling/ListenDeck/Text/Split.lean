/-!
# Cutting texts

* `pieces`: the parts of a list between its separators.
* `cutAt`: the parts before and after the first separator.
* `cutAtLast`: the parts before and after the last separator.
-/

namespace ListenDeck.Text

/-- The parts between the separators; always at least one. -/
def pieces (sep : Char → Bool) : List Char → List (List Char)
  | [] => [[]]
  | c :: rest =>
    if sep c then [] :: pieces sep rest
    else
      match pieces sep rest with
      | [] => [[c]]
      | p :: ps => (c :: p) :: ps

/-- The part before the first separator and the part after it, if there is one. -/
def cutAt (sep : Char → Bool) : List Char → List Char × Option (List Char)
  | [] => ([], none)
  | c :: rest =>
    if sep c then ([], some rest)
    else
      let (before, after) := cutAt sep rest
      (c :: before, after)

/-- The part before the last separator, if there is one, and the part after it. -/
def cutAtLast (sep : Char → Bool) (cs : List Char) : Option (List Char) × List Char :=
  let (after, before) := cutAt sep cs.reverse
  (before.map List.reverse, after.reverse)

end ListenDeck.Text
