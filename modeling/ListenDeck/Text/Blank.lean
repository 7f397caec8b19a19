/-!
# Blank characters

The white space of Unicode (the property `White_Space`) and the removal of it from both ends of a
text.

* `isBlank`: the property, by its ten ranges.
* `trim`: a text without the blanks at its ends.
* `dropEndWhile`: a list without the longest end of which every member has a property.
-/

namespace ListenDeck.Text

/-- The ranges of the property `White_Space`, ends included. -/
def blankRanges : List (Nat × Nat) :=
  [(0x09, 0x0D), (0x20, 0x20), (0x85, 0x85), (0xA0, 0xA0), (0x1680, 0x1680), (0x2000, 0x200A),
    (0x2028, 0x2029), (0x202F, 0x202F), (0x205F, 0x205F), (0x3000, 0x3000)]

/-- A character of the property `White_Space`. -/
def isBlank (c : Char) : Bool :=
  blankRanges.any fun r => r.1 ≤ c.toNat && c.toNat ≤ r.2

/-- The list without the longest end of which every member satisfies `p`. -/
def dropEndWhile {α : Type} (p : α → Bool) (l : List α) : List α :=
  (l.reverse.dropWhile p).reverse

/-- The characters without the blanks at both ends. -/
def trimChars (cs : List Char) : List Char :=
  dropEndWhile isBlank (cs.dropWhile isBlank)

/-- The text without the blanks at both ends. -/
def trim (s : String) : String :=
  String.ofList (trimChars s.toList)

/-- The text without the slashes at its end. -/
def dropEndSlashes (s : String) : String :=
  String.ofList (dropEndWhile (· == '/') s.toList)

@[simp]
theorem toList_trim (s : String) : (trim s).toList = trimChars s.toList := by
  simp [trim]

@[simp]
theorem toList_dropEndSlashes (s : String) :
    (dropEndSlashes s).toList = dropEndWhile (· == '/') s.toList := by
  simp [dropEndSlashes]

theorem dropEndWhile_append_of_all {α : Type} {p : α → Bool} (l : List α) {e : List α}
    (h : ∀ a ∈ e, p a = true) : dropEndWhile p (l ++ e) = dropEndWhile p l := by
  have : (e.reverse ++ l.reverse).dropWhile p = l.reverse.dropWhile p :=
    List.dropWhile_append_of_pos (by simpa using h)
  simp [dropEndWhile, this]

end ListenDeck.Text
