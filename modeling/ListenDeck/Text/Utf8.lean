/-!
# Texts as bytes

The UTF-8 form of a text. Bytes that are not the form of a text are read piece by piece: each
longest beginning of a character that breaks off, or a byte that begins none, is one ill-formed
piece.

* `utf8Bytes`: the bytes of a text.
* `utf8Pieces`: the characters of a list of bytes, with `none` for an ill-formed piece.
* `readUtf8?`: the text, if every piece is well formed.
* `readUtf8Lossy`: the text with U+FFFD for each ill-formed piece.
-/

namespace ListenDeck.Text

/-- The bytes of a list of characters. -/
def utf8Bytes (cs : List Char) : List UInt8 := cs.flatMap String.utf8EncodeChar

/-- What a byte above U+007F begins: the bits it brings, the range of the next byte, and how many
bytes follow after that one. -/
def utf8Lead? (b : UInt8) : Option (Nat × UInt8 × UInt8 × Nat) :=
  if b < 0xC2 then none
  else if b < 0xE0 then some (b.toNat - 0xC0, 0x80, 0xBF, 0)
  else if b = 0xE0 then some (0, 0xA0, 0xBF, 1)
  else if b = 0xED then some (0xD, 0x80, 0x9F, 1)
  else if b < 0xF0 then some (b.toNat - 0xE0, 0x80, 0xBF, 1)
  else if b = 0xF0 then some (0, 0x90, 0xBF, 2)
  else if b < 0xF4 then some (b.toNat - 0xF0, 0x80, 0xBF, 2)
  else if b = 0xF4 then some (4, 0x80, 0x8F, 2)
  else none

/-- The code point that `more + 1` following bytes complete, the first of them in a range, and the
bytes after the last one that fits. -/
def utf8Tail (bits : Nat) (low high : UInt8) : Nat → List UInt8 → Option Nat × List UInt8
  | _, [] => (none, [])
  | more, b :: rest =>
    if low ≤ b ∧ b ≤ high then
      match more with
      | 0 => (some (bits * 64 + (b.toNat - 0x80)), rest)
      | more + 1 => utf8Tail (bits * 64 + (b.toNat - 0x80)) 0x80 0xBF more rest
    else (none, b :: rest)

theorem length_utf8Tail_le (bits : Nat) (low high : UInt8) (more : Nat) (bs : List UInt8) :
    (utf8Tail bits low high more bs).2.length ≤ bs.length := by
  induction bs generalizing bits low high more with
  | nil => simp [utf8Tail]
  | cons b rest ih =>
    unfold utf8Tail
    split
    · split
      · simp
      · exact Nat.le_succ_of_le (ih ..)
    · simp

/-- The characters of a list of bytes; an ill-formed piece is `none`. -/
def utf8Pieces : List UInt8 → List (Option Char)
  | [] => []
  | b :: rest =>
    if b < 0x80 then some (Char.ofNat b.toNat) :: utf8Pieces rest
    else
      match utf8Lead? b with
      | none => none :: utf8Pieces rest
      | some (bits, low, high, more) =>
        (utf8Tail bits low high more rest).1.map Char.ofNat ::
          utf8Pieces (utf8Tail bits low high more rest).2
termination_by bs => bs.length
decreasing_by
  · simp
  · simp
  · have := length_utf8Tail_le bits low high more rest
    simp only [List.length_cons]
    omega

/-- The text of the bytes, if they are the form of one. -/
def readUtf8? (bs : List UInt8) : Option String := ((utf8Pieces bs).mapM id).map String.ofList

/-- The text of the bytes, with a replacement character for each ill-formed piece. -/
def readUtf8Lossy (bs : List UInt8) : String :=
  String.ofList ((utf8Pieces bs).map (·.getD '\uFFFD'))

end ListenDeck.Text
