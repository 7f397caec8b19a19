import ListenDeck.Text.Percent
import Mathlib.Data.List.Basic

/-!
# Reading bytes and percent forms back

The bytes of a text are read as that text, and a percent form stands for the bytes of the text it
was made of. So neither form is shared by two texts, and a percent form of one text, whatever the
text, has no character but those that mean nothing in an address, percent signs and digits.

* `readUtf8?_utf8Bytes`: the text read from the bytes of a text.
* `percentBytes_percentChars`: the bytes that a percent form stands for.
-/

namespace ListenDeck.Text

/-! ## Bytes -/

theorem utf8Pieces_one {n : Nat} (h : n < 0x80) (rest : List UInt8) :
    utf8Pieces (UInt8.ofNat n :: rest) = some (Char.ofNat n) :: utf8Pieces rest := by
  have value : (UInt8.ofNat n).toNat = n := by
    rw [UInt8.toNat_ofNat']; omega
  have : UInt8.ofNat n < 0x80 := by
    rw [UInt8.lt_iff_toNat_lt, value]; exact h
  rw [utf8Pieces, if_pos this, value]

theorem utf8Pieces_lead {b : UInt8} {bits : Nat} {low high : UInt8} {more : Nat}
    (h : utf8Lead? b = some (bits, low, high, more)) (rest : List UInt8) :
    utf8Pieces (b :: rest) = (utf8Tail bits low high more rest).1.map Char.ofNat ::
      utf8Pieces (utf8Tail bits low high more rest).2 := by
  have notOne : ¬ b < 0x80 := by
    intro one
    have : b < 0xC2 := UInt8.lt_trans one (by decide)
    simp [utf8Lead?, this] at h
  rw [utf8Pieces, if_neg notOne, h]

theorem utf8Lead?_two {n : Nat} (low : 2 ≤ n) (high : n < 32) :
    utf8Lead? (UInt8.ofNat (n + 192)) = some (n, 0x80, 0xBF, 0) := by
  have all : ∀ n ∈ List.range 32, 2 ≤ n →
      utf8Lead? (UInt8.ofNat (n + 192)) = some (n, 0x80, 0xBF, 0) := by decide
  exact all n (List.mem_range.2 high) low

/-- The first byte of three; the second one must not make the form longer than it has to be, and
not a surrogate. -/
theorem utf8Lead?_three {n : Nat} (high : n < 16) :
    utf8Lead? (UInt8.ofNat (n + 224)) =
      some (n, if n = 0 then 0xA0 else 0x80, if n = 13 then 0x9F else 0xBF, 1) := by
  have all : ∀ n ∈ List.range 16, utf8Lead? (UInt8.ofNat (n + 224)) =
      some (n, if n = 0 then 0xA0 else 0x80, if n = 13 then 0x9F else 0xBF, 1) := by decide
  exact all n (List.mem_range.2 high)

/-- The first byte of four; the second one must not make the form longer than it has to be, and
not go beyond the last code point. -/
theorem utf8Lead?_four {n : Nat} (high : n < 5) :
    utf8Lead? (UInt8.ofNat (n + 240)) =
      some (n, if n = 0 then 0x90 else 0x80, if n = 4 then 0x8F else 0xBF, 2) := by
  have all : ∀ n ∈ List.range 5, utf8Lead? (UInt8.ofNat (n + 240)) =
      some (n, if n = 0 then 0x90 else 0x80, if n = 4 then 0x8F else 0xBF, 2) := by decide
  exact all n (List.mem_range.2 high)

section Tail

variable {low high : UInt8} {n : Nat} (small : n < 64)
  (h : low.toNat ≤ n + 128 ∧ n + 128 ≤ high.toNat)
include small h

theorem following_range : (low ≤ UInt8.ofNat (n + 128) ∧ UInt8.ofNat (n + 128) ≤ high) ∧
    (UInt8.ofNat (n + 128)).toNat - 0x80 = n := by
  have value : (UInt8.ofNat (n + 128)).toNat = n + 128 := by
    rw [UInt8.toNat_ofNat']; omega
  exact ⟨by simpa only [UInt8.le_iff_toNat_le, value] using h, by omega⟩

theorem utf8Tail_last (bits : Nat) (rest : List UInt8) :
    utf8Tail bits low high 0 (UInt8.ofNat (n + 128) :: rest) = (some (bits * 64 + n), rest) := by
  obtain ⟨range, value⟩ := following_range small h
  rw [utf8Tail, if_pos range, value]

theorem utf8Tail_more (bits more : Nat) (rest : List UInt8) :
    utf8Tail bits low high (more + 1) (UInt8.ofNat (n + 128) :: rest) =
      utf8Tail (bits * 64 + n) 0x80 0xBF more rest := by
  obtain ⟨range, value⟩ := following_range small h
  rw [utf8Tail, if_pos range, value]

end Tail

theorem toNat_valid (c : Char) :
    c.toNat < 0xD800 ∨ 0xDFFF < c.toNat ∧ c.toNat < 0x110000 := c.valid

theorem utf8Pieces_append (c : Char) (rest : List UInt8) :
    utf8Pieces (String.utf8EncodeChar c ++ rest) = some c :: utf8Pieces rest := by
  have valid := toNat_valid c
  have small (n : Nat) : n % 64 < 64 := Nat.mod_lt n (by decide)
  have within (n : Nat) :
      (0x80 : UInt8).toNat ≤ n % 64 + 128 ∧ n % 64 + 128 ≤ (0xBF : UInt8).toNat := by
    simp only [UInt8.reduceToNat]; omega
  have code {n : Nat} (h : n = c.toNat) : some (Char.ofNat n) = some c := by
    rw [h, Char.ofNat_toNat]
  unfold String.utf8EncodeChar
  dsimp only
  simp only [show c.val.toNat = c.toNat from rfl]
  generalize hv : c.toNat = v at valid code
  split_ifs with one two three
  · rw [List.singleton_append, utf8Pieces_one (by omega), code rfl]
  · have lead := utf8Lead?_two (n := v / 64 % 32) (by omega) (by omega)
    simp only [List.cons_append, List.nil_append]
    rw [utf8Pieces_lead lead, utf8Tail_last (small v) (within v)]
    simp only [Option.map_some, code (show v / 64 % 32 * 64 + v % 64 = v by omega)]
  · have lead := utf8Lead?_three (n := v / 4096 % 16) (by omega)
    simp only [List.cons_append, List.nil_append]
    rw [utf8Pieces_lead lead, utf8Tail_more (small (v / 64)) ?_ _ 0,
      utf8Tail_last (small v) (within v)]
    · simp only [Option.map_some,
        code (show (v / 4096 % 16 * 64 + v / 64 % 64) * 64 + v % 64 = v by omega)]
    · split_ifs <;> simp only [UInt8.reduceToNat] <;> omega
  · have lead := utf8Lead?_four (n := v / 262144 % 8) (by omega)
    simp only [List.cons_append, List.nil_append]
    rw [utf8Pieces_lead lead, utf8Tail_more (small (v / 4096)) ?_ _ 1,
      utf8Tail_more (small (v / 64)) (within (v / 64)) _ 0, utf8Tail_last (small v) (within v)]
    · simp only [Option.map_some, code (show ((v / 262144 % 8 * 64 + v / 4096 % 64) * 64 +
        v / 64 % 64) * 64 + v % 64 = v by omega)]
    · split_ifs <;> simp only [UInt8.reduceToNat] <;> omega

theorem utf8Pieces_utf8Bytes (cs : List Char) : utf8Pieces (utf8Bytes cs) = cs.map some := by
  induction cs with
  | nil => simp [utf8Bytes, utf8Pieces]
  | cons c cs ih =>
    rw [utf8Bytes, List.flatMap_cons, utf8Pieces_append, ← utf8Bytes, ih, List.map_cons]

/-- **The bytes of a text are read as the text.** -/
theorem readUtf8?_utf8Bytes (cs : List Char) :
    readUtf8? (utf8Bytes cs) = some (String.ofList cs) := by
  have all : (cs.map some).mapM id = some cs := by
    induction cs with
    | nil => rfl
    | cons c cs ih => rw [List.map_cons, List.mapM_cons, ih]; rfl
  rw [readUtf8?, utf8Pieces_utf8Bytes, all, Option.map_some]

theorem utf8Bytes_inj {cs ds : List Char} : utf8Bytes cs = utf8Bytes ds ↔ cs = ds := by
  refine ⟨fun h => ?_, congrArg utf8Bytes⟩
  have := congrArg readUtf8? h
  rw [readUtf8?_utf8Bytes, readUtf8?_utf8Bytes] at this
  simpa [String.ext_iff] using this

/-! ## Percent forms -/

theorem percentBytes_cons {c : Char} (h : c ≠ '%') (rest : List Char) :
    percentBytes (c :: rest) = String.utf8EncodeChar c ++ percentBytes rest := by
  rw [percentBytes]
  rintro a b t ⟨⟩ -
  exact h rfl

theorem percentBytes_percentByte (b : UInt8) (rest : List Char) :
    percentBytes (percentByte b ++ rest) = b :: percentBytes rest := by
  have size := b.toNat_lt
  have high : hexValue? (hexDigitUpper (b.toNat / 16)) = some (b.toNat / 16) :=
    hexValue?_hexDigitUpper (by omega)
  have low : hexValue? (hexDigitUpper (b.toNat % 16)) = some (b.toNat % 16) :=
    hexValue?_hexDigitUpper (by omega)
  have value : b.toNat / 16 * 16 + b.toNat % 16 = b.toNat := by omega
  simp only [percentByte, List.cons_append, List.nil_append, percentBytes, high, low, value,
    UInt8.ofNat_toNat]

theorem percentBytes_flatMap (bs : List UInt8) (rest : List Char) :
    percentBytes (bs.flatMap percentByte ++ rest) = bs ++ percentBytes rest := by
  induction bs with
  | nil => rfl
  | cons b bs ih =>
    rw [List.flatMap_cons, List.append_assoc, percentBytes_percentByte, ih, List.cons_append]

/-- **A percent form stands for the bytes of its text**, if a percent sign does not stand for
itself. -/
theorem percentBytes_percentChars {keep : Char → Bool} (h : keep '%' = false) (cs : List Char) :
    percentBytes (percentChars keep cs) = utf8Bytes cs := by
  induction cs with
  | nil => rfl
  | cons c cs ih =>
    have step : percentBytes (percentChar keep c ++ percentChars keep cs) =
        String.utf8EncodeChar c ++ percentBytes (percentChars keep cs) := by
      unfold percentChar
      split
      · rename_i kept
        exact percentBytes_cons (by rintro rfl; simp [h] at kept) _
      · exact percentBytes_flatMap _ _
    rw [percentChars, List.flatMap_cons, ← percentChars, step, ih]
    simp [utf8Bytes]

end ListenDeck.Text
