import ListenDeck.Proofs.Json.Literals
import ListenDeck.Proofs.Json.RoundTrip
import ListenDeck.Server.Answer

/-!
# What is a count

The length of a list comes as a number or as a numeral in a string. Which values are counts is said
here by the grammar of numerals; nothing else is read as one, and no count is cut or wrapped.

* `Server.IsCount`: the values that are counts.
* `Server.readTotal?_eq_some_iff`: they are what is read, and nothing else is.
* `Server.readPins?_eq_some_iff`: the length that a list of pins is read with.
* `Server.isCount_of_padded`: a numeral with blanks around it and the number are the same count.
* `Server.counts_accepted`: all of this for whole records and texts of numbers.
-/

namespace ListenDeck

open Text

/-! ## Numbers -/

/-- **A number of 64 bits without sign** is a whole number in range. -/
theorem Json.uint64?_eq_some_iff {j : Json} {v : UInt64} :
    j.uint64? = some v ↔ j = .int v.toNat := by
  constructor
  · intro h
    obtain ⟨n, hn, rfl⟩ := Option.map_eq_some_iff.mp h
    unfold Json.below? at hn
    split at hn
    next m =>
      split_ifs at hn with hlt
      cases hn
      rw [UInt64.toNat_ofNat_of_lt' hlt]
      rfl
    next => cases hn
  · rintro rfl
    exact Json.uint64?_ofUInt64 v

namespace Server

/-- **The value is a count**: a whole number of 64 bits without sign, or a string that is, with
blanks around it, a numeral of one, an optional `+` and digits. -/
def IsCount (j : Json) (v : UInt64) : Prop :=
  j = .int v.toNat ∨
    ∃ s cs, j = .string s ∧ Padded s.toList cs ∧ IsNatural cs v.toNat

section Value
variable {j : Json} {v : UInt64}

theorem readCount?_eq_some_iff : readCount? j = some v ↔ IsCount j v := by
  unfold readCount? IsCount
  split
  next s =>
    rw [readUInt64?_trim_iff]
    constructor
    · rintro ⟨cs, hpadded, hcs⟩
      exact .inr ⟨s, cs, rfl, hpadded, hcs⟩
    · rintro (h | ⟨_, cs, h, hpadded, hcs⟩)
      · cases h
      · cases h
        exact ⟨cs, hpadded, hcs⟩
  next hstring =>
    rw [Json.uint64?_eq_some_iff]
    constructor
    · exact .inl
    · rintro (h | ⟨s, -, h, -⟩)
      · exact h
      · exact absurd h (hstring s)

/-- **What is read as the length of a list** when it is given. -/
theorem readTotal?_eq_some_iff : readTotal? (some j) = some v ↔ IsCount j v := by
  have hreadable : IsCount j v → j.readable = true := by
    rintro (rfl | ⟨s, -, rfl, -⟩) <;> rfl
  show (if j.readable then readCount? j else none) = some v ↔ _
  rw [← readCount?_eq_some_iff] at *
  split_ifs with h
  · exact Iff.rfl
  · exact iff_of_false (by simp) fun hcount => h (hreadable hcount)

end Value

/-- **A list of pins** is read with the count that its record gives. -/
theorem readPins?_eq_some_iff {record j : Json} {page : ItemPage}
    (hrecord : record.isRecord ["pinned_recordings", "total_count"] = true)
    (hj : record.slot 1 "total_count" = some j) : readPins? record = some page ↔
      ∃ pins v, Json.withDefault [] (Json.list? Pin.ofJson?) (record.slot 0 "pinned_recordings") =
          some pins ∧
        IsCount j v ∧ page = { items := pins.map .pin, total := v.toNat } := by
  unfold readPins?
  rw [if_pos hrecord, hj]
  simp only [Option.bind_eq_bind, Option.bind_eq_some_iff, readTotal?_eq_some_iff,
    Option.some.injEq]
  constructor
  · rintro ⟨pins, hpins, v, hv, rfl⟩
    exact ⟨pins, v, hpins, hv, rfl⟩
  · rintro ⟨pins, v, hpins, hv, rfl⟩
    exact ⟨pins, hpins, v, hv, rfl⟩

theorem isCount_of_number? {cs r : List Char} {j : Json} (h : Json.number? cs = some (j, r)) :
    ∃ literal, cs = literal ++ r ∧ ∀ v : UInt64, IsCount j v ↔ IsDigits literal v.toNat := by
  obtain ⟨literal, hcs, hint⟩ := Json.number?_eq_int_iff h
  have hstring : ∀ s, j ≠ .string s := by
    obtain ⟨-, -, -, -, -, -, -, -, -, -, -, rfl⟩ := Json.number?_sound h
    exact Json.ofParts_ne_string
  refine ⟨literal, hcs, fun v => ?_⟩
  rw [← and_iff_left v.toNat_lt (a := IsDigits literal v.toNat), ← hint]
  constructor
  · rintro (h | ⟨s, -, h, -⟩)
    · exact h
    · exact absurd h (hstring s)
  · exact .inl

/-- **A numeral with blanks around it** is the same count as its number. -/
theorem isCount_of_padded {s : String} {v : UInt64}
    (h : Padded s.toList (decimal v.toNat).toList) :
    IsCount (.string s) v ∧ IsCount (.int v.toNat) v :=
  ⟨.inr ⟨s, _, rfl, h, _, isDigits_decimal v.toNat, .inl rfl⟩, .inl rfl⟩

/-- The text of a record that gives a count. -/
def countText (j : Json) : String := (Json.object [("total_count", j)]).render

theorem totalOfJson?_eq_some_iff {record j : Json} {v : UInt64}
    (hrecord : record.isRecord ["total_count"] = true)
    (hj : record.slot 0 "total_count" = some j) :
    totalOfJson? record = some v ↔ IsCount j v := by
  unfold totalOfJson?
  rw [if_pos hrecord, hj, readTotal?_eq_some_iff]

theorem total_of_countText {j : Json} {v : UInt64} (hfits : j.fits 1 = true) (h : IsCount j v) :
    (Json.parse? (countText j)).bind totalOfJson? = some v := by
  have hparse : Json.parse? (countText j) = some (.object [("total_count", j)]) :=
    Json.parse?_render (by simpa [Json.fits, Json.fitsFields, Json.maxDepth] using hfits)
  rw [hparse, Option.bind_some, totalOfJson?_eq_some_iff rfl rfl]
  exact h

/-- **Counts are accepted exactly by their grammar.** A record of a count, and a record of pins
whose pins can be read, is read if and only if the value under `total_count` is a count, and with
that count. A number is one if and only if it is written in digits alone that are worth it: none
with a sign, a fraction or an exponent, and none beyond 64 bits. The text of a number of 64 bits is
read as that number, as it stands and in a string with any blanks around it. -/
theorem counts_accepted :
    (∀ record j, record.isRecord ["total_count"] = true → record.slot 0 "total_count" = some j →
      ∀ v, totalOfJson? record = some v ↔ IsCount j v) ∧
    (∀ record j, record.isRecord ["pinned_recordings", "total_count"] = true →
      record.slot 1 "total_count" = some j → ∀ page, readPins? record = some page ↔
        ∃ pins v, Json.withDefault [] (Json.list? Pin.ofJson?)
            (record.slot 0 "pinned_recordings") = some pins ∧
          IsCount j v ∧ page = { items := pins.map .pin, total := v.toNat }) ∧
    (∀ cs j r, Json.number? cs = some (j, r) → ∃ literal, cs = literal ++ r ∧
      ∀ v : UInt64, IsCount j v ↔ IsDigits literal v.toNat) ∧
    ∀ (v : UInt64) (s : String), Padded s.toList (decimal v.toNat).toList →
      (Json.parse? (countText (.string s))).bind totalOfJson? = some v ∧
      (Json.parse? (countText (.int v.toNat))).bind totalOfJson? = some v := by
  refine ⟨fun record j hrecord hj v => totalOfJson?_eq_some_iff hrecord hj,
    fun record j hrecord hj page => readPins?_eq_some_iff hrecord hj,
    fun cs j r h => isCount_of_number? h, fun v s h => ?_⟩
  obtain ⟨hstring, hint⟩ := isCount_of_padded h
  have hfits : (Json.int v.toNat).fits 1 = true := by
    rw [Json.fits, decide_eq_true_eq]
    exact Json.inWord_ofNat v.toNat_lt
  exact ⟨total_of_countText rfl hstring, total_of_countText hfits hint⟩

end Server

end ListenDeck
