import ListenDeck.Json.Number
import ListenDeck.Proofs.Text.Numerals
import Mathlib.Tactic.Common

/-!
# Texts of numbers

What the reader of JSON numbers has read, part by part, and which numbers come out as whole ones.

* `Json.wholePart?_sound`, `Json.fraction?_sound`, `Json.exponentPart?_sound`: the parts, as they
  stand in the text.
* `Json.number?_sound`: a number is put together from them.
* `Json.number?_eq_int_iff`: a number is read as a natural one if and only if it is written in
  digits alone and they are worth no more than 64 bits hold.
-/

namespace ListenDeck.Json

open Text

variable {cs r : List Char}

/-! ## Parts -/

theorem wholePart?_sound {ds : List Char} (h : wholePart? cs = some (ds, r)) :
    cs = ds ++ r ∧ ds ≠ [] ∧ ∀ c ∈ ds, c.isDigit = true := by
  rw [wholePart?.eq_def] at h
  split at h
  next r' =>
    split_ifs at h
    cases h
    exact ⟨rfl, List.cons_ne_nil _ _, List.forall_mem_singleton.mpr rfl⟩
  next =>
    dsimp only at h
    split_ifs at h with hnil
    cases h
    refine ⟨List.takeWhile_append_dropWhile.symm, ?_, fun c hc => List.mem_takeWhile_imp hc⟩
    simpa using hnil

theorem fraction?_sound {ds : List Char} (h : fraction? cs = some (ds, r)) :
    cs = r ∧ ds = [] ∨ ∃ text, cs = '.' :: text ++ r ∧ ds ≠ [] := by
  rw [fraction?.eq_def] at h
  split at h
  next r' =>
    dsimp only at h
    split_ifs at h with hnil
    cases h
    refine .inr ⟨r'.takeWhile Char.isDigit, ?_, by simpa using hnil⟩
    rw [List.cons_append, List.takeWhile_append_dropWhile]
  next =>
    cases h
    exact .inl ⟨rfl, rfl⟩

theorem exponent?_sound {e : Int} (h : exponent? cs = some (e, r)) : ∃ text, cs = text ++ r := by
  -- the digits that are left when the sign is off
  have hdigits : ∀ (ds : List Char) (negative : Bool),
      (if (ds.takeWhile Char.isDigit).isEmpty then none else
        some (if negative then -(Nat.ofDigitChars 10 (ds.takeWhile Char.isDigit) 0 : Int)
          else Nat.ofDigitChars 10 (ds.takeWhile Char.isDigit) 0, ds.dropWhile Char.isDigit)) =
        some (e, r) → ds = ds.takeWhile Char.isDigit ++ r := by
    intro ds negative h
    split_ifs at h <;> cases h <;> exact List.takeWhile_append_dropWhile.symm
  unfold exponent? at h
  dsimp only at h
  split at h
  next ds => exact ⟨'-' :: _, congrArg _ (hdigits _ _ h)⟩
  next ds => exact ⟨'+' :: _, congrArg _ (hdigits _ _ h)⟩
  next => exact ⟨_, hdigits _ _ h⟩

theorem exponentPart?_sound {e : Option Int} (h : exponentPart? cs = some (e, r)) :
    cs = r ∧ e = none ∨ ∃ c text, cs = c :: text ++ r ∧ (c = 'e' ∨ c = 'E') ∧ e ≠ none := by
  rw [exponentPart?.eq_def] at h
  split at h
  next r' =>
    obtain ⟨⟨e', r''⟩, hr, he⟩ := Option.map_eq_some_iff.mp h
    cases he
    obtain ⟨text, rfl⟩ := exponent?_sound hr
    exact .inr ⟨'e', text, rfl, .inl rfl, by simp⟩
  next r' =>
    obtain ⟨⟨e', r''⟩, hr, he⟩ := Option.map_eq_some_iff.mp h
    cases he
    obtain ⟨text, rfl⟩ := exponent?_sound hr
    exact .inr ⟨'E', text, rfl, .inr rfl, by simp⟩
  next =>
    cases h
    exact .inl ⟨rfl, rfl⟩


/-! ## Numbers -/

theorem number?_sound {j : Json} (h : number? cs = some (j, r)) :
    ∃ (negative : Bool) (body whole r₁ fraction r₂ : List Char) (exponent : Option Int),
      (negative = true ∧ cs = '-' :: body ∨ negative = false ∧ cs = body) ∧
      wholePart? body = some (whole, r₁) ∧ fraction? r₁ = some (fraction, r₂) ∧
      exponentPart? r₂ = some (exponent, r) ∧
      j = ofParts negative whole fraction exponent (cs.take (cs.length - r.length)) := by
  unfold number? at h
  dsimp only at h
  split at h
  next body =>
    simp only [Option.bind_eq_bind, Option.bind_eq_some_iff, Prod.exists, Option.some.injEq,
      Prod.mk.injEq] at h
    obtain ⟨whole, r₁, hw, fraction, r₂, hf, exponent, r₃, he, rfl, rfl⟩ := h
    exact ⟨true, body, whole, r₁, fraction, r₂, exponent, .inl ⟨rfl, rfl⟩, hw, hf, he, rfl⟩
  next =>
    simp only [Option.bind_eq_bind, Option.bind_eq_some_iff, Prod.exists, Option.some.injEq,
      Prod.mk.injEq] at h
    obtain ⟨whole, r₁, hw, fraction, r₂, hf, exponent, r₃, he, rfl, rfl⟩ := h
    exact ⟨false, _, whole, r₁, fraction, r₂, exponent, .inr ⟨rfl, rfl⟩, hw, hf, he, rfl⟩

theorem ofParts_ne_string {negative : Bool} {whole fraction literal : List Char}
    {exponent : Option Int} (s : String) :
    ofParts negative whole fraction exponent literal ≠ .string s := by
  unfold ofParts
  dsimp only
  split
  · simp
  · split_ifs <;> simp

/-- Only a whole part is read as a whole number, and only one of 64 bits. -/
theorem ofParts_eq_int_iff {negative : Bool} {whole fraction literal : List Char}
    {exponent : Option Int} {n : Nat} :
    ofParts negative whole fraction exponent literal = .int n ↔
      (negative = false ∧ fraction = [] ∧ exponent = none) ∧
        Nat.ofDigitChars 10 whole 0 = n ∧ n < UInt64.size := by
  have hread : ofParts negative whole fraction exponent literal = .int n ↔
      (fraction = [] ∧ exponent = none) ∧ whole? negative whole = some (n : Int) := by
    unfold ofParts
    dsimp only
    by_cases hplain : (fraction.isEmpty && exponent.isNone) = true
    · rw [if_pos hplain]
      have hboth : fraction = [] ∧ exponent = none := by simpa using hplain
      cases whole? negative whole with
      | none => split_ifs <;> simp
      | some m => simp [hboth]
    · rw [if_neg hplain]
      have hnot : ¬ (fraction = [] ∧ exponent = none) := by simpa using hplain
      simp only [hnot, false_and, iff_false]
      split_ifs <;> simp
  have hwhole : whole? negative whole = some (n : Int) ↔
      negative = false ∧ Nat.ofDigitChars 10 whole 0 = n ∧ n < UInt64.size := by
    unfold whole?
    dsimp only
    cases negative with
    | true =>
      simp
      omega
    | false =>
      simp
      omega
  rw [hread, hwhole]
  tauto

theorem tail_sound {r₁ r₂ fraction : List Char} {exponent : Option Int}
    (hf : fraction? r₁ = some (fraction, r₂)) (he : exponentPart? r₂ = some (exponent, r)) :
    ∃ tail, r₁ = tail ++ r ∧ (fraction = [] ∧ exponent = none ↔ tail = []) ∧
      ((∀ c ∈ tail, c.isDigit = true) → tail = []) := by
  rcases fraction?_sound hf with ⟨rfl, rfl⟩ | ⟨text, rfl, hfraction⟩
  · rcases exponentPart?_sound he with ⟨rfl, rfl⟩ | ⟨c, text, rfl, hc, hexponent⟩
    · exact ⟨[], rfl, by simp, fun _ => rfl⟩
    · refine ⟨c :: text, rfl, by simp [hexponent], fun hall => ?_⟩
      have hdigit := hall c List.mem_cons_self
      rcases hc with rfl | rfl <;> cases hdigit
  · have hpoint : ∀ text', (∀ c ∈ '.' :: text', c.isDigit = true) → '.' :: text' = [] :=
      fun text' hall => absurd (hall '.' List.mem_cons_self) (by decide)
    rcases exponentPart?_sound he with ⟨rfl, rfl⟩ | ⟨c, text', rfl, -, -⟩
    · exact ⟨'.' :: text, rfl, by simp [hfraction], hpoint text⟩
    · refine ⟨'.' :: text ++ c :: text', ?_, by simp [hfraction], hpoint _⟩
      rw [List.append_assoc]

/-- **The numbers that are read as natural ones** are those written in digits alone. -/
theorem number?_eq_int_iff {j : Json} (h : number? cs = some (j, r)) :
    ∃ literal, cs = literal ++ r ∧
      ∀ n : Nat, j = .int n ↔ IsDigits literal n ∧ n < UInt64.size := by
  obtain ⟨negative, body, whole, r₁, fraction, r₂, exponent, hsign, hw, hf, he, rfl⟩ :=
    number?_sound h
  obtain ⟨rfl, hne, hdigits⟩ := wholePart?_sound hw
  obtain ⟨tail, rfl, hplain, hnone⟩ := tail_sound hf he
  have hvalue : ∀ n, IsDigits whole n ↔ Nat.ofDigitChars 10 whole 0 = n := by
    intro n
    rw [ofDigitChars_eq]
    exact ⟨fun hn => hn.2.2, fun hn => ⟨hne, hdigits, hn⟩⟩
  rcases hsign with ⟨rfl, rfl⟩ | ⟨rfl, rfl⟩
  · refine ⟨'-' :: whole ++ tail, by simp, fun n => ?_⟩
    rw [ofParts_eq_int_iff]
    refine iff_of_false (fun hn => nomatch hn.1.1) fun hn => ?_
    exact absurd (hn.1.2.1 '-' (by simp)) (by decide)
  · refine ⟨whole ++ tail, by simp, fun n => ?_⟩
    rw [ofParts_eq_int_iff, and_iff_right rfl, hplain, ← hvalue]
    constructor
    · rintro ⟨rfl, hn, hlt⟩
      rw [List.append_nil]
      exact ⟨hn, hlt⟩
    · rintro ⟨hn, hlt⟩
      obtain rfl : tail = [] := hnone fun c hc => hn.2.1 c (List.mem_append_right _ hc)
      rw [List.append_nil] at hn
      exact ⟨rfl, hn, hlt⟩

end ListenDeck.Json
