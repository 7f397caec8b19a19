import ListenDeck.Text.Numeral
import Mathlib.Data.List.Induction
import Mathlib.Data.List.TakeWhile
import Mathlib.Data.Nat.Digits.Defs
import Mathlib.Tactic.Common

/-!
# The grammar of numerals

Which texts are numerals and of what, said by the places of their digits, and what the readers make
of them.

* `Text.IsDigits`, `Text.IsNatural`, `Text.IsInteger`: digits of a value, alone, with an optional
  `+`, with an optional `+` or `-`.
* `Text.readDigits?_eq_some_iff`, `Text.readNat?_eq_some_iff`, `Text.readInt?_eq_some_iff`: the
  readers accept these texts and no others.
* `Text.Padded`: a text with blanks around it; `Text.trimChars_of_padded` takes them away.
* `Text.readInt64?_trim_iff`: what is read as a number of 64 bits with blanks around it.
* `Text.readUInt64?_trim_iff`: the same without sign.
* `Text.decimal_append_inj`: a numeral is told from what follows it.
* `Text.readInt64?_decimal`: the numeral of a number of 64 bits reads back.
-/

namespace ListenDeck.Text

/-! ## Blanks around a text -/

/-- The text is another one with blanks around it. -/
def Padded (text cs : List Char) : Prop :=
  ∃ before after, (∀ c ∈ before, isBlank c = true) ∧ (∀ c ∈ after, isBlank c = true) ∧
    text = before ++ cs ++ after

theorem trimChars_of_all {cs : List Char} (h : ∀ c ∈ cs, isBlank c = false) :
    trimChars cs = cs := by
  have hdrop : ∀ l : List Char, (∀ c ∈ l, isBlank c = false) → l.dropWhile isBlank = l := by
    intro l hl
    cases l with
    | nil => rfl
    | cons c l => exact List.dropWhile_cons_of_neg (by simp [hl c])
  unfold trimChars dropEndWhile
  rw [hdrop cs h, hdrop cs.reverse (by simpa using h), List.reverse_reverse]

theorem padded_trimChars (text : List Char) : Padded text (trimChars text) := by
  have hstart := List.takeWhile_append_dropWhile (p := isBlank) (l := text)
  have hend := List.takeWhile_append_dropWhile (p := isBlank)
    (l := (text.dropWhile isBlank).reverse)
  refine ⟨text.takeWhile isBlank, ((text.dropWhile isBlank).reverse.takeWhile isBlank).reverse,
    fun c hc => List.mem_takeWhile_imp hc, fun c hc => ?_, ?_⟩
  · rw [List.mem_reverse] at hc
    exact List.mem_takeWhile_imp hc
  · have hrest : trimChars text ++ ((text.dropWhile isBlank).reverse.takeWhile isBlank).reverse =
        text.dropWhile isBlank := by
      unfold trimChars dropEndWhile
      rw [← List.reverse_append, hend, List.reverse_reverse]
    rw [List.append_assoc, hrest]
    exact hstart.symm

/-- **The blanks around a text** without blanks are trimmed away. -/
theorem trimChars_of_padded {text cs : List Char} (h : Padded text cs)
    (hcs : ∀ c ∈ cs, isBlank c = false) : trimChars text = cs := by
  obtain ⟨before, after, hbefore, hafter, rfl⟩ := h
  have hself := trimChars_of_all hcs
  unfold trimChars at hself ⊢
  rw [List.append_assoc, List.dropWhile_append_of_pos hbefore, List.dropWhile_append]
  split_ifs with hnil
  · -- nothing is left but the blanks at the end
    rw [List.isEmpty_iff] at hnil
    have hall : after.dropWhile isBlank = [] := List.dropWhile_eq_nil_iff.mpr hafter
    rw [hnil] at hself
    rw [hall, hself]
  · rw [dropEndWhile_append_of_all _ hafter]
    exact hself

/-! ## Digits -/

/-- The text is made of digits, at least one, which are worth `n` by their places. -/
def IsDigits (cs : List Char) (n : Nat) : Prop :=
  cs ≠ [] ∧ (∀ c ∈ cs, c.isDigit = true) ∧
    Nat.ofDigits 10 (cs.reverse.map fun c => c.toNat - '0'.toNat) = n

/-- The text is a numeral of a natural number: an optional `+` and digits. -/
def IsNatural (cs : List Char) (n : Nat) : Prop :=
  ∃ digits, IsDigits digits n ∧ (cs = digits ∨ cs = '+' :: digits)

/-- The text is a numeral of an integer: an optional `+` or `-` and digits. -/
def IsInteger (cs : List Char) (v : Int) : Prop :=
  ∃ digits n, IsDigits digits n ∧
    ((cs = digits ∨ cs = '+' :: digits) ∧ v = n ∨ cs = '-' :: digits ∧ v = -n)

/-- The value of digits from the left to the right is their value by places. -/
theorem ofDigitChars_eq (cs : List Char) :
    Nat.ofDigitChars 10 cs 0 = Nat.ofDigits 10 (cs.reverse.map fun c => c.toNat - '0'.toNat) := by
  induction cs using List.reverseRecOn with
  | nil => rfl
  | append_singleton cs c ih =>
    have hlast : Nat.ofDigitChars 10 (cs ++ [c]) 0 =
        10 * Nat.ofDigitChars 10 cs 0 + (c.toNat - '0'.toNat) := by
      unfold Nat.ofDigitChars
      rw [List.foldl_append]
      rfl
    rw [hlast, ih, List.reverse_append, List.reverse_singleton, List.singleton_append,
      List.map_cons, Nat.ofDigits_cons]
    omega

theorem span_digits {digits r : List Char} (hdigits : ∀ c ∈ digits, c.isDigit = true)
    (hr : ∀ c ∈ r.head?, c.isDigit = false) :
    (digits ++ r).takeWhile Char.isDigit = digits ∧ (digits ++ r).dropWhile Char.isDigit = r := by
  rw [List.takeWhile_append_of_pos hdigits, List.dropWhile_append_of_pos hdigits]
  cases r with
  | nil => exact ⟨List.append_nil _, rfl⟩
  | cons c r =>
    have hc : ¬ c.isDigit = true := by simp [hr c rfl]
    rw [List.takeWhile_cons_of_neg hc, List.dropWhile_cons_of_neg hc]
    exact ⟨List.append_nil _, rfl⟩

section Digits
variable {cs : List Char} {n : Nat}

/-- **What is read as digits.** -/
theorem readDigits?_eq_some_iff : readDigits? cs = some n ↔ IsDigits cs n := by
  unfold readDigits? IsDigits
  rw [← ofDigitChars_eq]
  by_cases hnil : cs = []
  · simp [hnil]
  · by_cases hall : ∀ c ∈ cs, c.isDigit = true
    · have hcond : (!cs.isEmpty && cs.all Char.isDigit) = true := by
        rw [Bool.and_eq_true, List.all_eq_true]
        exact ⟨by simp [hnil], hall⟩
      rw [if_pos hcond, Option.some.injEq]
      exact ⟨fun h => ⟨hnil, hall, h⟩, fun h => h.2.2⟩
    · have hcond : ¬ (!cs.isEmpty && cs.all Char.isDigit) = true := by
        rw [Bool.and_eq_true, List.all_eq_true]
        exact fun h => hall h.2
      rw [if_neg hcond]
      exact iff_of_false (by simp) fun h => hall h.2.1

theorem IsDigits.value_unique {m : Nat} (h : IsDigits cs n) (h' : IsDigits cs m) : n = m :=
  h.2.2.symm.trans h'.2.2

theorem IsDigits.ne_plus (h : IsDigits cs n) (digits : List Char) : cs ≠ '+' :: digits := by
  rintro rfl
  exact absurd (h.2.1 '+' List.mem_cons_self) (by decide)

theorem IsDigits.ne_minus (h : IsDigits cs n) (digits : List Char) : cs ≠ '-' :: digits := by
  rintro rfl
  exact absurd (h.2.1 '-' List.mem_cons_self) (by decide)

/-- **What is read as a natural number.** -/
theorem readNat?_eq_some_iff : readNat? cs = some n ↔ IsNatural cs n := by
  unfold readNat? IsNatural
  split
  next digits =>
    rw [readDigits?_eq_some_iff]
    constructor
    · intro h
      exact ⟨digits, h, Or.inr rfl⟩
    · rintro ⟨ds, h, rfl | he⟩
      · exact absurd rfl (h.ne_plus digits)
      · rw [List.cons.injEq] at he
        rw [he.2]
        exact h
  next hplus =>
    rw [readDigits?_eq_some_iff]
    constructor
    · intro h
      exact ⟨cs, h, Or.inl rfl⟩
    · rintro ⟨ds, h, rfl | rfl⟩
      · exact h
      · exact absurd rfl (hplus ds)

/-- **What is read as an integer.** -/
theorem readInt?_eq_some_iff {v : Int} : readInt? cs = some v ↔ IsInteger cs v := by
  unfold readInt? IsInteger
  split
  next digits =>
    simp only [Option.map_eq_some_iff, Option.bind_eq_bind, Option.bind_eq_some_iff,
      Option.pure_def, Option.some.injEq, readDigits?_eq_some_iff]
    constructor
    · rintro ⟨-, ⟨n, h, rfl⟩, rfl⟩
      exact ⟨digits, n, h, Or.inr ⟨rfl, rfl⟩⟩
    · rintro ⟨ds, n, h, ⟨rfl | he, -⟩ | ⟨he, rfl⟩⟩
      · exact absurd rfl (h.ne_minus digits)
      · simp at he
      · rw [List.cons.injEq] at he
        exact ⟨n, ⟨n, he.2 ▸ h, rfl⟩, rfl⟩
  next hminus =>
    simp only [Option.map_eq_some_iff, readNat?_eq_some_iff, IsNatural]
    constructor
    · rintro ⟨n, ⟨ds, h, hcs⟩, rfl⟩
      exact ⟨ds, n, h, Or.inl ⟨hcs, rfl⟩⟩
    · rintro ⟨ds, n, h, ⟨hcs, rfl⟩ | ⟨rfl, -⟩⟩
      · exact ⟨n, ⟨ds, h, hcs⟩, rfl⟩
      · exact absurd rfl (hminus ds)

end Digits

/-! ## Numerals have no blanks -/

theorem isBlank_of_isDigit {c : Char} (h : c.isDigit = true) : isBlank c = false := by
  rw [Char.isDigit_iff_toNat] at h
  have h1 : 48 ≤ c.toNat := h.1
  have h2 : c.toNat ≤ 57 := h.2
  simp only [isBlank, blankRanges, List.any_cons, List.any_nil, Bool.or_eq_false_iff,
    Bool.and_eq_false_iff, decide_eq_false_iff_not, and_true]
  refine ⟨?_, ?_, ?_, ?_, ?_, ?_, ?_, ?_, ?_, ?_⟩ <;> omega

theorem IsInteger.isBlank_eq_false {cs : List Char} {v : Int} (h : IsInteger cs v) :
    ∀ c ∈ cs, isBlank c = false := by
  obtain ⟨digits, n, ⟨-, hdigits, -⟩, hcs⟩ := h
  have hall : ∀ c ∈ digits, isBlank c = false := fun c hc => isBlank_of_isDigit (hdigits c hc)
  have hsign : ∀ sign, isBlank sign = false → ∀ c ∈ sign :: digits, isBlank c = false :=
    fun sign hs => List.forall_mem_cons.mpr ⟨hs, hall⟩
  rcases hcs with ⟨rfl | rfl, -⟩ | ⟨rfl, -⟩
  · exact hall
  · exact hsign '+' (by decide)
  · exact hsign '-' (by decide)

theorem IsNatural.isInteger {cs : List Char} {n : Nat} (h : IsNatural cs n) : IsInteger cs n := by
  obtain ⟨digits, hdigits, hcs⟩ := h
  exact ⟨digits, n, hdigits, .inl ⟨hcs, rfl⟩⟩

/-! ## Numbers of 64 bits -/

theorem inInt64_toInt (v : Int64) : InInt64 v.toInt := by
  have hlow := v.le_toInt
  have hhigh := v.toInt_lt
  unfold InInt64
  omega

theorem toInt_ofInt {n : Int} (h : InInt64 n) : (Int64.ofInt n).toInt = n := by
  obtain ⟨hlow, hhigh⟩ := h
  exact Int64.toInt_ofInt_of_le (by omega) (by omega)

/-- **What is read as a number of 64 bits**, with a sign: the numerals of the numbers in range. -/
theorem readInt64?_eq_some_iff {s : String} {v : Int64} :
    readInt64? s = some v ↔ IsInteger s.toList v.toInt := by
  unfold readInt64?
  rw [← readInt?_eq_some_iff, Option.map_eq_some_iff]
  constructor
  · rintro ⟨n, hn, rfl⟩
    obtain ⟨hread, hin⟩ := Option.filter_eq_some_iff.mp hn
    rw [toInt_ofInt (of_decide_eq_true hin)]
    exact hread
  · intro hread
    exact ⟨v.toInt, Option.filter_eq_some_iff.mpr ⟨hread, decide_eq_true (inInt64_toInt v)⟩,
      Int64.ofInt_toInt v⟩

/-- **What is read as a number of 64 bits with blanks around it.** -/
theorem readInt64?_trim_iff {s : String} {v : Int64} :
    readInt64? (trim s) = some v ↔ ∃ cs, Padded s.toList cs ∧ IsInteger cs v.toInt := by
  rw [readInt64?_eq_some_iff, toList_trim]
  constructor
  · intro h
    exact ⟨trimChars s.toList, padded_trimChars s.toList, h⟩
  · rintro ⟨cs, hpadded, h⟩
    rw [trimChars_of_padded hpadded h.isBlank_eq_false]
    exact h

section Unsigned
variable {s : String} {v : UInt64}

/-- **What is read as a number of 64 bits without sign.** -/
theorem readUInt64?_eq_some_iff : readUInt64? s = some v ↔ IsNatural s.toList v.toNat := by
  unfold readUInt64? readBelow?
  rw [← readNat?_eq_some_iff, Option.map_eq_some_iff]
  constructor
  · rintro ⟨n, hn, rfl⟩
    obtain ⟨hread, hlt⟩ := Option.filter_eq_some_iff.mp hn
    rw [UInt64.toNat_ofNat_of_lt' (of_decide_eq_true hlt)]
    exact hread
  · intro hread
    exact ⟨v.toNat, Option.filter_eq_some_iff.mpr ⟨hread, decide_eq_true v.toNat_lt⟩,
      UInt64.ofNat_toNat⟩

/-- **What is read as a number of 64 bits without sign, with blanks around it.** -/
theorem readUInt64?_trim_iff :
    readUInt64? (trim s) = some v ↔ ∃ cs, Padded s.toList cs ∧ IsNatural cs v.toNat := by
  rw [readUInt64?_eq_some_iff, toList_trim]
  constructor
  · intro h
    exact ⟨trimChars s.toList, padded_trimChars s.toList, h⟩
  · rintro ⟨cs, hpadded, h⟩
    rw [trimChars_of_padded hpadded h.isInteger.isBlank_eq_false]
    exact h

end Unsigned

/-! ## Numerals that are written -/

theorem isDigits_decimal (n : Nat) : IsDigits (decimal n).toList n :=
  readDigits?_eq_some_iff.mp (readDigits?_decimal n)

theorem decimal_injective : Function.Injective decimal := by
  intro m n h
  have hdigits := isDigits_decimal m
  rw [h] at hdigits
  exact hdigits.value_unique (isDigits_decimal n)

/-- **A numeral is told** from what follows it, if no digit does. -/
theorem decimal_append_inj {m n : Nat} {r r' : List Char}
    (hr : ∀ c ∈ r.head?, c.isDigit = false) (hr' : ∀ c ∈ r'.head?, c.isDigit = false)
    (h : (decimal m).toList ++ r = (decimal n).toList ++ r') : m = n ∧ r = r' := by
  obtain ⟨hm, hmr⟩ := span_digits (isDigits_decimal m).2.1 hr
  obtain ⟨hn, hnr⟩ := span_digits (isDigits_decimal n).2.1 hr'
  rw [h, hn] at hm
  rw [h, hnr] at hmr
  exact ⟨decimal_injective (String.toList_inj.mp hm.symm), hmr.symm⟩

/-- **A numeral of 64 bits reads back.** -/
theorem readInt64?_decimal {n : Nat} (h : InInt64 n) :
    readInt64? (decimal n) = some (Int64.ofInt n) := by
  rw [readInt64?_eq_some_iff, toInt_ofInt h]
  exact ⟨_, n, isDigits_decimal n, Or.inl ⟨Or.inl rfl, rfl⟩⟩

theorem trim_decimal (n : Nat) : trim (decimal n) = decimal n := by
  rw [← String.toList_inj, toList_trim]
  exact trimChars_of_all fun c hc => isBlank_of_isDigit ((isDigits_decimal n).2.1 c hc)

end ListenDeck.Text
