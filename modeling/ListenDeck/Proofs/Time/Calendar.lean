import ListenDeck.Proofs.Text.Numerals
import ListenDeck.Time.Calendar
import Mathlib.Order.Monotone.Basic
import Mathlib.Tactic.Common
import Mathlib.Tactic.IntervalCases

/-!
# The Gregorian calendar

The calendar as it is known: the lengths of the months, the leap years, and which date comes after
which. `Date.ofDay` and `Date.toDay` compute dates by formulas over eras of 400 years that start in
March; they agree with the calendar on every day, before 1970 too.

* `Date.IsProper`, `Date.next`: a date that exists, and the one after it.
* `Date.IsOn`: a date is the one of a day, counted day by day from the first of January 1970.
* `Date.ofDay_toDay`, `Date.toDay_next`: the formulas undo each other and follow the calendar.
* `Date.isOn_iff`: the date of a day is the one that the formula gives, and no other.
* `Date.text_inj`: different dates have different texts.
-/

namespace ListenDeck.Date

open Text

/-- A year with a leap day: every fourth, but of the full hundreds only every fourth. -/
def isLeapYear (year : Int) : Bool := year % 4 = 0 && (year % 100 ≠ 0 || year % 400 = 0)

/-- The number of days in a month. -/
def monthLength (year : Int) : Nat → Nat
  | 2 => if isLeapYear year then 29 else 28
  | 4 | 6 | 9 | 11 => 30
  | _ => 31

/-- The date exists. -/
structure IsProper (d : Date) : Prop where
  month_pos : 1 ≤ d.month
  month_le : d.month ≤ 12
  day_pos : 1 ≤ d.day
  day_le : d.day ≤ monthLength d.year d.month

instance (d : Date) : Decidable d.IsProper :=
  decidable_of_iff (1 ≤ d.month ∧ d.month ≤ 12 ∧ 1 ≤ d.day ∧ d.day ≤ monthLength d.year d.month)
    ⟨fun ⟨h₁, h₂, h₃, h₄⟩ => ⟨h₁, h₂, h₃, h₄⟩, fun ⟨h₁, h₂, h₃, h₄⟩ => ⟨h₁, h₂, h₃, h₄⟩⟩

/-- The date after a date. -/
def next (d : Date) : Date :=
  if d.day < monthLength d.year d.month then { d with day := d.day + 1 }
  else if d.month < 12 then { d with month := d.month + 1, day := 1 }
  else { year := d.year + 1, month := 1, day := 1 }

/-- **The date of a day**: day 0 is the first of January 1970, and from there dates and days are
counted alike, forwards and backwards. -/
inductive IsOn : Date → Int → Prop
  | epoch : IsOn ⟨1970, 1, 1⟩ 0
  | next {d : Date} {day : Int} : IsOn d day → IsOn d.next (day + 1)
  | before {d : Date} {day : Int} : d.IsProper → IsOn d.next (day + 1) → IsOn d day

/-! ## Years that start in March -/

/-- The number of days of a year of an era. The leap day at its end belongs to the calendar's next
year. -/
def daysOfYear (y : Nat) : Nat := if isLeapYear (y + 1) then 366 else 365

theorem isLeapYear_add (year era : Int) : isLeapYear (era * 400 + year) = isLeapYear year := by
  have h4 : (era * 400 + year) % 4 = year % 4 := by omega
  have h100 : (era * 400 + year) % 100 = year % 100 := by omega
  have h400 : (era * 400 + year) % 400 = year % 400 := by omega
  unfold isLeapYear
  rw [h4, h100, h400]

theorem monthLength_add (year era : Int) (month : Nat) :
    monthLength (era * 400 + year) month = monthLength year month := by
  unfold monthLength
  rw [isLeapYear_add]

theorem monthLength_pos (year : Int) (month : Nat) : 1 ≤ monthLength year month := by
  unfold monthLength
  split
  · split <;> omega
  all_goals omega

theorem daysOfYear_bounds (y : Nat) : 365 ≤ daysOfYear y ∧ daysOfYear y ≤ 366 := by
  unfold daysOfYear
  split <;> omega

theorem daysOfYear_emod (year : Int) :
    daysOfYear (year % 400).toNat = if isLeapYear (year + 1) then 366 else 365 := by
  have hsplit : year + 1 = year / 400 * 400 + ((year % 400).toNat + 1) := by omega
  rw [hsplit, isLeapYear_add]
  rfl

theorem daysBeforeYear_succ {y : Nat} (h : y < 399) :
    daysBeforeYear (y + 1) = daysBeforeYear y + daysOfYear y := by
  unfold daysBeforeYear daysOfYear isLeapYear
  simp only [Bool.and_eq_true, Bool.or_eq_true, decide_eq_true_eq]
  split <;> omega

/-- The days of an era without its leap days, so that every year has 365 of them left. -/
def withoutLeapDays (n : Nat) : Nat := n - n / 1460 + n / 36524 - n / 146096

theorem withoutLeapDays_mono : Monotone withoutLeapDays := by
  refine monotone_nat_of_le_succ fun n => ?_
  unfold withoutLeapDays
  omega

theorem withoutLeapDays_div {y n : Nat} (hy : y < 400) (hn : n < daysOfYear y) :
    withoutLeapDays (daysBeforeYear y + n) / 365 = y := by
  -- by monotonicity the first and the last day of each year decide
  have hends : ∀ y < 400, 365 * y ≤ withoutLeapDays (daysBeforeYear y) ∧
      withoutLeapDays (daysBeforeYear y + (daysOfYear y - 1)) < 365 * (y + 1) := by
    decide +kernel
  obtain ⟨hfirst, hlast⟩ := hends y hy
  have hlow := withoutLeapDays_mono (Nat.le_add_right (daysBeforeYear y) n)
  have hhigh := withoutLeapDays_mono
    (Nat.add_le_add_left (Nat.le_sub_one_of_lt hn) (daysBeforeYear y))
  omega

/-! ## There and back -/

/-- The year of a date when years start in March. -/
def marchYear (d : Date) : Int := if d.month ≤ 2 then d.year - 1 else d.year

/-- The month of a date, counted from March as month 0. -/
def marchMonth (d : Date) : Nat := if d.month ≤ 2 then d.month + 9 else d.month - 3

/-- The days of its year before a date, from the first of March. -/
def dayOfYear (d : Date) : Nat := daysBeforeMonth d.marchMonth + (d.day - 1)

/-- The day of the first of March of a year. -/
def yearStart (year : Int) : Int :=
  year / 400 * daysPerEra + daysBeforeYear (year % 400).toNat - epochOffset

theorem toDay_eq (d : Date) : d.toDay = yearStart d.marchYear + d.dayOfYear := by
  show d.marchYear / 400 * daysPerEra +
    ((daysBeforeYear (d.marchYear % 400).toNat + d.dayOfYear : Nat) : Int) - epochOffset = _
  unfold yearStart
  omega

/-- The formula of `ofDay` for a day given by its era, its year and its place in the year. -/
theorem ofDay_eq {day era : Int} {y n : Nat} (hy : y < 400) (hn : n < daysOfYear y)
    (h : day + epochOffset = era * daysPerEra + (daysBeforeYear y + n : Nat)) :
    ofDay day =
      { year := era * 400 + y + if (5 * n + 2) / 153 < 10 then 0 else 1
        month := if (5 * n + 2) / 153 < 10 then (5 * n + 2) / 153 + 3 else (5 * n + 2) / 153 - 9
        day := n - daysBeforeMonth ((5 * n + 2) / 153) + 1 } := by
  have hera : daysBeforeYear y + n < 146097 := by
    have hall : ∀ y < 400, daysBeforeYear y + daysOfYear y ≤ 146097 := by decide +kernel
    have := hall y hy
    omega
  have hdiv : (day + epochOffset) / daysPerEra = era := by unfold daysPerEra at *; omega
  have hmod : ((day + epochOffset) % daysPerEra).toNat = daysBeforeYear y + n := by
    unfold daysPerEra at *
    omega
  have hyear := withoutLeapDays_div hy hn
  unfold withoutLeapDays at hyear
  unfold ofDay
  simp only [hdiv, hmod, hyear, Nat.add_sub_cancel_left]

theorem month_end {d : Date} (hpos : 1 ≤ d.month) (hle : d.month ≤ 12) :
    daysBeforeMonth d.marchMonth + monthLength d.year d.month =
      if d.month = 2 then daysOfYear (d.marchYear % 400).toNat
      else daysBeforeMonth (d.marchMonth + 1) := by
  obtain ⟨year, month, day⟩ := d
  simp only at hpos hle
  rw [daysOfYear_emod]
  unfold marchMonth marchYear daysBeforeMonth monthLength
  interval_cases month <;> simp
  split <;> rfl

section Proper
variable {d : Date} (h : d.IsProper)
include h

theorem dayOfYear_lt : d.dayOfYear < daysOfYear (d.marchYear % 400).toNat := by
  have hend := month_end h.month_pos h.month_le
  have hyear := (daysOfYear_bounds (d.marchYear % 400).toNat).1
  have hpos := h.day_pos
  have hle := h.day_le
  unfold dayOfYear
  split_ifs at hend with hfeb
  · omega
  · have hmonth : daysBeforeMonth (d.marchMonth + 1) ≤ 337 := by
      have h1 := h.month_pos
      have h2 := h.month_le
      unfold daysBeforeMonth marchMonth
      split <;> omega
    omega

theorem month_of_dayOfYear : (5 * d.dayOfYear + 2) / 153 = d.marchMonth := by
  have hend := month_end h.month_pos h.month_le
  have hyear := (daysOfYear_bounds (d.marchYear % 400).toNat).2
  have h1 := h.month_pos
  have h2 := h.month_le
  have h3 := h.day_pos
  have h4 := h.day_le
  unfold dayOfYear daysBeforeMonth marchMonth at *
  split_ifs at * <;> omega

/-- **The date of the day of a date** is that date. -/
theorem ofDay_toDay : ofDay d.toDay = d := by
  have hday : d.toDay + epochOffset = d.marchYear / 400 * daysPerEra +
      (daysBeforeYear (d.marchYear % 400).toNat + d.dayOfYear : Nat) := by
    rw [toDay_eq, yearStart]
    omega
  rw [ofDay_eq (by omega) (dayOfYear_lt h) hday, month_of_dayOfYear h]
  have hmod : ((d.marchYear % 400).toNat : Int) = d.marchYear % 400 := by omega
  have h1 := h.month_pos
  have h2 := h.month_le
  have h3 := h.day_pos
  obtain ⟨year, month, day⟩ := d
  simp only [mk.injEq] at *
  rw [hmod]
  unfold dayOfYear marchMonth marchYear
  refine ⟨?_, ?_, ?_⟩ <;> simp only <;> split_ifs <;> omega

end Proper

/-! ## The next day -/

theorem IsProper.next {d : Date} (h : d.IsProper) : d.next.IsProper := by
  obtain ⟨h1, h2, h3, h4⟩ := h
  unfold Date.next
  split_ifs with hday hmonth
  · exact ⟨h1, h2, Nat.succ_pos _, hday⟩
  · exact ⟨Nat.succ_pos _, hmonth, Nat.le_refl 1, monthLength_pos _ _⟩
  · exact ⟨Nat.le_refl 1, Nat.le_add_left 1 11, Nat.le_refl 1, monthLength_pos _ _⟩

theorem yearStart_succ (year : Int) :
    yearStart (year + 1) = yearStart year + daysOfYear (year % 400).toNat := by
  unfold yearStart daysPerEra
  by_cases hlast : year % 400 = 399
  · -- the last year of an era, with the leap day that the next era does not have
    have hnext : (year + 1) % 400 = 0 := by omega
    have hdiv : (year + 1) / 400 = year / 400 + 1 := by omega
    have hfirst : daysBeforeYear (Int.toNat 0) = 0 := rfl
    have hspan : daysBeforeYear (Int.toNat 399) + daysOfYear (Int.toNat 399) = 146097 := by decide
    rw [hnext, hlast, hdiv, hfirst]
    omega
  · have hnext : ((year + 1) % 400).toNat = (year % 400).toNat + 1 := by omega
    have hdiv : (year + 1) / 400 = year / 400 := by omega
    rw [hnext, hdiv, daysBeforeYear_succ (by omega)]
    omega

/-- After the last of a month comes the first of the next one; the first of March starts a year. -/
theorem next_of_last {d : Date} (hpos : 1 ≤ d.month) (hle : d.month ≤ 12)
    (hlast : ¬ d.day < monthLength d.year d.month) : d.next.day = 1 ∧
      if d.month = 2 then d.next.marchYear = d.marchYear + 1 ∧ d.next.marchMonth = 0
      else d.next.marchYear = d.marchYear ∧ d.next.marchMonth = d.marchMonth + 1 := by
  unfold Date.next
  rw [if_neg hlast]
  by_cases hdec : d.month < 12
  · rw [if_pos hdec]
    refine ⟨rfl, ?_⟩
    dsimp only [marchYear, marchMonth]
    split_ifs <;> omega
  · rw [if_neg hdec]
    refine ⟨rfl, ?_⟩
    dsimp only [marchYear, marchMonth]
    split_ifs <;> omega

/-- **The next date is on the next day.** -/
theorem toDay_next {d : Date} (h : d.IsProper) : d.next.toDay = d.toDay + 1 := by
  have hpos := h.day_pos
  have hle := h.day_le
  rw [toDay_eq, toDay_eq]
  by_cases hday : d.day < monthLength d.year d.month
  · have hnext : d.next = { d with day := d.day + 1 } := if_pos hday
    rw [hnext]
    unfold dayOfYear
    show yearStart d.marchYear + ((daysBeforeMonth d.marchMonth + d.day : Nat) : Int) = _
    omega
  · have hend := month_end h.month_pos h.month_le
    obtain ⟨hfirst, hmonth⟩ := next_of_last h.month_pos h.month_le hday
    unfold dayOfYear
    rw [hfirst]
    split_ifs at hmonth hend with hfeb
    · have hstart : daysBeforeMonth 0 = 0 := rfl
      rw [hmonth.1, hmonth.2, yearStart_succ, hstart]
      omega
    · rw [hmonth.1, hmonth.2]
      omega

/-! ## Every day has its date -/

theorem toDay_era {d : Date} (h : d.IsProper) (era : Int) :
    IsProper { d with year := era * 400 + d.year } ∧
      toDay { d with year := era * 400 + d.year } = era * daysPerEra + d.toDay := by
  refine ⟨⟨h.month_pos, h.month_le, h.day_pos, by rw [monthLength_add]; exact h.day_le⟩, ?_⟩
  have hyear : marchYear { d with year := era * 400 + d.year } = era * 400 + d.marchYear := by
    simp only [marchYear]
    split_ifs <;> omega
  have hmod : (era * 400 + d.marchYear) % 400 = d.marchYear % 400 := by omega
  have hdiv : (era * 400 + d.marchYear) / 400 = era + d.marchYear / 400 := by omega
  rw [toDay_eq, toDay_eq, hyear]
  unfold yearStart daysPerEra
  rw [hmod, hdiv]
  show _ + (d.dayOfYear : Int) = _
  omega

theorem exists_toDay (day : Int) : ∃ d : Date, d.IsProper ∧ d.toDay = day := by
  have hfrom : ∀ n : Nat, ∃ d : Date, d.IsProper ∧ d.toDay = n := by
    intro n
    induction n with
    | zero => exact ⟨⟨1970, 1, 1⟩, by decide, rfl⟩
    | succ n ih =>
      obtain ⟨d, hd, hn⟩ := ih
      exact ⟨d.next, hd.next, by rw [toDay_next hd, hn]; rfl⟩
  -- a day before 1970 is reached from one some eras later
  obtain ⟨d, hd, hday⟩ := hfrom (day + day.natAbs * daysPerEra).toNat
  obtain ⟨hproper, hera⟩ := toDay_era hd (-day.natAbs)
  refine ⟨_, hproper, ?_⟩
  rw [hera, hday]
  unfold daysPerEra
  omega

theorem ofDay_proper (day : Int) : (ofDay day).IsProper ∧ (ofDay day).toDay = day := by
  obtain ⟨d, hd, rfl⟩ := exists_toDay day
  rw [ofDay_toDay hd]
  exact ⟨hd, rfl⟩

theorem ofDay_succ (day : Int) : ofDay (day + 1) = (ofDay day).next := by
  obtain ⟨hproper, hday⟩ := ofDay_proper day
  have h := ofDay_toDay hproper.next
  rwa [toDay_next hproper, hday] at h

theorem IsOn.sound {d : Date} {day : Int} (h : d.IsOn day) : d.IsProper ∧ d.toDay = day := by
  induction h with
  | epoch => exact ⟨by decide, rfl⟩
  | next _ ih => exact ⟨ih.1.next, by rw [toDay_next ih.1, ih.2]⟩
  | before hd _ ih =>
    have hnext := toDay_next hd
    exact ⟨hd, by omega⟩

theorem isOn_ofDay (day : Int) : (ofDay day).IsOn day := by
  induction day using Int.induction_on with
  | zero => exact .epoch
  | succ n ih =>
    rw [ofDay_succ]
    exact .next ih
  | pred n ih =>
    refine .before (ofDay_proper _).1 ?_
    rw [← ofDay_succ, Int.sub_add_cancel]
    exact ih

/-- **The date of a day** is the one that is computed, and no other. -/
theorem isOn_iff {d : Date} {day : Int} : d.IsOn day ↔ ofDay day = d := by
  constructor
  · intro h
    obtain ⟨hproper, rfl⟩ := h.sound
    exact ofDay_toDay hproper
  · rintro rfl
    exact isOn_ofDay day

theorem year_ofDay_mono {a b : Int} (h : a ≤ b) : (ofDay a).year ≤ (ofDay b).year := by
  induction b, h using Int.leInduction with
  | base => exact Int.le_refl _
  | succ b _ ih =>
    refine ih.trans ?_
    rw [ofDay_succ]
    unfold Date.next
    split_ifs <;> simp only <;> omega

/-! ## Texts of dates -/

theorem isDigits_fourDigits (n : Nat) : IsDigits (fourDigits n).toList n := by
  obtain ⟨hne, hdigits, hvalue⟩ := isDigits_decimal n
  have htext : (fourDigits n).toList =
      List.replicate (4 - (decimal n).length) '0' ++ (decimal n).toList := by
    simp [fourDigits]
  rw [htext]
  refine ⟨by simp [hne], fun c hc => ?_, ?_⟩
  · rcases List.mem_append.mp hc with hc | hc
    · rw [List.eq_of_mem_replicate hc]
      rfl
    · exact hdigits c hc
  · refine Eq.trans ?_ hvalue
    simp [Nat.ofDigits_append_replicate_zero]

/-- The sign that is written before a year. -/
def yearSign (year : Int) : List Char :=
  if year < 0 then ['-'] else if 9999 < year then ['+'] else []

theorem toList_yearText (year : Int) :
    (yearText year).toList = yearSign year ++ (fourDigits year.natAbs).toList := by
  unfold yearText yearSign
  split_ifs <;> simp

theorem takeWhile_yearText (year : Int) :
    (yearText year).toList.takeWhile (!·.isDigit) = yearSign year := by
  have hsign : ∀ c ∈ yearSign year, (!c.isDigit) = true := by
    unfold yearSign
    split_ifs
    · exact List.forall_mem_singleton.mpr rfl
    · exact List.forall_mem_singleton.mpr rfl
    · exact fun _ h => absurd h List.not_mem_nil
  obtain ⟨hne, hdigits, -⟩ := isDigits_fourDigits year.natAbs
  obtain ⟨c, cs, hcs⟩ := List.exists_cons_of_ne_nil hne
  have hc : c.isDigit = true := hdigits c (by rw [hcs]; exact List.mem_cons_self)
  rw [toList_yearText, List.takeWhile_append_of_pos hsign, hcs,
    List.takeWhile_cons_of_neg (by simp [hc]), List.append_nil]

theorem yearText_injective : Function.Injective yearText := by
  intro y z h
  have hsign : yearSign y = yearSign z := by
    rw [← takeWhile_yearText, h, takeWhile_yearText]
  have hchars := congrArg String.toList h
  rw [toList_yearText, toList_yearText, hsign, List.append_right_inj] at hchars
  have hy := isDigits_fourDigits y.natAbs
  rw [hchars] at hy
  have habs := hy.value_unique (isDigits_fourDigits z.natAbs)
  unfold yearSign at hsign
  split_ifs at hsign <;> first | omega | cases hsign

/-- **A text tells its date.** -/
theorem text_inj {d e : Date} (hd : d.IsProper) (he : e.IsProper) (h : d.text = e.text) :
    d = e := by
  obtain ⟨hd1, hd2, -, -⟩ := hd
  obtain ⟨he1, he2, -, -⟩ := he
  have hlength : ∀ m < 12, (monthNames.getD m "").toList.length = 3 := by decide
  have hname : ∀ m < 12, ∀ n < 12,
      (monthNames.getD m "").toList = (monthNames.getD n "").toList → m = n := by decide
  have hchars := congrArg String.toList h
  simp only [text, String.toList_append, List.append_assoc] at hchars
  obtain ⟨hmonths, hrest⟩ := List.append_inj hchars
    (by rw [hlength _ (by omega), hlength _ (by omega)])
  obtain ⟨-, hrest⟩ := List.append_inj hrest rfl
  obtain ⟨hday, hrest⟩ := decimal_append_inj (by rintro c ⟨⟩; rfl) (by rintro c ⟨⟩; rfl) hrest
  obtain ⟨-, hyears⟩ := List.append_inj hrest rfl
  have hmonth := hname _ (by omega) _ (by omega) hmonths
  have hyear := yearText_injective (String.toList_inj.mp hyears)
  obtain ⟨year, month, day⟩ := d
  obtain ⟨year', month', day'⟩ := e
  simp only at hmonth hyear hday hd1 he1
  rw [mk.injEq]
  omega

end ListenDeck.Date
