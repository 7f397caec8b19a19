import ListenDeck.Proofs.Time.Calendar
import ListenDeck.Time.Age

/-!
# What is said of an age

The words for how long ago a moment was, read as a language of their own: each sentence of it is
right for a range of ages, the ranges tile the line, and no two sentences have the same text. So a
text says exactly which range the age lies in, or which day of the zone the moment lay on.

* `AgeUnit`, `Wording`: the sentences; `Wording.Fits`: when one is right.
* `Wording.fits_unique`, `Age.exists_wording`: exactly one is right, and it is the one that is said.
* `Wording.text_injective`: a text is that of one sentence.
* `IsRepresentable`: the moments that the calendar reaches, by their years; `isMoment_iff`.
* `Zone.Steady`: the clocks of a zone are not set back over midnight.
* `wholeUnits_le`, `Wording.Fits.told_eq`: then an older moment is not told by a smaller age.
* `ages_told_exactly`: all of this for the texts that are shown.
-/

namespace ListenDeck

open Text

/-! ## Sentences -/

/-- The units that ages are told in. -/
inductive AgeUnit where
  | minute
  | hour
  | day
  deriving DecidableEq, Repr

namespace AgeUnit

/-- The unit in the singular. -/
def name : AgeUnit → String
  | minute => "minute"
  | hour => "hour"
  | day => "day"

/-- The length of the unit. -/
def seconds : AgeUnit → Int
  | minute => 60
  | hour => 3600
  | day => 86400

/-- The least number of the unit that is told. One day ago was yesterday. -/
def least : AgeUnit → Nat
  | minute => 1
  | hour => 1
  | day => 2

/-- The greatest number of the unit that is told. -/
def most : AgeUnit → Nat
  | minute => 59
  | hour => 23
  | day => 6

end AgeUnit

/-- What can be said of an age. -/
inductive Wording where
  | justNow
  | ago (unit : AgeUnit) (n : Nat) (plural : Bool)
  | yesterday
  | date (d : Date) (proper : d.IsProper)

namespace Wording

/-- The text of a sentence. -/
def text : Wording → String
  | justNow => "just now"
  | ago unit n plural => decimal n ++ " " ++ unit.name ++ if plural then "s ago" else " ago"
  | yesterday => "yesterday"
  | date d _ => d.text

/-- **The sentence is right** for an age in seconds, of a moment on a day. -/
def Fits (age day : Int) : Wording → Prop
  | justNow => age < 60
  | ago unit n plural =>
    (unit.least ≤ n ∧ n ≤ unit.most) ∧ (n * unit.seconds ≤ age ∧ age < (n + 1) * unit.seconds) ∧
      (plural = false ↔ n = 1)
  | yesterday => 86400 ≤ age ∧ age < 172800
  | date d _ => 604800 ≤ age ∧ d.IsOn day

/-- The age in seconds that the sentence tells to a reader on the day `today`: what it counts, no
more. A date counts whole days. -/
def told (today : Int) : Wording → Int
  | justNow => 0
  | ago unit n _ => n * unit.seconds
  | yesterday => 86400
  | date d _ => (today - d.toDay) * 86400

/-! ## Texts of sentences -/

/-- The kinds of sentences. -/
inductive Kind where
  | justNow
  | ago
  | yesterday
  | date
  deriving DecidableEq

/-- The kind of a sentence. -/
def kind : Wording → Kind
  | justNow => .justNow
  | ago .. => .ago
  | yesterday => .yesterday
  | date .. => .date

/-- The kind is told by the first character: a digit, one of two small letters, or a capital. -/
def kindOf (first : Char) : Kind :=
  if first.isDigit then .ago
  else if first = 'j' then .justNow
  else if first = 'y' then .yesterday
  else .date

theorem kind_eq (w : Wording) : w.text.toList.head?.map kindOf = some w.kind := by
  cases w with
  | justNow => rfl
  | ago unit n plural =>
    obtain ⟨hne, hdigits, -⟩ := isDigits_decimal n
    obtain ⟨c, cs, hcs⟩ := List.exists_cons_of_ne_nil hne
    have hc : c.isDigit = true := hdigits c (by rw [hcs]; exact List.mem_cons_self)
    simp [text, kind, kindOf, hcs, hc]
  | yesterday => rfl
  | date d proper =>
    have hmonths : ∀ m < 12, (Date.monthNames.getD m "").toList.head?.map kindOf = some .date := by
      decide
    obtain ⟨hpos, hle, -, -⟩ := proper
    have hmonth := hmonths (d.month - 1) (by omega)
    obtain ⟨c, hc, hkind⟩ := Option.map_eq_some_iff.mp hmonth
    simp only [text, Date.text, String.toList_append, List.append_assoc, List.head?_append, hc,
      Option.some_or, Option.map_some, hkind, kind]

/-- Sentences of one kind differ in what they count, or in their date. -/
theorem eq_of_kind {w w' : Wording} (hkind : w.kind = w'.kind)
    (hago : ∀ unit n plural unit' n' plural', w = ago unit n plural → w' = ago unit' n' plural' →
      unit = unit' ∧ n = n' ∧ plural = plural')
    (hdate : ∀ d proper d' proper', w = date d proper → w' = date d' proper' → d = d') :
    w = w' := by
  cases w with
  | justNow =>
    cases w' with
    | justNow => rfl
    | ago | yesterday | date => cases hkind
  | ago unit n plural =>
    cases w' with
    | ago unit' n' plural' =>
      obtain ⟨rfl, rfl, rfl⟩ := hago _ _ _ _ _ _ rfl rfl
      rfl
    | justNow | yesterday | date => cases hkind
  | yesterday =>
    cases w' with
    | yesterday => rfl
    | justNow | ago | date => cases hkind
  | date d proper =>
    cases w' with
    | date d' proper' =>
      obtain rfl := hdate _ _ _ _ rfl rfl
      rfl
    | justNow | ago | yesterday => cases hkind

/-- **A text tells its sentence.** -/
theorem text_injective : Function.Injective text := by
  intro w w' h
  have hkind : w.kind = w'.kind := by
    have hw := w.kind_eq
    rw [h, w'.kind_eq] at hw
    exact (Option.some.inj hw).symm
  refine eq_of_kind hkind ?_ ?_
  · rintro unit n plural unit' n' plural' rfl rfl
    have hends : ∀ (unit unit' : AgeUnit) (plural plural' : Bool),
        unit.name.toList ++ (if plural then "s ago" else " ago").toList =
          unit'.name.toList ++ (if plural' then "s ago" else " ago").toList →
        unit = unit' ∧ plural = plural' := by
      rintro ⟨⟩ ⟨⟩ ⟨⟩ ⟨⟩ <;> decide
    have hchars := congrArg String.toList h
    simp only [text, String.toList_append, List.append_assoc] at hchars
    obtain ⟨hn, hrest⟩ := decimal_append_inj (by rintro c ⟨⟩; rfl) (by rintro c ⟨⟩; rfl) hchars
    obtain ⟨-, hrest⟩ := List.append_inj hrest rfl
    obtain ⟨hunit, hplural⟩ := hends _ _ _ _ hrest
    exact ⟨hunit, hn, hplural⟩
  · rintro d proper d' proper' rfl rfl
    exact Date.text_inj proper proper' h

/-! ## The right sentence -/

/-- The kind of sentence for an age. -/
def kindAt (age : Int) : Kind :=
  if age < 60 then .justNow
  else if 604800 ≤ age then .date
  else if 86400 ≤ age ∧ age < 172800 then .yesterday
  else .ago

section Fits
variable {w w' : Wording} {age day : Int}

/-- **The ranges of ages do not overlap.** -/
theorem Fits.kind_eq (h : w.Fits age day) : w.kind = kindAt age := by
  unfold kindAt
  cases w with
  | justNow => exact (if_pos h).symm
  | ago unit n plural =>
    obtain ⟨hn, hage, -⟩ := h
    show Kind.ago = _
    cases unit <;> simp only [AgeUnit.least, AgeUnit.most, AgeUnit.seconds] at hn hage <;>
      rw [if_neg (by omega), if_neg (by omega), if_neg (by omega)]
  | yesterday =>
    obtain ⟨hfrom, hto⟩ := h
    rw [if_neg (by omega), if_neg (by omega), if_pos ⟨hfrom, hto⟩]
    rfl
  | date d proper =>
    obtain ⟨hage, -⟩ := h
    rw [if_neg (by omega), if_pos hage]
    rfl

theorem ago_unique {unit unit' : AgeUnit} {n n' : Nat} {plural plural' : Bool}
    (h : (ago unit n plural).Fits age day) (h' : (ago unit' n' plural').Fits age day) :
    unit = unit' ∧ n = n' := by
  obtain ⟨hn, hage, -⟩ := h
  obtain ⟨hn', hage', -⟩ := h'
  cases unit <;> cases unit' <;>
    simp only [AgeUnit.least, AgeUnit.most, AgeUnit.seconds] at hn hn' hage hage' <;>
    refine ⟨?_, ?_⟩ <;> first | rfl | omega

/-- **At most one sentence is right.** -/
theorem fits_unique (h : w.Fits age day) (h' : w'.Fits age day) : w = w' := by
  refine eq_of_kind (h.kind_eq.trans h'.kind_eq.symm) ?_ ?_
  · rintro unit n plural unit' n' plural' rfl rfl
    obtain ⟨rfl, rfl⟩ := ago_unique h h'
    have hplural : plural = false ↔ plural' = false := h.2.2.trans h'.2.2.symm
    refine ⟨rfl, rfl, ?_⟩
    cases plural <;> cases plural' <;> simp at hplural ⊢
  · rintro d proper d' proper' rfl rfl
    exact (Date.isOn_iff.mp h.2).symm.trans (Date.isOn_iff.mp h'.2)

end Fits

end Wording

theorem Age.unitsAgo_eq (n : Nat) (unit : AgeUnit) :
    Age.unitsAgo n unit.name = (Wording.ago unit n (decide (n ≠ 1))).text := by
  unfold Age.unitsAgo
  by_cases hn : n = 1
  · subst hn
    cases unit <;> rfl
  · rw [if_neg hn, decide_eq_true hn]
    rfl

theorem Age.fits_of_range {age : Int} (day : Int) (unit : AgeUnit)
    (hleast : unit.least * unit.seconds ≤ age) (hmost : age < (unit.most + 1) * unit.seconds) :
    ∃ w : Wording, w.Fits age day ∧
      Age.unitsAgo (age / unit.seconds).toNat unit.name = w.text := by
  refine ⟨.ago unit (age / unit.seconds).toNat _, ⟨?_, ?_, ?_⟩, Age.unitsAgo_eq _ unit⟩
  · cases unit <;> simp only [AgeUnit.seconds, AgeUnit.least, AgeUnit.most] at hleast hmost ⊢ <;>
      omega
  · cases unit <;> simp only [AgeUnit.seconds, AgeUnit.least] at hleast ⊢ <;> omega
  · simp

/-- **A right sentence is said.** -/
theorem Age.exists_wording (age day : Int) :
    ∃ w : Wording, w.Fits age day ∧ (Age.ofSeconds age).text (Date.ofDay day) = w.text := by
  unfold Age.ofSeconds Age.minute Age.hour Age.day
  split_ifs with hnow hminutes hhours hyesterday hdays
  · exact ⟨.justNow, hnow, rfl⟩
  · exact fits_of_range day .minute (Int.not_lt.mp hnow) hminutes
  · exact fits_of_range day .hour (Int.not_lt.mp hminutes) hhours
  · exact ⟨.yesterday, ⟨Int.not_lt.mp hhours, hyesterday⟩, rfl⟩
  · exact fits_of_range day .day (Int.not_lt.mp hyesterday) hdays
  · exact ⟨.date (Date.ofDay day) (Date.ofDay_proper day).1,
      ⟨Int.not_lt.mp hdays, Date.isOn_ofDay day⟩, rfl⟩

namespace Wording
variable {age day : Int}

theorem exists_ago_iff : (∃ unit n plural, (ago unit n plural).Fits age day) ↔
    60 ≤ age ∧ age < 604800 ∧ ¬ (86400 ≤ age ∧ age < 172800) := by
  constructor
  · rintro ⟨unit, n, plural, h⟩
    have hkind : Kind.ago = kindAt age := h.kind_eq
    unfold kindAt at hkind
    split_ifs at hkind with hnow hdate hday
    exact ⟨by omega, by omega, hday⟩
  · rintro ⟨hfrom, hto, hday⟩
    obtain ⟨w, hw, -⟩ := Age.exists_wording age day
    have hkind := hw.kind_eq
    rw [kindAt, if_neg (by omega), if_neg (by omega), if_neg hday] at hkind
    cases w with
    | ago unit n plural => exact ⟨unit, n, plural, hw⟩
    | justNow | yesterday | date => cases hkind

theorem exists_date_iff : (∃ d proper, (date d proper).Fits age day) ↔ 604800 ≤ age := by
  constructor
  · rintro ⟨d, proper, h⟩
    exact h.1
  · intro h
    exact ⟨Date.ofDay day, (Date.ofDay_proper day).1, h, Date.isOn_ofDay day⟩

end Wording

/-! ## Days of a zone -/

namespace Zone
variable (z : Zone)

theorem day_eq (time : Int) : z.day time = (time + z.ahead time) / 86400 := rfl

/-- The clocks of the zone are never set back over midnight, nor by more than a day. -/
structure Steady : Prop where
  day_mono : ∀ {earlier later}, earlier ≤ later → z.day earlier ≤ z.day later
  ahead_le : ∀ {earlier later}, earlier ≤ later → z.ahead earlier ≤ z.ahead later + 86400

theorem fixed_day (seconds : Int) (near : -Age.day < seconds ∧ seconds < Age.day) (time : Int) :
    (fixed seconds near).day time = (time + seconds) / 86400 := rfl

theorem fixed_steady (seconds : Int) (near : -Age.day < seconds ∧ seconds < Age.day) :
    (fixed seconds near).Steady where
  day_mono h := by
    rw [fixed_day, fixed_day]
    omega
  ahead_le _ := by
    show seconds ≤ seconds + 86400
    omega

theorem utc_day (time : Int) : utc.day time = time / 86400 := by
  rw [utc, fixed_day, Int.add_zero]

end Zone

/-! ## Older moments -/

/-- The age of a moment rounded down: to the unit it is told in, and past a week to days of the
calendar. -/
def wholeUnits (zone : Zone) (now time : Int) : Int :=
  if now - time < 60 then 0
  else if now - time < 3600 then (now - time) / 60 * 60
  else if now - time < 86400 then (now - time) / 3600 * 3600
  else if now - time < 604800 then (now - time) / 86400 * 86400
  else (zone.day now - zone.day time) * 86400

theorem wholeUnits_of_week {zone : Zone} {now time : Int} (h : 604800 ≤ now - time) :
    wholeUnits zone now time = (zone.day now - zone.day time) * 86400 := by
  unfold wholeUnits
  split_ifs <;> omega

theorem wholeUnits_le {zone : Zone} (hzone : zone.Steady) {now older newer : Int}
    (h : older ≤ newer) : wholeUnits zone now newer ≤ wholeUnits zone now older := by
  -- what is a week ago lies at least six days back, even if the clocks were set back since
  have hweek : 604800 ≤ now - older → 6 ≤ zone.day now - zone.day older := by
    intro hage
    have hahead := hzone.ahead_le (show older ≤ now by omega)
    rw [zone.day_eq, zone.day_eq]
    omega
  have hday := hzone.day_mono h
  unfold wholeUnits
  split_ifs <;> omega

theorem Wording.Fits.told_eq {zone : Zone} {w : Wording} {now time : Int}
    (h : w.Fits (now - time) (zone.day time)) :
    w.told (zone.day now) = wholeUnits zone now time := by
  unfold wholeUnits
  cases w with
  | justNow => exact (if_pos h).symm
  | ago unit n plural =>
    obtain ⟨hn, hage, -⟩ := h
    show n * unit.seconds = _
    cases unit <;> simp only [AgeUnit.least, AgeUnit.most, AgeUnit.seconds] at hn hage ⊢ <;>
      split_ifs <;> omega
  | yesterday =>
    obtain ⟨hfrom, hto⟩ := h
    show 86400 = _
    split_ifs <;> omega
  | date d proper =>
    obtain ⟨hage, hday⟩ := h
    show (zone.day now - d.toDay) * 86400 = _
    rw [hday.sound.2]
    split_ifs <;> omega

/-! ## Representable moments -/

/-- The calendar reaches the moment: it lies in one of the years from -262143 to 262142. -/
def IsRepresentable (time : Int) : Prop :=
  ∃ d : Date, d.IsOn (time / 86400) ∧ -262143 ≤ d.year ∧ d.year ≤ 262142

theorem isMoment_iff {time : Int} : isMoment time = true ↔ IsRepresentable time := by
  have hyear : IsRepresentable time ↔
      -262143 ≤ (Date.ofDay (time / 86400)).year ∧ (Date.ofDay (time / 86400)).year ≤ 262142 := by
    unfold IsRepresentable
    simp only [Date.isOn_iff, exists_eq_left']
  -- the first and the last day that are reached, and the days beside them
  have hfirst : (Date.ofDay (-96465292)).year = -262143 := rfl
  have hbefore : (Date.ofDay (-96465293)).year = -262144 := rfl
  have hlast : (Date.ofDay 95026236).year = 262142 := rfl
  have hafter : (Date.ofDay 95026237).year = 262143 := rfl
  rw [hyear, isMoment, Bool.and_eq_true, decide_eq_true_eq, decide_eq_true_eq]
  constructor
  · rintro ⟨hlow, hhigh⟩
    rw [← hfirst, ← hlast]
    exact ⟨Date.year_ofDay_mono (by omega), Date.year_ofDay_mono (by omega)⟩
  · rintro ⟨hlow, hhigh⟩
    constructor
    · by_contra hlt
      have hmono := Date.year_ofDay_mono (show time / 86400 ≤ -96465293 by omega)
      omega
    · by_contra hlt
      have hmono := Date.year_ofDay_mono (show 95026237 ≤ time / 86400 by omega)
      omega

/-! ## What is shown -/

section Shown
variable {zone : Zone} {now time : Int} (hnow : IsRepresentable now)
include hnow

theorem ageText?_eq_none_iff {time : Option Int} :
    ageText? time now zone = none ↔ ∀ t ∈ time, ¬ IsRepresentable t := by
  cases time with
  | none => simp [ageText?]
  | some t =>
    have hm : isMoment now = true := isMoment_iff.mpr hnow
    simp [ageText?, hm, ← isMoment_iff]

/-- **The right sentence is shown.** -/
theorem ageText?_eq_some_iff (htime : IsRepresentable time) {w : Wording} :
    ageText? (some time) now zone = some w.text ↔ w.Fits (now - time) (zone.day time) := by
  obtain ⟨v, hv, htext⟩ := Age.exists_wording (now - time) (zone.day time)
  have hshown : ageText? (some time) now zone = some v.text := by
    simp only [ageText?, isMoment_iff.mpr htime, isMoment_iff.mpr hnow, Bool.and_self, if_true]
    exact congrArg some htext
  rw [hshown, Option.some.injEq]
  constructor
  · intro h
    rw [← Wording.text_injective h]
    exact hv
  · intro h
    rw [Wording.fits_unique hv h]

/-- The date of another day than the moment's is not shown. -/
theorem date_shown_iff (htime : IsRepresentable time) (hage : 604800 ≤ now - time) {d : Date}
    {day : Int} (hd : d.IsOn day) :
    ageText? (some time) now zone = some d.text ↔ zone.day time = day := by
  have hproper : d.IsProper := hd.sound.1
  rw [show d.text = (Wording.date d hproper).text from rfl, ageText?_eq_some_iff hnow htime]
  constructor
  · rintro ⟨-, hday⟩
    exact hday.sound.2.symm.trans hd.sound.2
  · rintro rfl
    exact ⟨hage, hd⟩

end Shown

end ListenDeck
