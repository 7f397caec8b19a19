import ListenDeck.Proofs.Browse.Windows
import Mathlib.Data.List.Nodup

/-!
# A list whose pages are turned

A list loses items while its pages are turned one after the other. The items behind the page shown
move to the front by as many places as items are dropped from the page, past the place where the
next page starts, and so they are passed over when it comes.

* `Trail`: the list, the page shown, the items that were shown and those that were passed over.
* `Trail.Sound`: the items before the end of the page shown were shown or passed over, those behind
  it neither (`begin_sound`, `Sound.drop_sound`, `Sound.turn_sound`).
* `Trail.Sound.mem_shown_iff`: what was shown.
-/

namespace ListenDeck

/-! ## Places in a list -/

section Places
variable {α : Type*} {l : List α} {a : α} {i : Nat}

theorem mem_window_iff (hl : l.Nodup) (ha : l[i]? = some a) (offset count : Nat) :
    a ∈ window l offset count ↔ offset ≤ i ∧ i < offset + count := by
  obtain ⟨hi, rfl⟩ := List.getElem?_eq_some_iff.mp ha
  unfold window
  rw [List.mem_take_iff_getElem]
  constructor
  · rintro ⟨j, hj, he⟩
    rw [List.getElem_drop, hl.getElem_inj_iff] at he
    rw [List.length_drop] at hj
    omega
  · rintro ⟨h1, h2⟩
    refine ⟨i - offset, by rw [List.length_drop]; omega, ?_⟩
    rw [List.getElem_drop]
    congr 1
    omega

theorem mem_drop_iff (hl : l.Nodup) (ha : l[i]? = some a) {n : Nat} : a ∈ l.drop n ↔ n ≤ i := by
  obtain ⟨hi, -⟩ := List.getElem?_eq_some_iff.mp ha
  have h := mem_window_iff hl ha n l.length
  rw [window, List.take_of_length_le (by rw [List.length_drop]; omega)] at h
  rw [h]
  omega

theorem mem_take_iff (hl : l.Nodup) (ha : l[i]? = some a) {n : Nat} : a ∈ l.take n ↔ i < n := by
  have h := mem_window_iff hl ha 0 n
  rw [window, List.drop_zero] at h
  rw [h]
  omega

variable (l) in
theorem drop_eq_window_append (offset count : Nat) :
    l.drop offset =
      window l offset count ++ l.drop (offset + (window l offset count).length) := by
  have h := (List.take_append_drop (window l offset count).length (l.drop offset)).symm
  rw [List.drop_drop] at h
  simpa only [window, List.length_take, ← List.take_eq_take_min] using h

variable (l) in
theorem length_window (offset count : Nat) :
    (window l offset count).length = min count (l.length - offset) := by
  rw [window, List.length_take, List.length_drop]

variable (l) in
theorem length_window_or (offset count : Nat) : (window l offset count).length = count ∨
    l.drop (offset + (window l offset count).length) = [] := by
  rw [length_window, List.drop_eq_nil_iff]
  omega

end Places

/-! ## A list whose pages are turned -/

/-- A list whose pages are turned while items are dropped from it. -/
structure Trail where
  /-- The list as it is. -/
  list : List Item
  /-- Where the page shown starts. -/
  start : Nat := 0
  /-- The items of the page shown that are still in the list. -/
  page : List Item
  /-- The length of the list when the page came. -/
  total : Nat
  /-- The items that were shown on some page. -/
  shown : List Item
  /-- The items that were behind a page and before the start of the next one when that came. -/
  passed : List Item := []

namespace Trail

/-- The place behind the page shown. -/
def front (t : Trail) : Nat := t.start + t.page.length

/-- The items behind the page shown. -/
def behind (t : Trail) : List Item := t.list.drop t.front

/-- The items behind the page shown that stand before a place. -/
def between (t : Trail) (place : Nat) : List Item := window t.list t.front (place - t.front)

/-- The first page is shown, with its items. -/
def begin (list items : List Item) : Trail where
  list := list
  page := items
  total := list.length
  shown := items

/-- An item of the page shown is dropped from the list. -/
def drop (t : Trail) (identity : Identity) : Trail :=
  if t.page.any (·.identity = identity) then
    { t with
      list := t.list.filter (·.identity ≠ identity)
      page := t.page.filter (·.identity ≠ identity) }
  else t

/-- The page that starts at a place is shown, with its items. -/
def turn (t : Trail) (place : Nat) (items : List Item) : Trail :=
  { t with
    start := place
    page := items
    total := t.list.length
    shown := t.shown ++ items
    passed := t.passed ++ t.between place }

theorem drop_rest (t : Trail) (identity : Identity) :
    (t.drop identity).start = t.start ∧ (t.drop identity).total = t.total ∧
      (t.drop identity).shown = t.shown ∧ (t.drop identity).passed = t.passed ∧
      (t.drop identity).list.Sublist t.list := by
  unfold drop
  split_ifs
  · exact ⟨rfl, rfl, rfl, rfl, List.filter_sublist⟩
  · exact ⟨rfl, rfl, rfl, rfl, .refl _⟩

/-- **What holds while pages are turned.** The page shown is a part of the list, and had as many
items as a page may have, or there is nothing behind it. What is before its end was shown unless it
was passed over; what is behind it was not shown. No more items were passed over than dropped. -/
structure Sound (length size : Nat) (t : Trail) : Prop where
  nodup : (t.list.map Item.identity).Nodup
  start_le : t.start ≤ t.list.length
  split : t.list.drop t.start = t.page ++ t.behind
  length_le : t.list.length ≤ t.total
  page_le : t.page.length ≤ size
  full : t.page.length + (t.total - t.list.length) = size ∨ t.behind = []
  count : t.passed.length + t.total ≤ length
  seen : ∀ item ∈ t.list.take t.front, item ∈ t.shown ↔ item ∉ t.passed
  unseen : ∀ item ∈ t.behind, item ∉ t.shown
  unpassed : ∀ item ∈ t.list.drop t.start, item ∉ t.passed

section Turning
variable {length size : Nat} {t : Trail}

theorem Sound.at (h : t.Sound length size) {item : Item} {i : Nat} (hi : t.list[i]? = some item) :
    (i < t.front → (item ∈ t.shown ↔ item ∉ t.passed)) ∧
      (t.front ≤ i → item ∉ t.shown) ∧ (t.start ≤ i → item ∉ t.passed) := by
  have hnodup : t.list.Nodup := h.nodup.of_map
  exact ⟨fun hlt => h.seen item ((mem_take_iff hnodup hi).mpr hlt),
    fun hle => h.unseen item ((mem_drop_iff hnodup hi).mpr hle),
    fun hle => h.unpassed item ((mem_drop_iff hnodup hi).mpr hle)⟩

theorem Sound.length_between_le (h : t.Sound length size) (place : Nat)
    (hnext : place ≤ t.start + size) :
    (t.between place).length ≤ t.total - t.list.length := by
  have hfull := h.full
  rw [behind, List.drop_eq_nil_iff] at hfull
  rw [between, length_window]
  unfold front at hfull ⊢
  omega

theorem begin_sound {list : List Item} (hl : (list.map Item.identity).Nodup) (size : Nat) :
    (begin list (window list 0 size)).Sound list.length size := by
  have hnodup : list.Nodup := hl.of_map
  have hfront : (begin list (window list 0 size)).front = min size list.length := by
    change 0 + (window list 0 size).length = _
    rw [length_window, Nat.zero_add, Nat.sub_zero]
  refine {
    nodup := hl
    start_le := Nat.zero_le _
    split := drop_eq_window_append list 0 size
    length_le := Nat.le_refl _
    page_le := (length_window list 0 size).trans_le (Nat.min_le_left _ _)
    full := ?_
    count := (Nat.zero_add _).le
    seen := fun item hm => ?_
    unseen := fun item hm => ?_
    unpassed := fun item _ => List.not_mem_nil }
  · rw [begin, Nat.sub_self]
    exact length_window_or list 0 size
  · obtain ⟨i, hi⟩ := List.mem_iff_getElem?.mp (List.mem_of_mem_take hm)
    have hlt := (mem_take_iff hnodup hi).mp hm
    refine iff_of_true ((mem_window_iff hnodup hi _ _).mpr ?_) List.not_mem_nil
    omega
  · obtain ⟨i, hi⟩ := List.mem_iff_getElem?.mp (List.mem_of_mem_drop hm)
    have hle := (mem_drop_iff hnodup hi).mp hm
    have hlt : i < list.length := (List.getElem?_eq_some_iff.mp hi).1
    intro hw
    have := (mem_window_iff hnodup hi _ _).mp hw
    omega

theorem Sound.filter_list (h : t.Sound length size) {identity : Identity}
    (hp : t.page.any (·.identity = identity) = true) :
    t.list.filter (·.identity ≠ identity) =
      t.list.take t.start ++ (t.page.filter (·.identity ≠ identity) ++ t.behind) := by
  obtain ⟨gone, hgone, hid⟩ := List.any_eq_true.mp hp
  obtain rfl := of_decide_eq_true hid
  have hlist : t.list = t.list.take t.start ++ (t.page ++ t.behind) := by
    rw [← h.split, List.take_append_drop]
  have hnodup := h.nodup
  rw [hlist, List.map_append, List.map_append] at hnodup
  obtain ⟨-, hrest, hbefore⟩ := List.nodup_append.mp hnodup
  obtain ⟨-, -, hbehind⟩ := List.nodup_append.mp hrest
  have hmem := List.mem_map_of_mem (f := Item.identity) hgone
  have hkeep : ∀ items : List Item, (∀ item ∈ items, item.identity ≠ gone.identity) →
      items.filter (·.identity ≠ gone.identity) = items := fun items hne =>
    List.filter_eq_self.mpr fun item hm => decide_eq_true (hne item hm)
  conv_lhs => rw [hlist, List.filter_append, List.filter_append]
  rw [hkeep (t.list.take t.start) fun item hm => hbefore _ (List.mem_map_of_mem hm) _
      (List.mem_append_left _ hmem),
    hkeep t.behind fun item hm => (hbehind _ hmem _ (List.mem_map_of_mem hm)).symm]

/-- What a drop leaves of the list: all that is before the page, and all that is behind it. -/
structure Thins (t t' : Trail) : Prop where
  page : t'.page.Sublist t.page
  upTo : t'.list.take t'.front = t.list.take t.start ++ t'.page
  onward : t'.list.drop t.start = t'.page ++ t.behind
  behind : t'.behind = t.behind

theorem Sound.drop_thins (h : t.Sound length size) {identity : Identity}
    (hp : t.page.any (·.identity = identity) = true) : t.Thins (t.drop identity) := by
  have hlist := h.filter_list hp
  have htake : (t.list.take t.start).length = t.start := List.length_take_of_le h.start_le
  have honward : (t.list.filter (·.identity ≠ identity)).drop t.start =
      t.page.filter (·.identity ≠ identity) ++ t.behind := by
    rw [hlist, List.drop_left' htake]
  unfold drop
  rw [if_pos hp]
  exact {
    page := List.filter_sublist
    upTo := by
      unfold front
      rw [hlist, ← List.append_assoc, List.take_left' (by rw [List.length_append, htake])]
    onward := honward
    behind := by
      rw [Trail.behind, front, ← List.drop_drop]
      exact (congrArg (List.drop _) honward).trans List.drop_left }

theorem Sound.length_list (h : t.Sound length size) {t' : Trail}
    (hupTo : t'.list.take t'.front = t.list.take t.start ++ t'.page)
    (hbehind : t'.behind = t.behind) :
    t'.list.length = t.start + t'.page.length + t.behind.length := by
  rw [← List.take_append_drop t'.front t'.list, hupTo, ← Trail.behind, hbehind, List.length_append,
    List.length_append, List.length_take_of_le h.start_le]

/-- **An item is dropped**: what is before the page and what is behind it stays. -/
theorem Sound.drop_sound (h : t.Sound length size) (identity : Identity) :
    (t.drop identity).Sound length size := by
  by_cases hp : t.page.any (·.identity = identity) = true
  · have ht := h.drop_thins hp
    have hold : t.list.take t.front = t.list.take t.start ++ t.page := by
      rw [front, List.take_add, h.split, List.take_left]
    have hbefore := h.length_list hold rfl
    have hafter := h.length_list ht.upTo ht.behind
    have hfull := h.full
    have hle := h.length_le
    have hpage := ht.page.length_le
    obtain ⟨hstart', htotal', hshown', hpassed', hsub⟩ := t.drop_rest identity
    refine {
      nodup := h.nodup.sublist (hsub.map _)
      start_le := by omega
      split := ?_
      length_le := by omega
      page_le := hpage.trans h.page_le
      full := ?_
      count := ?_
      seen := fun item hm => ?_
      unseen := fun item hm => ?_
      unpassed := fun item hm => ?_ }
    · rw [hstart', ht.behind]
      exact ht.onward
    · rw [ht.behind]
      exact hfull.imp_left fun _ => by omega
    · rw [hpassed', htotal']
      exact h.count
    · rw [ht.upTo] at hm
      rw [hshown', hpassed']
      refine h.seen item ?_
      rw [hold]
      exact ((List.Sublist.refl _).append ht.page).subset hm
    · rw [ht.behind] at hm
      rw [hshown']
      exact h.unseen item hm
    · rw [hstart', ht.onward] at hm
      rw [hpassed']
      refine h.unpassed item ?_
      rw [h.split]
      exact (ht.page.append (List.Sublist.refl _)).subset hm
  · unfold drop
    rwa [if_neg hp]

/-- An item is on the new page, or passed over, by its place alone. -/
theorem Sound.mem_turn_iff (h : t.Sound length size) {item : Item} {i : Nat}
    (hi : t.list[i]? = some item) (place : Nat) :
    (item ∈ (t.turn place (window t.list place size)).shown ↔
      item ∈ t.shown ∨ place ≤ i ∧ i < place + size) ∧
    (item ∈ (t.turn place (window t.list place size)).passed ↔
      item ∈ t.passed ∨ t.front ≤ i ∧ i < t.front + (place - t.front)) := by
  have hnodup : t.list.Nodup := h.nodup.of_map
  rw [turn, List.mem_append, List.mem_append, between, mem_window_iff hnodup hi,
    mem_window_iff hnodup hi]
  exact ⟨Iff.rfl, Iff.rfl⟩

/-- Before the end of the new page an item was shown unless it was passed over. -/
theorem Sound.turn_seen (h : t.Sound length size) {place : Nat} (hle : t.start ≤ place)
    {item : Item} {i : Nat} (hi : t.list[i]? = some item) (hlt : i < place + size) :
    item ∈ (t.turn place (window t.list place size)).shown ↔
      item ∉ (t.turn place (window t.list place size)).passed := by
  obtain ⟨hseen, hunseen, hunpassed⟩ := h.at hi
  have hstart : t.start ≤ t.front := Nat.le_add_right _ _
  rw [(h.mem_turn_iff hi place).1, (h.mem_turn_iff hi place).2]
  rcases Nat.lt_or_ge i t.front with hf | hf
  · -- before the end of the old page nothing changes: what is shown again was shown
    have hagain : item ∈ t.shown ∨ place ≤ i ∧ i < place + size ↔ item ∈ t.shown :=
      or_iff_left_of_imp fun hw => (hseen hf).mpr (hunpassed (hle.trans hw.1))
    rw [hagain, hseen hf, not_or]
    exact (and_iff_left (by omega)).symm
  · -- behind it an item is on the new page, or was passed over
    rw [or_iff_right (hunseen hf), or_iff_right (hunpassed (hstart.trans hf))]
    omega

/-- **The next page comes**: it starts behind the one before, less what was dropped from it. -/
theorem Sound.turn_sound (h : t.Sound length size) {place : Nat} (hle : t.start ≤ place)
    (hnext : place ≤ t.start + size) (hplace : place < t.list.length) :
    (t.turn place (window t.list place size)).Sound length size := by
  have hnodup : t.list.Nodup := h.nodup.of_map
  have hfront : (t.turn place (window t.list place size)).front =
      place + min size (t.list.length - place) :=
    congrArg (place + ·) (length_window t.list place size)
  have hpage : t.front ≤ t.start + size := Nat.add_le_add_left h.page_le _
  have hcount := h.count
  have htotal := h.length_le
  have hbetween := h.length_between_le _ hnext
  refine {
    nodup := h.nodup
    start_le := hplace.le
    split := drop_eq_window_append t.list place size
    length_le := Nat.le_refl _
    page_le := (length_window t.list place size).trans_le (Nat.min_le_left _ _)
    full := ?_
    count := ?_
    seen := fun item hm => ?_
    unseen := fun item hm => ?_
    unpassed := fun item hm => ?_ }
  · rw [turn, Nat.sub_self]
    exact length_window_or t.list place size
  · change (t.passed ++ t.between place).length + t.list.length ≤ length
    rw [List.length_append]
    omega
  · obtain ⟨i, hi⟩ := List.mem_iff_getElem?.mp (List.mem_of_mem_take hm)
    have hlt := (mem_take_iff hnodup hi).mp hm
    exact h.turn_seen hle hi (by omega)
  · obtain ⟨i, hi⟩ := List.mem_iff_getElem?.mp (List.mem_of_mem_drop hm)
    obtain ⟨-, hunseen, -⟩ := h.at hi
    have hlt : i < t.list.length := (List.getElem?_eq_some_iff.mp hi).1
    have hge := (mem_drop_iff hnodup hi).mp hm
    rw [(h.mem_turn_iff hi place).1, not_or]
    exact ⟨hunseen (by omega), by omega⟩
  · obtain ⟨i, hi⟩ := List.mem_iff_getElem?.mp (List.mem_of_mem_drop hm)
    obtain ⟨-, -, hunpassed⟩ := h.at hi
    have hge : place ≤ i := (mem_drop_iff hnodup hi).mp hm
    rw [(h.mem_turn_iff hi place).2, not_or]
    exact ⟨hunpassed (hle.trans hge), by omega⟩

/-- **What was shown**: all but the items that were passed over and those behind the page. -/
theorem Sound.mem_shown_iff (h : t.Sound length size) {item : Item} (hi : item ∈ t.list) :
    item ∈ t.shown ↔ item ∉ t.passed ∧ item ∉ t.behind := by
  obtain ⟨i, hi⟩ := List.mem_iff_getElem?.mp hi
  obtain ⟨hseen, hunseen, -⟩ := h.at hi
  rw [behind, mem_drop_iff h.nodup.of_map hi, Nat.not_le]
  rcases Nat.lt_or_ge i t.front with hf | hf
  · rw [hseen hf, and_iff_left hf]
  · exact iff_of_false (hunseen hf) fun hb => Nat.not_lt_of_le hf hb.2

end Turning

end Trail

end ListenDeck
