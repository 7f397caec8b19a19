import ListenDeck.Pages.Playlist
import Mathlib.Data.List.Nodup
import Mathlib.Order.Nat
import Mathlib.Tactic.Common

/-!
# The cards of a playlist

* `Shelf.arrange_shown`: arranged cards show the items that were asked for, in their order.
* `Shelf.Numbered`: the cards have different numbers; arranging keeps this (`arrange_numbered`).
* `PlaylistPage.InOrder`: the cards show the tracks, in their order. The place of a card is then the
  place of its track (`track_of_find?`), and every track has a card (`exists_card`).
-/

namespace ListenDeck

namespace Shelf

section Arrange
variable {κ : Type} [DecidableEq κ]

theorem arrangeFrom_shown (mounted : Nat) (old : List (MountedCard κ))
    (wanted : List (WantedCard κ)) :
    (arrangeFrom mounted old wanted).1.map (·.shown) = wanted.map (·.item) := by
  induction wanted generalizing mounted old with
  | nil => rfl
  | cons w rest ih =>
    unfold arrangeFrom
    split
    · simp only [List.map_cons, ih]
    · simp only [List.map_cons, ih]

/-- **Arranged cards show what was asked for.** -/
theorem arrange_shown (s : Shelf κ) (wanted : List (WantedCard κ)) :
    (s.arrange wanted).cards.map (·.shown) = wanted.map (·.item) :=
  arrangeFrom_shown s.mounted s.cards wanted

/-- **The cards are told apart by their numbers**, all of which were given out. -/
structure Numbered (s : Shelf κ) : Prop where
  nodup : (s.cards.map (·.serial)).Nodup
  lt : ∀ c ∈ s.cards, c.serial < s.mounted

omit [DecidableEq κ] in
theorem perm_eraseP {l : List (MountedCard κ)} {p : MountedCard κ → Bool} {c : MountedCard κ}
    (h : l.find? p = some c) : l.Perm (c :: l.eraseP p) := by
  obtain ⟨hp, l₁, l₂, rfl, hl₁⟩ := List.find?_eq_some_iff_append.mp h
  have hnot : ∀ b ∈ l₁, ¬ p b = true := fun b hb => by simpa using hl₁ b hb
  rw [List.eraseP_append_right _ hnot, List.eraseP_cons_of_pos hp]
  exact List.perm_middle

theorem arrangeFrom_numbered (mounted : Nat) (old : List (MountedCard κ))
    (wanted : List (WantedCard κ)) (hn : (old.map (·.serial)).Nodup)
    (hlt : ∀ c ∈ old, c.serial < mounted) :
    mounted ≤ (arrangeFrom mounted old wanted).2 ∧
      ((arrangeFrom mounted old wanted).1.map (·.serial)).Nodup ∧
      ∀ k ∈ (arrangeFrom mounted old wanted).1.map (·.serial),
        k < (arrangeFrom mounted old wanted).2 ∧ (mounted ≤ k ∨ k ∈ old.map (·.serial)) := by
  induction wanted generalizing mounted old with
  | nil => exact ⟨Nat.le_refl _, List.nodup_nil, fun k hk => (List.not_mem_nil hk).elim⟩
  | cons w rest ih =>
    unfold arrangeFrom
    split
    case h_1 c hfind =>
      -- the card of the key leaves the old ones
      have hperm := (perm_eraseP hfind).map (·.serial)
      rw [hperm.nodup_iff, List.map_cons, List.nodup_cons] at hn
      have hlt' : ∀ k ∈ old.map (·.serial), k < mounted := by simpa using hlt
      obtain ⟨hle, hnodup, hall⟩ := ih mounted (old.eraseP (·.key = w.key)) hn.2 fun d hd =>
        hlt d (List.mem_of_mem_eraseP hd)
      refine ⟨hle, ?_, fun k hk => ?_⟩
      · rw [List.map_cons, List.nodup_cons]
        refine ⟨fun hc => ?_, hnodup⟩
        rcases (hall _ hc).2 with h | h
        · have := hlt' c.serial (hperm.mem_iff.mpr (by simp))
          simp only at h
          omega
        · exact hn.1 h
      · rcases List.mem_cons.mp hk with rfl | hk
        · have hmem : c.serial ∈ old.map (·.serial) := hperm.mem_iff.mpr (by simp)
          exact ⟨Nat.lt_of_lt_of_le (hlt' _ hmem) hle, Or.inr hmem⟩
        · refine ⟨(hall k hk).1, (hall k hk).2.imp_right fun h => ?_⟩
          exact hperm.mem_iff.mpr (List.mem_cons_of_mem _ h)
    case h_2 =>
      obtain ⟨hle, hnodup, hall⟩ := ih (mounted + 1) old hn fun d hd =>
        Nat.lt_succ_of_lt (hlt d hd)
      refine ⟨Nat.le_of_succ_le hle, ?_, fun k hk => ?_⟩
      · rw [List.map_cons, List.nodup_cons]
        refine ⟨fun hc => ?_, hnodup⟩
        rcases (hall _ hc).2 with h | h
        · exact Nat.not_succ_le_self _ h
        · obtain ⟨d, hd, hserial⟩ := List.mem_map.mp h
          exact absurd (hlt d hd) (by simp [hserial])
      · rcases List.mem_cons.mp hk with rfl | hk
        · exact ⟨hle, Or.inl (Nat.le_refl _)⟩
        · exact ⟨(hall k hk).1, (hall k hk).2.imp_left Nat.le_of_succ_le⟩

/-- **Arranging keeps the numbers apart.** -/
theorem arrange_numbered {s : Shelf κ} (h : s.Numbered) (wanted : List (WantedCard κ)) :
    (s.arrange wanted).Numbered := by
  obtain ⟨-, hn, hall⟩ := arrangeFrom_numbered s.mounted s.cards wanted h.nodup h.lt
  exact ⟨hn, fun c hc => (hall _ (List.mem_map_of_mem hc)).1⟩

end Arrange

section Modify
variable {κ : Type} (s : Shelf κ)

theorem modify_map {α : Type} (serial : Nat) {f : MountedCard κ → MountedCard κ}
    {g : MountedCard κ → α} (h : ∀ c, g (f c) = g c) :
    (s.modify serial f).cards.map g = s.cards.map g := by
  unfold modify
  rw [List.map_map]
  refine List.map_congr_left fun c _ => ?_
  rw [Function.comp_apply]
  split_ifs
  · exact h c
  · rfl

theorem isMounted_iff (serial : Nat) :
    s.isMounted serial = true ↔ serial ∈ s.cards.map (·.serial) := by
  unfold isMounted
  rw [List.any_eq_true, List.mem_map]
  simp only [decide_eq_true_eq]

theorem isMounted_of_find? {serial : Nat} {c : MountedCard κ} (h : s.find? serial = some c) :
    s.isMounted serial = true := by
  rw [isMounted_iff]
  have hserial : c.serial = serial := by simpa using List.find?_some h
  exact hserial ▸ List.mem_map_of_mem (List.mem_of_find?_eq_some h)

theorem numbered_of_serials {s t : Shelf κ} (h : s.Numbered)
    (hc : t.cards.map (·.serial) = s.cards.map (·.serial)) (hm : t.mounted = s.mounted) :
    t.Numbered := by
  refine ⟨by rw [hc]; exact h.nodup, fun c hmem => ?_⟩
  have hin : c.serial ∈ s.cards.map (·.serial) := hc ▸ List.mem_map_of_mem hmem
  obtain ⟨d, hd, hserial⟩ := List.mem_map.mp hin
  rw [hm, ← hserial]
  exact h.lt d hd

theorem arm_map {α : Type} {g : MountedCard κ → α} (hg : ∀ c, g { c with deleted := true } = g c)
    (serial : Nat) (identity : Identity) (place deadline : Nat) :
    (s.arm serial identity place deadline).cards.map g = s.cards.map g :=
  s.modify_map serial hg

theorem arm_numbered {s : Shelf κ} (h : s.Numbered) (serial : Nat) (identity : Identity)
    (place deadline : Nat) : (s.arm serial identity place deadline).Numbered :=
  numbered_of_serials h (s.arm_map (fun _ => rfl) serial identity place deadline) rfl

theorem arm_isMounted {serial : Nat} (h : s.isMounted serial = true) (identity : Identity)
    (place deadline : Nat) : (s.arm serial identity place deadline).isMounted serial = true := by
  rw [isMounted_iff] at h ⊢
  rw [s.arm_map fun _ => rfl]
  exact h

end Modify

end Shelf

namespace PlaylistPage

/-! ## The cards of a page -/

theorem tracks_of_some {p : PlaylistPage} {l : Playlist} (h : p.playlist = some l) :
    p.tracks = l.tracks := by
  unfold tracks
  rw [h]
  rfl

theorem trackKeysFrom_length (seen : List (String × Nat)) (tracks : List PlaylistTrack) :
    (trackKeysFrom seen tracks).length = tracks.length := by
  induction tracks generalizing seen with
  | nil => rfl
  | cons t rest ih => simp only [trackKeysFrom, List.length_cons, ih]

theorem wanted_items (p : PlaylistPage) : p.wanted.map (·.item) = p.tracks.map Item.track := by
  have hlen : (trackKeys p.tracks).length = p.tracks.length := trackKeysFrom_length [] p.tracks
  unfold wanted
  rw [List.map_zipWith]
  refine List.ext_getElem (by simp [hlen]) fun i h₁ h₂ => ?_
  simp

/-- **The cards show the tracks**, in their order. -/
def InOrder (p : PlaylistPage) : Prop :=
  p.shelf.cards.map (·.shown) = p.tracks.map Item.track

section InOrder
variable {p : PlaylistPage}

theorem arranged_inOrder (p : PlaylistPage) : p.arranged.InOrder :=
  (Shelf.arrange_shown p.shelf p.wanted).trans p.wanted_items

theorem track_of_find? (h : p.InOrder) {serial : Nat} {c : MountedCard String}
    (hc : p.shelf.find? serial = some c) :
    ∃ t, p.tracks[p.placeOf serial]? = some t ∧ c.shown = .track t := by
  unfold Shelf.find? at hc
  rw [List.find?_eq_getElem?_findIdx] at hc
  have hshown : (p.shelf.cards.map (·.shown))[p.placeOf serial]? = some c.shown := by
    rw [List.getElem?_map]
    unfold placeOf
    rw [hc]
    rfl
  rw [h, List.getElem?_map] at hshown
  obtain ⟨t, ht, hs⟩ := Option.map_eq_some_iff.mp hshown
  exact ⟨t, ht, hs.symm⟩

theorem find?_of_getElem? (hn : p.shelf.Numbered) {place : Nat} {c : MountedCard String}
    (hc : p.shelf.cards[place]? = some c) :
    p.shelf.find? c.serial = some c ∧ p.placeOf c.serial = place := by
  obtain ⟨hlt, rfl⟩ := List.getElem?_eq_some_iff.mp hc
  have hplace : p.placeOf p.shelf.cards[place].serial = place := by
    unfold placeOf
    rw [List.findIdx_eq hlt]
    refine ⟨by simp, fun j hj => ?_⟩
    rw [decide_eq_false_iff_not]
    intro he
    have hjlt : j < p.shelf.cards.length := Nat.lt_trans hj hlt
    refine List.nodup_iff_getElem?_ne_getElem?.mp hn.nodup j place hj (by simpa using hlt) ?_
    rw [List.getElem?_map, List.getElem?_map, List.getElem?_eq_getElem hjlt, hc, Option.map_some,
      Option.map_some, he]
  refine ⟨?_, hplace⟩
  unfold Shelf.find?
  rw [List.find?_eq_getElem?_findIdx]
  unfold placeOf at hplace
  rw [hplace, hc]

theorem exists_card (h : p.InOrder) (hn : p.shelf.Numbered) {place : Nat} {t : PlaylistTrack}
    (ht : p.tracks[place]? = some t) :
    ∃ serial c, p.shelf.find? serial = some c ∧ p.placeOf serial = place ∧
      c.shown = .track t := by
  have hshown : (p.shelf.cards.map (·.shown))[place]? = some (.track t) := by
    rw [h, List.getElem?_map, ht]
    rfl
  rw [List.getElem?_map] at hshown
  obtain ⟨c, hc, hs⟩ := Option.map_eq_some_iff.mp hshown
  obtain ⟨hfind, hplace⟩ := find?_of_getElem? hn hc
  exact ⟨c.serial, c, hfind, hplace, hs⟩

end InOrder

end PlaylistPage

end ListenDeck
