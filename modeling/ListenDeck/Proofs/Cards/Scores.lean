import ListenDeck.Proofs.Cards.Takeover
import Mathlib.Data.List.Induction

/-!
# The scores cards show

A card shows the score it was mounted with until the reply to one of its own calls brings another
one, whatever happens to its list meanwhile.

* `Shelf.taken`, `Shelf.arrange_origin`: the cards that stay in a new list, and where its cards come
  from.
* `ScoreSheet`, `Shelf.sheet`: the cards of a shelf by their numbers, with the scores they show.
* `scoreAfter`: a card's score after verdicts about cards.
* `ScoreSheet.Follows`: one sheet comes after another one, with nothing but verdicts in between;
  what happens to a shelf leads to such a sheet (`Shelf.arrange_follows`, `Shelf.act_follows`,
  `Shelf.receive_follows`).
-/

namespace ListenDeck

/-! ## Where the cards of a list come from -/

namespace Shelf

section Arrange
variable {κ : Type} [DecidableEq κ]

/-- The old cards that stay in a list, each with what the list asks for it. -/
def takenFrom (old : List (MountedCard κ)) :
    List (WantedCard κ) → List (MountedCard κ × WantedCard κ)
  | [] => []
  | w :: rest =>
    match old.find? (·.key = w.key) with
    | some c => (c, w) :: takenFrom (old.eraseP (·.key = w.key)) rest
    | none => takenFrom old rest

/-- The cards of a shelf that stay when it is arranged, each with what is asked for it. -/
def taken (s : Shelf κ) (wanted : List (WantedCard κ)) : List (MountedCard κ × WantedCard κ) :=
  takenFrom s.cards wanted

theorem takenFrom_spec {old : List (MountedCard κ)} {wanted : List (WantedCard κ)} :
    ∀ t ∈ takenFrom old wanted, t.1 ∈ old ∧ t.2 ∈ wanted ∧ t.1.key = t.2.key := by
  induction wanted generalizing old with
  | nil => exact fun t ht => absurd ht List.not_mem_nil
  | cons w rest ih =>
    unfold takenFrom
    split
    · next c hfind =>
      intro t ht
      rcases List.mem_cons.mp ht with rfl | ht
      · exact ⟨List.mem_of_find?_eq_some hfind, List.mem_cons_self, by
          simpa using List.find?_some hfind⟩
      · obtain ⟨hold, hwanted, hkey⟩ := ih t ht
        exact ⟨List.mem_of_mem_eraseP hold, List.mem_cons_of_mem _ hwanted, hkey⟩
    · intro t ht
      obtain ⟨hold, hwanted, hkey⟩ := ih t ht
      exact ⟨hold, List.mem_cons_of_mem _ hwanted, hkey⟩

/-- The cards of a new list are those that stay, with what they show now, and new ones. -/
theorem arrangeFrom_origin (mounted : Nat) (old : List (MountedCard κ))
    (wanted : List (WantedCard κ)) :
    (∀ t ∈ takenFrom old wanted,
      { t.1 with shown := t.2.item } ∈ (arrangeFrom mounted old wanted).1) ∧
    ∀ d ∈ (arrangeFrom mounted old wanted).1,
      (∃ t ∈ takenFrom old wanted, d = { t.1 with shown := t.2.item }) ∨
        mounted ≤ d.serial ∧
          ∃ w ∈ wanted, d.shown = w.item ∧ d.score = w.score ∧ d.own = w.item := by
  induction wanted generalizing mounted old with
  | nil => exact ⟨fun t ht => absurd ht List.not_mem_nil, fun d hd => absurd hd List.not_mem_nil⟩
  | cons w rest ih =>
    cases hfind : old.find? (·.key = w.key) with
    | some c =>
      obtain ⟨hstay, hfrom⟩ := ih mounted (old.eraseP (·.key = w.key))
      simp only [arrangeFrom, takenFrom, hfind]
      refine ⟨fun t ht => ?_, fun d hd => ?_⟩
      · rcases List.mem_cons.mp ht with rfl | ht
        · exact List.mem_cons_self
        · exact List.mem_cons_of_mem _ (hstay t ht)
      · rcases List.mem_cons.mp hd with rfl | hd
        · exact .inl ⟨(c, w), List.mem_cons_self, rfl⟩
        · rcases hfrom d hd with ⟨t, ht, heq⟩ | ⟨hnew, w', hw', hsame⟩
          · exact .inl ⟨t, List.mem_cons_of_mem _ ht, heq⟩
          · exact .inr ⟨hnew, w', List.mem_cons_of_mem _ hw', hsame⟩
    | none =>
      obtain ⟨hstay, hfrom⟩ := ih (mounted + 1) old
      simp only [arrangeFrom, takenFrom, hfind]
      refine ⟨fun t ht => List.mem_cons_of_mem _ (hstay t ht), fun d hd => ?_⟩
      rcases List.mem_cons.mp hd with rfl | hd
      · exact .inr ⟨Nat.le_refl _, w, List.mem_cons_self, rfl, rfl, rfl⟩
      · rcases hfrom d hd with hold | ⟨hnew, w', hw', hsame⟩
        · exact .inl hold
        · exact .inr ⟨Nat.le_of_succ_le hnew, w', List.mem_cons_of_mem _ hw', hsame⟩

/-- **The cards of a new list**: each is one that stays and shows what is asked for now, or it is
mounted now, with the item it shows and the score it was asked for with. -/
theorem arrange_origin (s : Shelf κ) (wanted : List (WantedCard κ)) :
    ∀ d ∈ (s.arrange wanted).cards,
      (∃ t ∈ s.taken wanted, d = { t.1 with shown := t.2.item }) ∨
        s.mounted ≤ d.serial ∧
          ∃ w ∈ wanted, d.shown = w.item ∧ d.score = w.score ∧ d.own = w.item :=
  (arrangeFrom_origin s.mounted s.cards wanted).2

theorem mem_arrange_of_taken {s : Shelf κ} {wanted : List (WantedCard κ)}
    {t : MountedCard κ × WantedCard κ} (h : t ∈ s.taken wanted) :
    { t.1 with shown := t.2.item } ∈ (s.arrange wanted).cards :=
  (arrangeFrom_origin s.mounted s.cards wanted).1 t h

theorem arrange_mounted_le {s : Shelf κ} (h : s.Numbered) (wanted : List (WantedCard κ)) :
    s.mounted ≤ (s.arrange wanted).mounted :=
  (arrangeFrom_numbered s.mounted s.cards wanted h.nodup h.lt).1

end Arrange

end Shelf

/-! ## Score sheets -/

/-- **The cards of a shelf**, whatever their keys, with the scores they show. -/
structure ScoreSheet where
  /-- The number of cards mounted so far. -/
  mounted : Nat := 0
  /-- The numbers of the cards, and their scores. -/
  scores : List (Nat × Score) := []
  deriving DecidableEq, Repr

/-- The scores the cards of a shelf show. -/
def Shelf.sheet {κ : Type} (s : Shelf κ) : ScoreSheet where
  mounted := s.mounted
  scores := s.cards.map fun c => (c.serial, c.score)

/-- A card's score after verdicts about cards, in order. -/
def scoreAfter (card : Nat) (score : Score) (verdicts : List (Nat × Score)) : Score :=
  verdicts.foldl (fun s v => if v.1 = card then v.2 else s) score

theorem scoreAfter_append (card : Nat) (score : Score) (vs ws : List (Nat × Score)) :
    scoreAfter card score (vs ++ ws) = scoreAfter card (scoreAfter card score vs) ws :=
  List.foldl_append

/-- **The last verdict about a card counts.** -/
theorem scoreAfter_eq (card : Nat) (score : Score) (vs : List (Nat × Score)) :
    scoreAfter card score vs = (((vs.filter (·.1 = card)).getLast?).map (·.2)).getD score := by
  induction vs using List.reverseRecOn with
  | nil => rfl
  | append_singleton vs v ih =>
    rw [scoreAfter_append, ih, List.filter_append]
    by_cases hv : v.1 = card <;> simp [scoreAfter, hv]

namespace ScoreSheet

/-- The cards are told apart by their numbers, all of which were given out. -/
structure Numbered (b : ScoreSheet) : Prop where
  nodup : (b.scores.map Prod.fst).Nodup
  lt : ∀ p ∈ b.scores, p.1 < b.mounted

/-- **One sheet follows another one**: a card that was there before shows its score as the verdicts
left it, and a new card has a new number. -/
structure Follows (b b' : ScoreSheet) (verdicts : List (Nat × Score)) : Prop where
  mounted : b.mounted ≤ b'.mounted
  scores : ∀ p ∈ b'.scores, b.mounted ≤ p.1 ∨
    ∃ score, (p.1, score) ∈ b.scores ∧ p.2 = scoreAfter p.1 score verdicts
  numbered : b'.Numbered

section Follows
variable {b b' b'' : ScoreSheet} {vs ws : List (Nat × Score)}

theorem Follows.refl (h : b.Numbered) : b.Follows b [] :=
  ⟨Nat.le_refl _, fun p hp => .inr ⟨p.2, hp, rfl⟩, h⟩

theorem Follows.trans (h : b.Follows b' vs) (h' : b'.Follows b'' ws) :
    b.Follows b'' (vs ++ ws) := by
  refine ⟨Nat.le_trans h.mounted h'.mounted, fun p hp => ?_, h'.numbered⟩
  rcases h'.scores p hp with hnew | ⟨score', hmem', heq'⟩
  · exact .inl (Nat.le_trans h.mounted hnew)
  · rcases h.scores _ hmem' with hnew | ⟨score, hmem, heq⟩
    · exact .inl hnew
    · refine .inr ⟨score, hmem, ?_⟩
      simp only at heq
      rw [heq', heq, scoreAfter_append]

/-- **A card that is there before and after** shows its score as the verdicts left it. -/
theorem Follows.score (h : b.Follows b' vs) (hb : b.Numbered) {card : Nat} {score score' : Score}
    (hmem : (card, score) ∈ b.scores) (hmem' : (card, score') ∈ b'.scores) :
    score' = scoreAfter card score vs := by
  rcases h.scores _ hmem' with hnew | ⟨score₀, hmem₀, heq⟩
  · exact absurd (hb.lt _ hmem) (Nat.not_lt.mpr hnew)
  · have hsame := List.inj_on_of_nodup_map hb.nodup hmem hmem₀ rfl
    obtain ⟨-, rfl⟩ := Prod.mk.inj hsame
    exact heq

theorem Follows.of_absent (h : b.Numbered) {card : Nat} (habsent : card ∉ b.scores.map Prod.fst)
    (score : Score) : b.Follows b [(card, score)] := by
  refine ⟨Nat.le_refl _, fun p hp => .inr ⟨p.2, hp, ?_⟩, h⟩
  have hne : card ≠ p.1 := fun he => habsent (he ▸ List.mem_map_of_mem hp)
  rw [scoreAfter, List.foldl_cons, List.foldl_nil, if_neg hne]

end Follows

end ScoreSheet

namespace Shelf

section Sheet
variable {κ : Type} {s t : Shelf κ}

theorem sheet_numbered : s.sheet.Numbered ↔ s.Numbered := by
  have hmap : s.sheet.scores.map Prod.fst = s.cards.map (·.serial) := by
    simp only [sheet, List.map_map, Function.comp_def]
  constructor
  · intro h
    exact ⟨hmap ▸ h.nodup, fun c hc => h.lt (c.serial, c.score) (List.mem_map_of_mem hc)⟩
  · intro h
    refine ⟨hmap ▸ h.nodup, fun p hp => ?_⟩
    obtain ⟨c, hc, rfl⟩ := List.mem_map.mp hp
    exact h.lt c hc

theorem mem_sheet {card : Nat} {score : Score} :
    (card, score) ∈ s.sheet.scores ↔ ∃ c ∈ s.cards, c.serial = card ∧ c.score = score := by
  simp only [sheet, List.mem_map, Prod.mk.injEq]

theorem follows_of_same (h : s.Numbered)
    (hscores : t.cards.map (fun c => (c.serial, c.score)) =
      s.cards.map fun c => (c.serial, c.score)) (hmounted : t.mounted = s.mounted) :
    s.sheet.Follows t.sheet [] := by
  have hsame : t.sheet = s.sheet := by rw [sheet, sheet, hscores, hmounted]
  rw [hsame]
  exact .refl (sheet_numbered.mpr h)

theorem arrange_follows [DecidableEq κ] (h : s.Numbered) (wanted : List (WantedCard κ)) :
    s.sheet.Follows (s.arrange wanted).sheet [] := by
  refine ⟨arrange_mounted_le h wanted, fun p hp => ?_, sheet_numbered.mpr (arrange_numbered h _)⟩
  obtain ⟨d, hd, rfl⟩ := List.mem_map.mp hp
  rcases arrange_origin s wanted d hd with ⟨t, ht, rfl⟩ | ⟨hnew, -⟩
  · exact .inr ⟨_, mem_sheet.mpr ⟨t.1, (takenFrom_spec t ht).1, rfl, rfl⟩, rfl⟩
  · exact .inl hnew

theorem act_follows (h : s.Numbered) (session : Session) (grace : Nat) (removal : Action)
    (serial : Nat) (m : CardMessage) :
    s.sheet.Follows (s.act session grace removal serial m).1.sheet [] :=
  follows_of_same h (s.act_map (fun _ _ => rfl) session grace removal serial m)
    (s.act_rest session grace removal serial m).1

/-- The scores a settlement gives to a card. -/
def verdicts (serial : Nat) (settlement : Settlement) : List (Nat × Score) :=
  settlement.heard.map fun h => (serial, h.2)

theorem settle_follows (h : s.Numbered) (serial place deadline : Nat) (settlement : Settlement) :
    s.sheet.Follows (s.settle serial place deadline settlement).1.sheet
      (verdicts serial settlement) := by
  cases settlement with
  | scored msid score =>
    refine ⟨Nat.le_refl _, fun p hp => ?_, sheet_numbered.mpr (numbered_of_serials h
      (s.settle_map (fun _ _ => rfl) (fun _ => rfl) serial place deadline _)
      (s.settle_mounted serial place deadline _))⟩
    obtain ⟨d, hd, rfl⟩ := List.mem_map.mp hp
    obtain ⟨c, hc, rfl⟩ := List.mem_map.mp hd
    refine .inr ⟨c.score, mem_sheet.mpr ⟨c, hc, ?_, rfl⟩, ?_⟩
    · split_ifs <;> rfl
    · by_cases hserial : c.serial = serial
      · simp [verdicts, Settlement.heard, scoreAfter, hserial]
      · have hne : serial ≠ c.serial := Ne.symm hserial
        simp [verdicts, Settlement.heard, scoreAfter, hserial, hne]
  | armed identity =>
    exact follows_of_same h (s.arm_map (fun _ => rfl) serial identity place deadline) rfl
  | announced notice => exact follows_of_same h rfl rfl
  | failed notice => exact follows_of_same h rfl rfl

variable {now serial grace : Nat} {item : Item} {m : Mutation} {reply : Except ServerError Nat}

/-- **The reply to a call of a card** changes the card's score, if it is about a score. -/
theorem receive_follows (h : s.Numbered) {settlement : Settlement} {effects : List PageEffect}
    (hr : s.receive? now serial item m grace reply = some (settlement, t, effects)) :
    settlement = ListenDeck.settle item m reply ∧
      s.sheet.Follows t.sheet (verdicts serial (ListenDeck.settle item m reply)) := by
  unfold receive? at hr
  split_ifs at hr
  obtain ⟨rfl, ht⟩ := Prod.mk.inj (Option.some.inj hr)
  have hf := settle_follows h serial m.place (now + grace) (ListenDeck.settle item m reply)
  rw [ht] at hf
  exact ⟨rfl, hf⟩

theorem receive_absent (h : s.Numbered)
    (hr : s.receive? now serial item m grace reply = none) (settlement : Settlement) :
    s.sheet.Follows s.sheet (verdicts serial settlement) := by
  have habsent : serial ∉ s.sheet.scores.map Prod.fst := by
    unfold receive? at hr
    split_ifs at hr with hmounted
    rw [isMounted_iff] at hmounted
    simpa only [sheet, List.map_map, Function.comp_def] using hmounted
  cases settlement with
  | scored msid score => exact .of_absent (sheet_numbered.mpr h) habsent score
  | _ => exact .refl (sheet_numbered.mpr h)

end Sheet

end Shelf

end ListenDeck
