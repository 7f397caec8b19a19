import ListenDeck.Proofs.Browse.LastWins
import ListenDeck.Proofs.Browse.Naming
import ListenDeck.Proofs.Browse.Partition

/-!
# The page and the address bar

Whether the page shown is the one that the address bar names, when nothing is under way any more.

* `Served.Visit`: what the user does with the buttons and with back and forward, and the replies.
* `Served.Strayed`: the last move in the history came while the fetch of an earlier one was under
  way, and neither it nor anything after it issued a fetch that takes over.
* `Served.Chased`: what holds while fetches are under way; every visit keeps it (`visit_chased`).
* `Served.in_step_iff`: the page is the one the address bar names exactly if the run has not
  strayed. `Served.out_of_step` is a run that has.
-/

namespace ListenDeck.Served

/-- What goes on while a list is shown: the user's buttons, moves in the history with what they
cause, and replies of the server. -/
inductive Visit where
  | goTo (target : Int)
  | older
  | newer
  | back
  | forward
  | answer (request : Nat)
  deriving DecidableEq, Repr

/-- A move in the history. -/
def Visit.moves : Visit → Bool
  | .back => true
  | .forward => true
  | _ => false

/-- What a visit consists of. After a move the pager follows the address bar. -/
def Visit.events : Visit → List Event
  | .goTo target => [.goTo target true]
  | .older => [.older]
  | .newer => [.newer]
  | .back => [.move .back, .follow]
  | .forward => [.move .forward, .follow]
  | .answer request => [.answer request]

/-- One visit after the other. -/
def tour (list : List Item) (s : Served) (vs : List Visit) : Served :=
  s.run list (vs.flatMap Visit.events)

/-- A new browser whose list is open: its first page has come, and then the page that the address
bar names. -/
def bootstrapped (list : List Item) (config : PagerConfig) (observed : Bool) (bar : AddressBar)
    (typed : Option String) : Served :=
  (opened config observed bar typed).run list [.answer 0, .answer 0]

/-- **The page shown is the one the address bar names**, the first one if it names none, brought
within the pages there are. -/
def InStep (b : Browser) : Prop :=
  (b.pager.state.page : Int) =
    max 1 (min ((readPage? b.pageText).elim 1 Int64.toInt) b.pager.state.maxPage)

instance (b : Browser) : Decidable (InStep b) := inferInstanceAs (Decidable (_ = _))

/-- The latest fetch is for a page that the address bar asked for, and is under way. -/
def Following (b : Browser) : Prop :=
  ∃ r t, (r, ⟨b.pager.fetches, .page t false⟩) ∈ b.waiting

/-- **The last move was lost**: it came while a page that the address bar had asked for before was
under way, and there was no other fetch since. -/
def Strayed (list : List Item) (s : Served) (vs : List Visit) : Prop :=
  ∃ vs₁ v vs₂, vs = vs₁ ++ v :: vs₂ ∧ v.moves = true ∧ (∀ w ∈ vs₂, w.moves = false) ∧
    Following (tour list s vs₁).browser ∧
    (tour list s vs).browser.pager.fetches = (tour list s vs₁).browser.pager.fetches

/-! ## One visit at a time -/

section Tour
variable {list : List Item} {config : PagerConfig} {s : Served}

theorem tour_append (s : Served) (vs : List Visit) (v : Visit) :
    tour list s (vs ++ [v]) = (tour list s vs).run list v.events := by
  unfold tour
  rw [List.flatMap_append, run_append, List.flatMap_singleton]

theorem step_fetches_le (h : Honest config s) (e : Event) :
    s.browser.pager.fetches ≤ (s.step list e).browser.pager.fetches := by
  obtain ⟨latest, ht⟩ := h.tracked
  show s.browser.pager.fetches ≤ (s.act list e).1.pager.fetches
  rcases Browser.step_stepped ht.made (s.meaning list e) with
    ⟨hf, -, -, -⟩ | ⟨r, aim, rest, es, -, -, hf, -, -, -, -, -⟩
  · exact hf.ge
  · unfold act; omega

theorem run_fetches_le (h : Honest config s) (es : List Event) :
    s.browser.pager.fetches ≤ (s.run list es).browser.pager.fetches := by
  induction es generalizing s with
  | nil => exact Nat.le_refl _
  | cons e es ih => exact Nat.le_trans (step_fetches_le h e) (ih (step_honest h e))

variable (list) in
theorem tour_fetches_le (h : Honest config s) (vs vs' : List Visit) :
    (tour list s vs).browser.pager.fetches ≤ (tour list s (vs ++ vs')).browser.pager.fetches := by
  unfold tour
  rw [List.flatMap_append, run_append]
  exact run_fetches_le (run_honest h _) _

theorem not_strayed_nil : ¬ Strayed list s [] := by
  rintro ⟨vs₁, v, vs₂, he, -⟩
  simp at he

/-- A move is lost if it issues no fetch while an earlier one is under way. -/
theorem strayed_of_moves {vs : List Visit} {v : Visit} (hv : v.moves = true) :
    Strayed list s (vs ++ [v]) ↔ Following (tour list s vs).browser ∧
      (tour list s (vs ++ [v])).browser.pager.fetches =
        (tour list s vs).browser.pager.fetches := by
  constructor
  · rintro ⟨vs₁, u, vs₂, he, -, hvs₂, hf, hn⟩
    rcases List.eq_nil_or_concat vs₂ with rfl | ⟨vs₃, w, rfl⟩
    · obtain ⟨rfl, rfl⟩ := List.append_singleton_inj.mp he
      exact ⟨hf, hn⟩
    · rw [List.concat_eq_append, ← List.cons_append, ← List.append_assoc] at he
      obtain ⟨-, rfl⟩ := List.append_singleton_inj.mp he
      rw [hvs₂ v (by simp)] at hv
      cases hv
  · rintro ⟨hf, hn⟩
    exact ⟨vs, v, [], rfl, hv, fun w hw => (List.not_mem_nil hw).elim, hf, hn⟩

theorem strayed_of_not_moves (h : Honest config s) {vs : List Visit} {v : Visit}
    (hv : v.moves = false) :
    Strayed list s (vs ++ [v]) ↔ Strayed list s vs ∧
      (tour list s (vs ++ [v])).browser.pager.fetches =
        (tour list s vs).browser.pager.fetches := by
  have hle := tour_fetches_le list h vs [v]
  constructor
  · rintro ⟨vs₁, u, vs₂, he, hu, hvs₂, hf, hn⟩
    rcases List.eq_nil_or_concat vs₂ with rfl | ⟨vs₃, w, rfl⟩
    · obtain ⟨rfl, rfl⟩ := List.append_singleton_inj.mp he
      rw [hv] at hu
      cases hu
    · rw [List.concat_eq_append, ← List.cons_append, ← List.append_assoc] at he
      obtain ⟨rfl, rfl⟩ := List.append_singleton_inj.mp he
      have hle' := tour_fetches_le list h vs₁ (u :: vs₃)
      refine ⟨⟨vs₁, u, vs₃, rfl, hu, fun w hw => hvs₂ w (by simp [hw]), hf, ?_⟩, ?_⟩ <;> omega
  · rintro ⟨⟨vs₁, u, vs₂, rfl, hu, hvs₂, hf, hn⟩, hsame⟩
    refine ⟨vs₁, u, vs₂ ++ [v], by simp, hu, fun w hw => ?_, hf, by rw [hsame, hn]⟩
    rcases List.mem_append.mp hw with hw | hw
    · exact hvs₂ w hw
    · rw [List.mem_singleton.mp hw]; exact hv

end Tour

/-! ## What holds while fetches are under way -/

/-- The page the address bar names, brought within the pages there are. -/
def named (b : Browser) : Nat := b.pager.clampTarget (Pager.pageNamed b.pageText)

theorem named_congr {b b' : Browser} (hmax : b'.pager.state.maxPage = b.pager.state.maxPage)
    (ht : b'.pageText = b.pageText) : named b' = named b := by
  unfold named Pager.clampTarget
  rw [hmax, ht]

theorem inStep_iff (b : Browser) : InStep b ↔ b.pager.state.page = named b := by
  unfold InStep named Pager.clampTarget Pager.pageNamed
  omega

/-- **What holds while fetches are under way**, `strayed` or not. The latest fetch is never for the
page shown; one that the address bar asked for is for the page it names unless the run has strayed,
one that the user asked for makes up for it. Without one the pager is in step unless the run has
strayed. -/
structure Chased (b : Browser) (strayed : Prop) : Prop where
  followed : ∀ r t, (r, ⟨b.pager.fetches, .page t false⟩) ∈ b.waiting →
    t ≠ b.pager.state.page ∧ (named b = t ↔ ¬ strayed)
  recorded : ∀ r t, (r, ⟨b.pager.fetches, .page t true⟩) ∈ b.waiting → ¬ strayed
  settled : (∀ w ∈ b.waiting, w.2.number ≠ b.pager.fetches) →
    (b.pager.state.page = named b ↔ ¬ strayed)

theorem Chased.congr {b : Browser} {p q : Prop} (h : Chased b p) (hpq : p ↔ q) : Chased b q :=
  propext hpq ▸ h

theorem Chased.inStep {b : Browser} {strayed : Prop} (h : Chased b strayed)
    (hw : b.waiting = []) : InStep b ↔ ¬ strayed := by
  rw [inStep_iff]
  exact h.settled fun w hm => by rw [hw] at hm; exact (List.not_mem_nil hm).elim

theorem eq_of_latest {b : Browser} {latest : Option Nat} (ht : Browser.Tracked b latest)
    {r r' : Nat} {aim aim' : Aim} (h : (r, ⟨b.pager.fetches, aim⟩) ∈ b.waiting)
    (h' : (r', ⟨b.pager.fetches, aim'⟩) ∈ b.waiting) : r = r' ∧ aim = aim' := by
  have h1 := (ht.latest_iff _ h).mp rfl
  have h2 := (ht.latest_iff _ h').mp rfl
  rw [h1] at h2
  obtain rfl : r = r' := Option.some.inj h2
  have heq := List.inj_on_of_nodup_map ht.nodup h h' rfl
  exact ⟨rfl, by simpa using heq⟩

section Chased
variable {b : Browser} {latest : Option Nat} {strayed : Prop}

theorem chased_fetch (hnumbered : ∀ w ∈ b.waiting, w.2.number ≤ b.pager.fetches)
    (hwithin : b.pager.state.Within) {t : Nat} {record : Bool} (hne : t ≠ b.pager.state.page)
    (hnamed : record = false → named b = t) (offset r : Nat) :
    Chased { b with
      pager := (b.pager.fetch (.page t record) offset).pager
      waiting := b.waiting ++ [(r, ⟨b.pager.fetches + 1, .page t record⟩)] } False := by
  have hstate := Pager.fetch_state b.pager (.page t record) offset hwithin
  have hmax : (b.pager.fetch (.page t record) offset).pager.state.maxPage =
      b.pager.state.maxPage := by rw [hstate]
  have hnew : ∀ k aim, (k, ⟨b.pager.fetches + 1, aim⟩) ∈
      b.waiting ++ [(r, ⟨b.pager.fetches + 1, .page t record⟩)] → aim = .page t record := by
    intro k aim hm
    rcases List.mem_append.mp hm with hm | hm
    · exact absurd (hnumbered _ hm) (Nat.not_succ_le_self _)
    · rw [List.mem_singleton] at hm
      exact congrArg (fun w => w.2.aim) hm
  refine ⟨fun k t' hm => ?_, fun k t' _ hs => hs, fun hw => ?_⟩
  · obtain ⟨rfl, rfl⟩ := Aim.page.inj (hnew k _ hm)
    refine ⟨by rw [hstate]; exact hne, iff_of_true ?_ not_false⟩
    refine Eq.trans ?_ (hnamed rfl)
    exact named_congr hmax rfl
  · exact absurd rfl (hw (r, ⟨b.pager.fetches + 1, .page t record⟩) (by simp))

theorem chased_asked (hnumbered : ∀ w ∈ b.waiting, w.2.number ≤ b.pager.fetches)
    (hwithin : b.pager.state.Within) (h : Chased b strayed) {t : Turn}
    (ha : b.pager.Asked true t) :
    (b.request t).1.pager.fetches = b.pager.fetches ∧ Chased (b.request t).1 strayed ∨
      (b.request t).1.pager.fetches ≠ b.pager.fetches ∧ Chased (b.request t).1 False := by
  cases ha with
  | ended o _ => exact Or.inl ⟨rfl, h.followed, h.recorded, h.settled⟩
  | fetched n hm hn =>
    rw [Browser.request_fetch]
    refine Or.inr ⟨Nat.succ_ne_self _, ?_⟩
    exact chased_fetch (b := { b with requests := b.requests + 1 }) hnumbered hwithin hn
      (by simp) _ _

theorem chased_followed (ht : Browser.Tracked b latest) (hm : b.pager.mounted = true)
    (hwithin : b.pager.state.Within) (h : Chased b strayed) (bar : AddressBar) :
    let b' := { b with bar, typed := none }
    ((b'.request (b'.pager.follow b'.pageText)).1.pager.fetches = b.pager.fetches ∧
        Chased (b'.request (b'.pager.follow b'.pageText)).1 (Following b)) ∨
      (b'.request (b'.pager.follow b'.pageText)).1.pager.fetches ≠ b.pager.fetches ∧
        Chased (b'.request (b'.pager.follow b'.pageText)).1 False := by
  intro b'
  rcases Pager.follow_cases (p := b'.pager) hm hwithin b'.pageText with ⟨hn, hf⟩ | ⟨hn, hf⟩
  · -- the page shown is the one that the address bar names now
    rw [hf]
    refine Or.inl ⟨rfl, fun r t hw => ?_, fun r t hw hfollowing => ?_, fun hw => ?_⟩
    · have hne := (h.followed r t hw).1
      refine ⟨hne, iff_of_false ?_ (not_not.mpr ⟨r, t, hw⟩)⟩
      intro he
      exact hne (he.symm.trans hn)
    · obtain ⟨r', t', hw'⟩ := hfollowing
      have := (eq_of_latest ht hw hw').2
      simp at this
    · refine iff_of_true hn.symm ?_
      rintro ⟨r, t, hfollowing⟩
      exact hw _ hfollowing rfl
  · rw [hf, Browser.request_fetch]
    refine Or.inr ⟨Nat.succ_ne_self _, ?_⟩
    exact chased_fetch (b := { b' with requests := b'.requests + 1 }) ht.numbered hwithin hn
      (fun _ => rfl) _ _

end Chased

/-! ## Replies -/

section Answer
variable {list : List Item} {config : PagerConfig} {s : Served} {strayed : Prop}

theorem chased_late (h : Honest config s) (hc : Chased s.browser strayed) {r : Nat}
    {ticket : Ticket} (hw : s.browser.waiting.lookup r = some ticket)
    (hl : ticket.number ≠ s.browser.pager.fetches) :
    (s.act list (.answer r)).1.pager.fetches = s.browser.pager.fetches ∧
      Chased (s.act list (.answer r)).1 strayed := by
  obtain ⟨latest, ht⟩ := h.tracked
  have hcur : ¬ (latest = some r ∧ s.browser.pager.mounted = true) := by
    rintro ⟨hr, -⟩
    exact hl ((ht.latest_iff _ (Browser.mem_of_lookup hw)).mpr hr)
  have hact : (s.act list (.answer r)).1 =
      { s.browser with waiting := s.browser.waiting.filter (·.1 ≠ r) } := by
    unfold act meaning
    rw [Browser.step_reply_late ht hw hcur]
  rw [hact]
  refine ⟨rfl, fun k t hm => hc.followed k t (List.mem_of_mem_filter hm),
    fun k t hm => hc.recorded k t (List.mem_of_mem_filter hm), fun hn => hc.settled ?_⟩
  intro w hm he
  refine hn w (List.mem_filter.mpr ⟨hm, ?_⟩) he
  rw [decide_eq_true_eq]
  intro hr
  rw [ht.latest_iff w hm, hr] at he
  exact hl ((ht.latest_iff _ (Browser.mem_of_lookup hw)).mpr he)

theorem chased_answer (hs : 1 ≤ config.pageSize) (h : Honest config s)
    (hb : Shown list s.browser) (hc : Chased s.browser strayed) {r t : Nat} {record : Bool}
    (hw : s.browser.waiting.lookup r = some ⟨s.browser.pager.fetches, .page t record⟩) :
    (s.act list (.answer r)).1.pager.fetches = s.browser.pager.fetches ∧
      Chased (s.act list (.answer r)).1 strayed := by
  obtain ⟨latest, ht⟩ := h.tracked
  have hmem := Browser.mem_of_lookup hw
  obtain ⟨h1, h2, -⟩ := hb.inside _ hmem
  have hmax := hb.shows.maxPage
  have hgone : ∀ w ∈ s.browser.waiting.filter (·.1 ≠ r),
      w.2.number ≠ s.browser.pager.fetches := by
    rintro ⟨k, number, aim⟩ hm rfl
    rw [List.mem_filter, decide_eq_true_eq] at hm
    exact hm.2 (eq_of_latest ht hm.1 hmem).1
  rw [answer_eq hs h hb hw]
  refine ⟨rfl, fun k t' hm => absurd rfl (hgone _ hm), fun k t' hm => absurd rfl (hgone _ hm),
    fun _ => ?_⟩
  cases record with
  | false =>
    rw [← (hc.followed r t hmem).2, eq_comm]
    refine Eq.congr_left (named_congr ?_ rfl)
    rw [hmax, h.configured]
    rfl
  | true =>
    -- the new entry in the address bar names the page
    refine iff_of_true ?_ (hc.recorded r t hmem)
    have hle : t ≤ maxPageNumber := Nat.le_trans h2 (Nat.min_le_left _ _)
    have hn := Pager.pageNamed_push s.browser.bar hle
    rw [h.configured] at h2
    show t = (max 1 (min (Pager.pageNamed (s.browser.bar.push t).pageText)
      (pageCount list.length config.pageSize : Int))).toNat
    rw [hn]
    omega

theorem chased_reply (hs : 1 ≤ config.pageSize) (h : Honest config s) (hb : Shown list s.browser)
    (hc : Chased s.browser strayed) (r : Nat) :
    (s.act list (.answer r)).1.pager.fetches = s.browser.pager.fetches ∧
      Chased (s.act list (.answer r)).1 strayed := by
  cases hw : s.browser.waiting.lookup r with
  | none =>
    unfold act meaning
    rw [Browser.step_reply_of_none hw]
    exact ⟨rfl, hc⟩
  | some ticket =>
    by_cases hl : ticket.number = s.browser.pager.fetches
    · have hin := hb.inside _ (Browser.mem_of_lookup hw)
      obtain ⟨number, aim⟩ := ticket
      obtain rfl : number = s.browser.pager.fetches := hl
      cases aim with
      | opening => exact hin.elim
      | page t record => exact chased_answer hs h hb hc hw
    · exact chased_late h hc hw hl

end Answer

/-! ## Whole runs -/

section Runs
variable {list : List Item} {config : PagerConfig} {s : Served} {strayed : Prop}

/-- **What a visit does**: without a new fetch only a move makes the run stray, namely if an earlier
one is followed just then; a new fetch takes over. -/
theorem visit_chased (hs : 1 ≤ config.pageSize) (h : Honest config s) (hb : Shown list s.browser)
    (hc : Chased s.browser strayed) (v : Visit) :
    let b := (s.run list v.events).browser
    (b.pager.fetches = s.browser.pager.fetches ∧
        Chased b (if v.moves then Following s.browser else strayed)) ∨
      b.pager.fetches ≠ s.browser.pager.fetches ∧ Chased b False := by
  obtain ⟨latest, ht⟩ := h.tracked
  have hwithin := hb.shows.within
  cases v with
  | goTo target => exact chased_asked ht.numbered hwithin hc (Pager.goTo_asked _ _ _)
  | older => exact chased_asked ht.numbered hwithin hc (Pager.older_asked _)
  | newer => exact chased_asked ht.numbered hwithin hc (Pager.newer_asked _)
  | back => exact chased_followed ht h.mounted hwithin hc _
  | forward => exact chased_followed ht h.mounted hwithin hc _
  | answer r => exact Or.inl (chased_reply hs h hb hc r)

/-- **Every run is in step unless it has strayed**, as far as fetches under way go. -/
theorem tour_chased (hs : 1 ≤ config.pageSize) (h : Honest config s) (hb : Shown list s.browser)
    (hc : Chased s.browser False) (vs : List Visit) :
    Chased (tour list s vs).browser (Strayed list s vs) := by
  induction vs using List.reverseRecOn with
  | nil => exact hc.congr (iff_of_false not_false not_strayed_nil)
  | append_singleton vs v ih =>
    have hv := visit_chased (s := tour list s vs) hs (run_honest h _) (run_shown hs h hb _) ih v
    simp only [← tour_append] at hv
    by_cases hmoves : v.moves = true
    · rw [if_pos hmoves] at hv
      rcases hv with ⟨hsame, hv⟩ | ⟨hne, hv⟩
      · exact hv.congr ((strayed_of_moves hmoves).trans (and_iff_left hsame)).symm
      · refine hv.congr (iff_of_false not_false ?_)
        rw [strayed_of_moves hmoves]
        exact fun hstrayed => hne hstrayed.2
    · rw [if_neg hmoves] at hv
      rw [Bool.not_eq_true] at hmoves
      rcases hv with ⟨hsame, hv⟩ | ⟨hne, hv⟩
      · exact hv.congr ((strayed_of_not_moves h hmoves).trans (and_iff_left hsame)).symm
      · refine hv.congr (iff_of_false not_false ?_)
        rw [strayed_of_not_moves h hmoves]
        exact fun hstrayed => hne hstrayed.2

/-- The first reply leaves the pager in step, or on its way to the page that the address bar
names. -/
theorem unopened_answer_chased (h : Honest config s) (hu : Unopened [first] s.browser) :
    Chased (s.act list (.answer 0)).1 False := by
  have hw := lookup_first hu
  have hfilter : s.browser.waiting.filter (·.1 ≠ 0) = [] := by rw [hu.waiting]; rfl
  unfold act meaning
  rw [Browser.step_reply_of_some hw, hfilter,
    Pager.receive_opening _ _ (isCurrent_first h.mounted hu) rfl]
  obtain ⟨q, hq⟩ : ∃ q,
      s.browser.pager.seeded (s.reply list 0).total (s.reply list 0).items = q := ⟨_, rfl⟩
  have hwithin : q.state.Within := by rw [← hq]; exact Pager.seeded_within _ _ _
  rcases Pager.displayFirst_cases s.browser.pager s.browser.pageText h.mounted (s.reply list 0)
    hq with ⟨hn, hd⟩ | ⟨hn, hd⟩ <;> rw [hd]
  · rw [Browser.afterTurn_ended _ _ rfl (Pager.unwritten_observation _)]
    exact ⟨fun r t hm => (List.not_mem_nil hm).elim, fun r t hm => (List.not_mem_nil hm).elim,
      fun _ => iff_of_true hn.symm not_false⟩
  · rw [Browser.afterTurn_waiting _ _ rfl
      (Pager.unwritten_append (Pager.unwritten_observation _) (Pager.unwritten_fetch _ _ _))]
    exact chased_fetch (b := { s.browser with pager := q, waiting := [] })
      (fun w hm => (List.not_mem_nil hm).elim) hwithin hn (fun _ => rfl)
      (q.offsetOf (q.clampTarget (Pager.pageNamed s.browser.pageText))) 0

end Runs

/-- **When the page and the address bar are in step.** The server answers every fetch. Once the list
is open, the user presses the buttons and moves in the history, and the replies come, in any order.
When nothing is under way any more, the page shown is the one that the address bar names exactly if
the run has not strayed. -/
theorem in_step_iff (config : PagerConfig) (observed : Bool) (bar : AddressBar)
    (typed : Option String) (list : List Item) (hs : 1 ≤ config.pageSize) (vs : List Visit) :
    let s := bootstrapped list config observed bar typed
    (tour list s vs).browser.waiting = [] →
      (InStep (tour list s vs).browser ↔ ¬ Strayed list s vs) := by
  intro s hw
  have hh := opened_honest config observed bar typed
  have hu := opening_unopened config observed bar typed
  let s₁ := (opened config observed bar typed).step list (.answer 0)
  have h1 : Honest config s₁ := step_honest hh (.answer 0)
  have hb1 : Shown list s₁.browser := (unopened_answer hs hh hu).1
  have hc1 : Chased s₁.browser False := unopened_answer_chased hh hu
  have h : Honest config s := step_honest h1 (.answer 0)
  have hb : Shown list s.browser := (shown_step hs h1 hb1 (.answer 0)).1
  have hc : Chased s.browser False := (chased_reply hs h1 hb1 hc1 0).2
  exact (tour_chased hs h hb hc vs).inStep hw

/-- Two pages of two pins; the second one was asked for and has come: the run has not strayed. -/
theorem in_step_iff_of_one_page :
    let list : List Item :=
      [.pin { rowId := 1 }, .pin { rowId := 2 }, .pin { rowId := 3 }, .pin { rowId := 4 }]
    let s := bootstrapped list ⟨"rob", "pinned recordings", 2⟩ false (.start none) none
    (tour list s [.goTo 2, .answer 1]).browser.waiting = [] ∧
      (InStep (tour list s [.goTo 2, .answer 1]).browser ↔
        ¬ Strayed list s [.goTo 2, .answer 1]) := by
  refine ⟨?_, in_step_iff ⟨"rob", "pinned recordings", 2⟩ false (.start none) none _
    (Nat.le_succ 1) _ ?_⟩
  · decide +kernel
  · decide +kernel

/-- **A run that strays.** From the second page the user goes back, which asks for the first page,
and forward again before it has come. The second page is still shown then, so that nothing replaces
the fetch; when it comes, the first page is shown and the address bar names the second one. -/
theorem out_of_step :
    let list : List Item :=
      [.pin { rowId := 1 }, .pin { rowId := 2 }, .pin { rowId := 3 }, .pin { rowId := 4 }]
    let s := bootstrapped list ⟨"rob", "pinned recordings", 2⟩ false (.start none) none
    let vs : List Visit := [.goTo 2, .answer 1, .back, .forward, .answer 2]
    (tour list s vs).browser.waiting = [] ∧ (tour list s vs).browser.pager.state.page = 1 ∧
      (tour list s vs).browser.pageText = some "2" ∧ ¬ InStep (tour list s vs).browser := by
  decide +kernel

end ListenDeck.Served
