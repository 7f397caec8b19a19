import ListenDeck.Pages.Listens
import ListenDeck.Proofs.Cards.Scores

/-!
# Scores of recordings and of their cards

The page of listens keeps the scores of recordings, and every card keeps a score of its own. The
reply to a press of a card's button reaches the page's scores and that one card; a new list reaches
the page's scores and the cards that are mounted for it.

* `ListensPage.InTune`: every card shows the score that the page has for its recording.
* `ListensPage.Round`, `ListensPage.play`: a press of a button that is answered, or a completed
  refresh.
* `ListensPage.Harmless`: a round that leaves no card behind.
* `ListensPage.in_tune_iff`: the page stays in tune exactly as long as all rounds are harmless.
* `ListensPage.out_of_tune`: two rounds that are not.
-/

namespace ListenDeck

theorem Score.toggled_ne {current requested : Score} (h : requested ≠ .neutral) :
    toggled current requested ≠ current := by
  unfold toggled
  split_ifs with hsame
  · rw [hsame]
    exact h.symm
  · exact fun he => hsame he.symm

namespace ListensPage

/-! ## Rounds -/

/-- **Every card shows the score** that the page has for its recording. -/
def InTune (p : ListensPage) : Prop := ∀ c ∈ p.shelf.cards, c.score = scoreOf p.scores c.shown

instance (p : ListensPage) : Decidable p.InTune := by
  unfold InTune
  infer_instance

/-- What the press of one of the two buttons asks for. -/
def opinion (love : Bool) : Score := if love then .loved else .hated

theorem opinion_ne (love : Bool) : opinion love ≠ .neutral := by
  cases love <;> decide

/-- **Something the user does**, and the replies to what it asks for. -/
inductive Round where
  /-- A card is loved or hated. -/
  | rate (session : Session) (settings : Settings) (serial : Nat) (love : Bool) (now : Nat)
      (reply : Except ServerError Nat)
  /-- The listens are asked for, and then their scores. -/
  | refresh (settings : Settings) (listens : Except ServerError (List Listen))
      (scores : Except ServerError Scores)

/-- The change that an effect asks for is answered. -/
def hearChange (now : Nat) (reply : Except ServerError Nat) (p : ListensPage) :
    PageEffect → ListensPage
  | .ask (.change card item m grace) => (p.changed now card item m grace reply).1
  | _ => p

/-- The scores that an effect asks for are answered. -/
def hearScores (reply : Except ServerError Scores) (p : ListensPage) : PageEffect → ListensPage
  | .ask (.scores _ listens) => (p.scoresCame listens reply).1
  | _ => p

/-- The page after a round. -/
def play (p : ListensPage) : Round → ListensPage
  | .rate session settings serial love now reply =>
    let t := p.update session settings (.card serial (.rate (opinion love)))
    t.2.foldl (hearChange now reply) t.1
  | .refresh settings listens scores =>
    let t := (p.load settings).1.listensCame listens
    t.2.foldl (hearScores scores) t.1

/-- The page after some rounds. -/
def playAll (p : ListensPage) (rounds : List Round) : ListensPage := rounds.foldl play p

/-- **A round leaves no card behind.** If a recording gets another score, no other card shows the
recording; and the cards that stay in a new list have the scores that are known of its listens. -/
def Harmless (p : ListensPage) : Round → Prop
  | .rate session _ serial _ _ reply =>
    confirmed reply = .ok () → session.token.isSome = true →
      ∀ c msid, p.shelf.find? serial = some c → c.shown.recordingMsid = some msid →
        ∀ d ∈ p.shelf.cards, d.shown.recordingMsid = some msid → d.serial = serial
  | .refresh _ listens scores => ∀ l, listens = .ok l →
    ∀ t ∈ p.shelf.taken (p.scoresCame l scores).1.wanted, t.1.score = t.2.score

/-! ## Scores of recordings -/

section Scores
variable {scores : Scores} {item other : Item} {msid : String} {score : Score}

theorem scoreOf_congr (h : item.recordingMsid = other.recordingMsid) :
    scoreOf scores item = scoreOf scores other := by
  unfold scoreOf
  rw [h]

theorem scoreOf_put : scoreOf (Named.put msid score scores) item =
    if item.recordingMsid = some msid then score else scoreOf scores item := by
  unfold scoreOf
  cases hm : item.recordingMsid with
  | none => rw [if_neg (by simp)]; rfl
  | some other =>
    simp only [Option.bind_some, Named.find?_put, Option.some.injEq]
    split_ifs <;> rfl

end Scores

/-! ## A press of a button -/

section Rate
variable {p : ListensPage} {session : Session} {settings : Settings} {serial now : Nat}
  {love : Bool} {reply : Except ServerError Nat}

variable (session love) in
theorem plan_rate (c : MountedCard Identity) :
    c.plan? session .deleteListen (.rate (opinion love)) = session.token.bind fun token =>
      c.shown.recordingMsid.map fun msid =>
        .submitFeedback token msid (.toggled c.score (opinion love)) := by
  simp only [MountedCard.plan?, MountedCard.action?, Option.bind_some, Session.plan]
  cases session.token with
  | none => rfl
  | some token => cases c.shown.recordingMsid <;> rfl

variable (settings now love) in
theorem play_rate_idle (h : ¬ (confirmed reply = .ok () ∧ session.token.isSome = true ∧
      ∃ c msid, p.shelf.find? serial = some c ∧ c.shown.recordingMsid = some msid)) :
    (p.play (.rate session settings serial love now reply)).shelf = p.shelf ∧
      (p.play (.rate session settings serial love now reply)).scores = p.scores := by
  have hnothing : ∀ c : MountedCard Identity, p.shelf.find? serial = some c →
      c.plan? session .deleteListen (.rate (opinion love)) = none →
      (p.play (.rate session settings serial love now reply)).shelf = p.shelf ∧
        (p.play (.rate session settings serial love now reply)).scores = p.scores := by
    intro c hc hplan
    simp only [play, update, Shelf.act, hc, hplan]
    exact ⟨rfl, rfl⟩
  cases hc : p.shelf.find? serial with
  | none =>
    simp only [play, update, Shelf.act, hc]
    exact ⟨rfl, rfl⟩
  | some c =>
    cases htoken : session.token with
    | none => exact hnothing c hc (by rw [plan_rate, htoken]; rfl)
    | some token =>
      cases hmsid : c.shown.recordingMsid with
      | none => exact hnothing c hc (by rw [plan_rate, htoken, hmsid]; rfl)
      | some msid =>
        cases hreply : confirmed reply with
        | ok u => exact absurd ⟨hreply, htoken ▸ rfl, c, msid, hc, hmsid⟩ h
        | error e =>
          have hplan := plan_rate session love c
          rw [htoken, hmsid, Option.bind_some, Option.map_some] at hplan
          have hmounted : p.shelf.isMounted serial = true := Shelf.isMounted_of_find? _ hc
          simp only [play, update, Shelf.act, hc, hplan, Option.map_some, Option.toList_some,
            List.foldl_cons, List.foldl_nil, hearChange, changed, Shelf.receive?, hmounted,
            if_true, settle, hreply, Settlement.heard, Shelf.settle]
          exact ⟨trivial, trivial⟩

variable (settings now love) in
/-- A press that the server carries out reaches the page's scores and the card. -/
theorem play_rate {c : MountedCard Identity} {msid : String} (hreply : confirmed reply = .ok ())
    (htoken : session.token.isSome = true) (hc : p.shelf.find? serial = some c)
    (hmsid : c.shown.recordingMsid = some msid) :
    (p.play (.rate session settings serial love now reply)).shelf =
        p.shelf.modify serial (fun c' => { c' with score := .toggled c.score (opinion love) }) ∧
      (p.play (.rate session settings serial love now reply)).scores =
        Named.put msid (.toggled c.score (opinion love)) p.scores := by
  obtain ⟨token, htoken⟩ := Option.isSome_iff_exists.mp htoken
  have hplan := plan_rate session love c
  rw [htoken, hmsid, Option.bind_some, Option.map_some] at hplan
  have hmounted : p.shelf.isMounted serial = true := Shelf.isMounted_of_find? _ hc
  simp only [play, update, Shelf.act, hc, hplan, Option.map_some, Option.toList_some,
    List.foldl_cons, List.foldl_nil, hearChange, changed, Shelf.receive?, hmounted, if_true,
    settle, hreply, Settlement.heard, Shelf.settle]
  exact ⟨trivial, trivial⟩

/-- **A press of a button keeps the page in tune** exactly if it is harmless. -/
theorem rate_in_tune (hn : p.shelf.Numbered) (h : p.InTune) :
    (p.play (.rate session settings serial love now reply)).InTune ↔
      p.Harmless (.rate session settings serial love now reply) := by
  by_cases hcase : confirmed reply = .ok () ∧ session.token.isSome = true ∧
      ∃ c msid, p.shelf.find? serial = some c ∧ c.shown.recordingMsid = some msid
  · obtain ⟨hreply, htoken, c, msid, hc, hmsid⟩ := hcase
    obtain ⟨hshelf, hscores⟩ := play_rate settings now love hreply htoken hc hmsid
    have hmem : c ∈ p.shelf.cards := List.mem_of_find?_eq_some hc
    have hserial : c.serial = serial := by simpa using List.find?_some hc
    unfold InTune
    rw [hshelf, hscores]
    constructor
    · intro hall _ _ c' msid' hc' hmsid' d hd hdm
      obtain rfl := Option.some.inj (hc.symm.trans hc')
      obtain rfl := Option.some.inj (hmsid.symm.trans hmsid')
      by_contra hother
      -- the other card keeps the score that the recording had
      have hkept : d ∈ (p.shelf.modify serial fun c' =>
          { c' with score := .toggled c.score (opinion love) }).cards :=
        List.mem_map.mpr ⟨d, hd, if_neg hother⟩
      have hnew := hall d hkept
      rw [scoreOf_put, if_pos hdm, h d hd, scoreOf_congr (hdm.trans hmsid.symm), ← h c hmem] at hnew
      exact Score.toggled_ne (opinion_ne love) hnew.symm
    · intro hharmless d' hd'
      obtain ⟨d, hd, rfl⟩ := List.mem_map.mp hd'
      by_cases hsame : d.serial = serial
      · obtain rfl : d = c := List.inj_on_of_nodup_map hn.nodup hd hmem (hsame.trans hserial.symm)
        simp only [if_pos hsame, scoreOf_put, if_pos hmsid]
      · simp only [if_neg hsame, scoreOf_put]
        split_ifs with hdm
        · exact absurd (hharmless hreply htoken c msid hc hmsid d hd hdm) hsame
        · exact h d hd
  · obtain ⟨hshelf, hscores⟩ := play_rate_idle settings now love hcase
    unfold InTune
    rw [hshelf, hscores]
    refine iff_of_true h fun hreply htoken c msid hc hmsid => ?_
    exact absurd ⟨hreply, htoken, c, msid, hc, hmsid⟩ hcase

end Rate

/-! ## A refresh -/

section Refresh
variable {p : ListensPage} {settings : Settings} {scores : Except ServerError Scores}

/-- **A refresh keeps the page in tune** exactly if it is harmless. -/
theorem refresh_in_tune (h : p.InTune) (listens : Except ServerError (List Listen)) :
    (p.play (.refresh settings listens scores)).InTune ↔
      p.Harmless (.refresh settings listens scores) := by
  cases listens with
  | error e => exact iff_of_true h fun l hl => by cases hl
  | ok listens =>
    have hscore : ∀ w ∈ (p.scoresCame listens scores).1.wanted,
        w.score = scoreOf (p.scoresCame listens scores).1.scores w.item := by
      intro w hw
      obtain ⟨item, -, rfl⟩ := List.mem_map.mp hw
      rfl
    have hcards : ∀ d : MountedCard Identity,
        d ∈ (p.play (.refresh settings (.ok listens) scores)).shelf.cards ↔
          d ∈ (p.shelf.arrange (p.scoresCame listens scores).1.wanted).cards := fun _ => Iff.rfl
    constructor
    · rintro hall l ⟨⟩ t ht
      have hkept := hall _ ((hcards _).mpr (Shelf.mem_arrange_of_taken ht))
      rw [hscore t.2 (Shelf.takenFrom_spec t ht).2.1]
      exact hkept
    · intro hharmless d hd
      rcases Shelf.arrange_origin _ _ d ((hcards d).mp hd) with ⟨t, ht, rfl⟩ | ⟨-, w, hw, hi, hs, -⟩
      · have hsame := hharmless listens rfl t ht
        rw [hscore t.2 (Shelf.takenFrom_spec t ht).2.1] at hsame
        exact hsame
      · rw [hs, hscore w hw, hi]
        rfl

end Refresh

/-! ## Runs of rounds -/

section Runs
variable {p : ListensPage}

theorem play_in_tune (hn : p.shelf.Numbered) (h : p.InTune) (r : Round) :
    (p.play r).InTune ↔ p.Harmless r := by
  cases r with
  | rate session settings serial love now reply => exact rate_in_tune hn h
  | refresh settings listens scores => exact refresh_in_tune h listens

theorem play_numbered (hn : p.shelf.Numbered) (r : Round) : (p.play r).shelf.Numbered := by
  cases r with
  | rate session settings serial love now reply =>
    by_cases hcase : confirmed reply = .ok () ∧ session.token.isSome = true ∧
        ∃ c msid, p.shelf.find? serial = some c ∧ c.shown.recordingMsid = some msid
    · obtain ⟨hreply, htoken, c, msid, hc, hmsid⟩ := hcase
      rw [(play_rate settings now love hreply htoken hc hmsid).1]
      exact Shelf.numbered_of_serials hn (p.shelf.modify_map serial fun _ => rfl) rfl
    · rw [(play_rate_idle settings now love hcase).1]
      exact hn
  | refresh settings listens scores =>
    cases listens with
    | error e => exact hn
    | ok listens => exact Shelf.arrange_numbered hn _

theorem playAll_numbered (hn : p.shelf.Numbered) (rounds : List Round) :
    (p.playAll rounds).shelf.Numbered := by
  induction rounds generalizing p with
  | nil => exact hn
  | cons r rounds ih => exact ih (play_numbered hn r)

theorem playAll_append (p : ListensPage) (before after : List Round) :
    p.playAll (before ++ after) = (p.playAll before).playAll after := List.foldl_append

end Runs

/-- **The page is in tune as long as all rounds are harmless**, and no longer: on a page that was
just opened, after any presses of buttons that are answered one after the other and any refreshes
that are completed, every card shows the score that the page has for its recording, after each of
these rounds, if and only if each of them was harmless at its moment. A press is harmless if the
server does not carry it out, or no other card shows the recording; a refresh if the cards that stay
have the scores that are known now of the listens they show. -/
theorem in_tune_iff (user : String) (rounds : List Round) :
    let p : ListensPage := { user }
    (∀ before after, rounds = before ++ after → (p.playAll before).InTune) ↔
      ∀ before r after, rounds = before ++ r :: after → (p.playAll before).Harmless r := by
  intro p
  have hn : ∀ before, (p.playAll before).shelf.Numbered := playAll_numbered
    ⟨List.nodup_nil, fun _ h => absurd h List.not_mem_nil⟩
  have hstep : ∀ before r, (p.playAll before).InTune →
      ((p.playAll (before ++ [r])).InTune ↔ (p.playAll before).Harmless r) := by
    intro before r h
    rw [playAll_append]
    exact play_in_tune (hn before) h r
  constructor
  · intro h before r after hrounds
    have hnext : rounds = (before ++ [r]) ++ after := by simp [hrounds]
    exact (hstep before r (h before _ hrounds)).mp (h _ after hnext)
  · intro h before
    induction before using List.reverseRecOn with
    | nil => exact fun after _ c hc => absurd hc List.not_mem_nil
    | append_singleton before r ih =>
      intro after hrounds
      have hlast : rounds = before ++ r :: after := by simp [hrounds]
      exact (hstep before r (ih _ hlast)).mpr (h before r after hlast)

/-- **The page gets out of tune.** Of two listens of one recording the first is loved, and the
second stays as it was; and where the user has come to love the recording elsewhere, a refresh
leaves the card of a listen as it was. -/
theorem out_of_tune :
    let listen : Listen := { track := { ids := { recordingMsid := some "m" } } }
    let again : Listen := { listen with listenedAt := some 1 }
    let session : Session := .start "http://h" (some (.of "rob" "tok"))
    let p : ListensPage := { user := "rob" }
    ¬ (p.playAll [.refresh {} (.ok [listen, again]) (.ok []),
        .rate session {} 0 true 0 (.ok 200)]).InTune ∧
      ¬ (p.playAll [.refresh {} (.ok [listen]) (.ok []),
        .refresh {} (.ok [listen]) (.ok [("m", .loved)])]).InTune := by
  decide +kernel

end ListensPage

end ListenDeck
