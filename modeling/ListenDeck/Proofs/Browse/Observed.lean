import ListenDeck.Proofs.Browse.Limits
import Mathlib.Data.List.Induction

/-!
# What an observer knows

A pager tells its observer every state it comes to, so the state that was told last is the one the
pager is in, after every event but the one that ends the observation.

* `told`: the states that were told, in order; `lastTold` is the one that was told last.
* `Pager.Reports`: a turn tells the state it comes to.
* `Browser.step_told`: so does every event.
* `Browser.run_unobserved`: once the observation has ended nothing is told any more.
* `Browser.view_keeps_up`: what the observer of a new browser knows, for every run.
-/

namespace ListenDeck

/-- **The state that was told last**, when `told` was told before the effects. -/
def lastTold (told : PageState) (effects : List PagerEffect) : PageState :=
  effects.foldl (fun told e => match e with
    | .observe s => s
    | _ => told) told

theorem lastTold_append (told : PageState) (es fs : List PagerEffect) :
    lastTold told (es ++ fs) = lastTold (lastTold told es) fs := List.foldl_append

/-- The state that an effect tells. -/
def PagerEffect.told? : PagerEffect → Option PageState
  | .observe s => some s
  | _ => none

/-- **The states that were told**, in order. -/
def told (effects : List PagerEffect) : List PageState := effects.filterMap PagerEffect.told?

theorem told_append (es fs : List PagerEffect) : told (es ++ fs) = told es ++ told fs :=
  List.filterMap_append

theorem observe_mem_of_mem_told {effects : List PagerEffect} {s : PageState}
    (h : s ∈ told effects) : .observe s ∈ effects := by
  obtain ⟨e, he, hs⟩ := List.mem_filterMap.mp h
  cases e with
  | observe s' =>
    obtain rfl : s' = s := Option.some.inj hs
    exact he
  | _ => cases hs

theorem lastTold_eq (first : PageState) (effects : List PagerEffect) :
    lastTold first effects = (told effects).getLast?.getD first := by
  induction effects using List.reverseRecOn with
  | nil => rfl
  | append_singleton es e ih =>
    rw [lastTold_append, told_append]
    cases e with
    | observe s =>
      show s = (told es ++ [s]).getLast?.getD first
      rw [List.getLast?_concat]
      rfl
    | _ => exact ih.trans (congrArg (·.getLast?.getD first) (List.append_nil (told es)).symm)

namespace Pager

/-- **The turn tells the state it comes to**, if that is another one, to an observer who stays. -/
structure Reports (p : Pager) (t : Turn) : Prop where
  observed : t.pager.observed = true
  told : lastTold p.state t.effects = t.pager.state

section Reports
variable {p : Pager} (h : p.observed = true)
include h

theorem lastTold_observation (told : PageState) : lastTold told p.observation = p.state := by
  rw [observation, if_pos h]
  rfl

theorem reports_quiet (progress : Progress) : p.Reports { pager := p, progress } := ⟨h, rfl⟩

theorem fetch_reports (aim : Aim) (offset : Nat) : p.Reports (p.fetch aim offset) := by
  have told := lastTold_observation (p := (p.fetch aim offset).pager) h p.state
  exact ⟨h, (lastTold_append _ _ _).trans told⟩

theorem open_reports : p.Reports p.open := by
  unfold «open»
  split
  · exact fetch_reports h _ _
  · exact reports_quiet h _

theorem goTo_reports (target : Int) (record : Bool) : p.Reports (p.goTo target record) := by
  unfold goTo
  dsimp only
  split_ifs
  · exact reports_quiet h _
  · exact fetch_reports h _ _
  · exact reports_quiet h _

theorem older_reports : p.Reports p.older := by
  unfold older
  split_ifs
  · exact goTo_reports h _ _
  · exact reports_quiet h _

theorem newer_reports : p.Reports p.newer := by
  unfold newer
  split_ifs
  · exact goTo_reports h _ _
  · exact reports_quiet h _

theorem follow_reports (parameter : Option String) : p.Reports (p.follow parameter) := by
  unfold follow
  split <;> split_ifs
  · exact reports_quiet h _
  · exact goTo_reports h _ _
  · exact reports_quiet h _
  · exact goTo_reports h _ _

theorem fail_reports (e : ServerError) : p.Reports (p.fail e) :=
  ⟨h, lastTold_observation (p := p.withState _) h _⟩

theorem display_reports (target : Nat) (record : Bool) (page : ItemPage) :
    p.Reports (p.display target record page) := by
  unfold display
  split
  · exact ⟨h, lastTold_observation (p := p.withState _) h _⟩
  · refine ⟨h, ?_⟩
    rw [lastTold_append, lastTold_observation (p := p.withState _) h]
    cases record <;> rfl

theorem displayFirst_reports (parameter : Option String) (page : ItemPage) :
    p.Reports (p.displayFirst parameter page) := by
  have first : lastTold p.state (p.seed page.total page.items).2 =
      (p.seeded page.total page.items).state := lastTold_observation (p := p.seeded _ _) h _
  obtain ⟨observed, told⟩ := follow_reports (p := p.seeded page.total page.items) h parameter
  have whole : p.Reports (((p.seeded page.total page.items).follow parameter).after
      (p.seed page.total page.items).2) := by
    refine ⟨observed, ?_⟩
    rw [Turn.after, lastTold_append, first]
    exact told
  unfold displayFirst
  dsimp only [seed]
  split_ifs
  · exact ⟨whole.observed, whole.told⟩
  · exact whole

theorem receive_reports (parameter : Option String) (ticket : Ticket)
    (reply : Except ServerError ItemPage) : p.Reports (p.receive parameter ticket reply) := by
  unfold receive
  split_ifs
  · split
    · exact fail_reports h _
    · exact displayFirst_reports h _ _
    · exact display_reports h _ _ _
  · exact reports_quiet h _

end Reports

end Pager

namespace Browser

theorem afterTurn_told {b : Browser} (r : Nat) {t : Turn} (h : b.pager.Reports t) :
    (b.afterTurn r t).1.pager.observed = true ∧
      lastTold b.pager.state (b.afterTurn r t).2.1 = (b.afterTurn r t).1.pager.state := by
  rw [afterTurn_pager, afterTurn_effects]
  exact ⟨h.observed, h.told⟩

theorem request_told {b : Browser} {t : Turn} (h : b.pager.Reports t) :
    (b.request t).1.pager.observed = true ∧
      lastTold b.pager.state (b.request t).2.1 = (b.request t).1.pager.state :=
  afterTurn_told (b := { b with requests := b.requests + 1 }) b.requests h

/-- **Every event tells the state it comes to**, unless it ends the observation. -/
theorem step_told {b : Browser} (h : b.pager.observed = true) {e : Event} (stays : e ≠ .close) :
    (b.step e).1.pager.observed = true ∧
      lastTold b.pager.state (b.step e).2.1 = (b.step e).1.pager.state := by
  cases e with
  | seed total items =>
    exact ⟨h, Pager.lastTold_observation (p := b.pager.seeded total items) h _⟩
  | «open» => exact request_told (Pager.open_reports h)
  | goTo target record => exact request_told (Pager.goTo_reports h target record)
  | older => exact request_told (Pager.older_reports h)
  | newer => exact request_told (Pager.newer_reports h)
  | follow => exact request_told (Pager.follow_reports h b.pageText)
  | remove identity =>
    simp only [step, Pager.remove]
    split_ifs
    · exact ⟨h, Pager.lastTold_observation (p := b.pager.withState _) h _⟩
    · exact ⟨h, rfl⟩
  | close => exact absurd rfl stays
  | move m => exact ⟨h, rfl⟩
  | type parameter => exact ⟨h, rfl⟩
  | reply r reply =>
    simp only [step]
    split
    · exact ⟨h, rfl⟩
    · exact afterTurn_told (b := { b with waiting := b.waiting.filter (·.1 ≠ r) }) r
        (Pager.receive_reports h b.pageText _ reply)

/-! ## Whole runs -/

/-- All effects of a run, in order. -/
def allEffects (log : List Entry) : List PagerEffect := log.flatMap (·.1)

/-- **Every run tells the state it comes to**, as long as the observation does not end. -/
theorem run_told {b : Browser} (h : b.pager.observed = true) {es : List Event}
    (stays : .close ∉ es) :
    (b.run es).1.pager.observed = true ∧
      lastTold b.pager.state (allEffects (b.run es).2) = (b.run es).1.pager.state := by
  induction es generalizing b with
  | nil => exact ⟨h, rfl⟩
  | cons e es ih =>
    rw [List.mem_cons, not_or] at stays
    obtain ⟨hobserved, hstep⟩ := step_told h (Ne.symm stays.1)
    obtain ⟨hrun, htold⟩ := ih hobserved stays.2
    refine ⟨hrun, ?_⟩
    show lastTold b.pager.state ((b.step e).2.1 ++ allEffects ((b.step e).1.run es).2) = _
    rw [lastTold_append, hstep]
    exact htold

/-! ## After the observation -/

/-- The observation of a closed pager has ended. -/
structure Unobserved (p : Pager) : Prop where
  unobserved : p.observed = false
  closed : p.mounted = false

theorem Unobserved.observation {p : Pager} (h : Unobserved p) : p.observation = [] := by
  have hne : ¬ p.observed = true := by simp [h.unobserved]
  unfold Pager.observation
  rw [if_neg hne]

theorem asked_unobserved {p : Pager} (h : Unobserved p) {record : Bool} {t : Turn}
    (ht : p.Asked record t) : t.pager = p ∧ t.effects = [] := by
  cases ht with
  | ended o _ => exact ⟨rfl, rfl⟩
  | fetched n hm _ =>
    rw [h.closed] at hm
    cases hm

theorem afterTurn_unobserved {b : Browser} (h : Unobserved b.pager) (r : Nat) {t : Turn}
    (ht : t.pager = b.pager ∧ t.effects = []) :
    Unobserved (b.afterTurn r t).1.pager ∧ told (b.afterTurn r t).2.1 = [] := by
  obtain ⟨hpager, heffects⟩ := ht
  rw [afterTurn_pager, hpager, afterTurn_effects, heffects]
  exact ⟨h, rfl⟩

/-- **Nothing is told any more** once the observation of a closed pager has ended. -/
theorem step_unobserved {b : Browser} (h : Unobserved b.pager) (e : Event) :
    Unobserved (b.step e).1.pager ∧ told (b.step e).2.1 = [] := by
  have request : ∀ t : Turn, t.pager = b.pager ∧ t.effects = [] →
      Unobserved (b.request t).1.pager ∧ told (b.request t).2.1 = [] :=
    fun t ht => afterTurn_unobserved (b := { b with requests := b.requests + 1 }) h b.requests ht
  cases e with
  | seed total items =>
    have hseeded : Unobserved (b.pager.seeded total items) := ⟨h.unobserved, h.closed⟩
    refine ⟨hseeded, ?_⟩
    show told (b.pager.seeded total items).observation = []
    rw [hseeded.observation]
    rfl
  | «open» =>
    refine request _ ?_
    have hne : ¬ b.pager.mounted = true := by simp [h.closed]
    unfold Pager.open
    rw [if_neg hne]
    exact ⟨rfl, rfl⟩
  | goTo target record => exact request _ (asked_unobserved h (Pager.goTo_asked _ _ _))
  | older => exact request _ (asked_unobserved h (Pager.older_asked _))
  | newer => exact request _ (asked_unobserved h (Pager.newer_asked _))
  | follow => exact request _ (asked_unobserved h (Pager.follow_asked _ _))
  | remove identity =>
    simp only [step, Pager.remove]
    split_ifs
    · have hleft : Unobserved (b.pager.withState (b.pager.state.without identity)) :=
        ⟨h.unobserved, h.closed⟩
      rw [hleft.observation]
      exact ⟨hleft, rfl⟩
    · exact ⟨h, rfl⟩
  | close => exact ⟨⟨rfl, rfl⟩, rfl⟩
  | move m => exact ⟨h, rfl⟩
  | type parameter => exact ⟨h, rfl⟩
  | reply r reply =>
    cases hw : b.waiting.lookup r with
    | none =>
      rw [step_reply_of_none hw]
      exact ⟨h, rfl⟩
    | some ticket =>
      have hlate : b.pager.isCurrent ticket = false := by
        unfold Pager.isCurrent
        rw [h.closed, Bool.false_and]
      rw [step_reply_of_some hw, Pager.receive_late _ _ hlate]
      exact afterTurn_unobserved (b := { b with waiting := b.waiting.filter (·.1 ≠ r) }) h r
        ⟨rfl, rfl⟩

theorem run_unobserved {b : Browser} (h : Unobserved b.pager) (es : List Event) :
    told (allEffects (b.run es).2) = [] := by
  induction es generalizing b with
  | nil => rfl
  | cons e es ih =>
    obtain ⟨hleft, hstep⟩ := step_unobserved h e
    show told ((b.step e).2.1 ++ allEffects ((b.step e).1.run es).2) = []
    rw [told_append, hstep, ih hleft]
    rfl

/-! ## What the observer knows -/

/-- **The view keeps up.** Somebody observes a new browser from the beginning. As long as it is not
closed, the state that he was told last, or the first state if he was told none, is the one that the
pager is in after every run; in every state that he is told the page is one of the pages there are;
and once it is closed he is told nothing any more, whatever comes. -/
theorem view_keeps_up (config : PagerConfig) (bar : AddressBar) {events : List Event}
    (h : .close ∉ events) (later : List Event) :
    let start := fresh config true bar
    let run := start.run events
    (told (allEffects run.2)).getLast?.getD {} = run.1.pager.state ∧
    (∀ s ∈ told (allEffects run.2), 1 ≤ s.page ∧ s.page ≤ s.maxPage) ∧
    told (allEffects (start.run (events ++ .close :: later)).2) = told (allEffects run.2) := by
  intro start run
  obtain ⟨-, hlast⟩ := run_told (b := start) rfl h
  refine ⟨?_, fun s hs => ?_, ?_⟩
  · rw [lastTold_eq] at hlast
    exact hlast
  · obtain ⟨entry, hentry, hmem⟩ := List.mem_flatMap.mp (observe_mem_of_mem_told hs)
    have hfits := (run_fits (fresh_fits config true bar) events).2 entry hentry s hmem
    exact hfits.within
  · have hclosed : Unobserved (run.1.step .close).1.pager := ⟨rfl, rfl⟩
    have hafter : told (allEffects (run.1.run (.close :: later)).2) = [] :=
      run_unobserved hclosed later
    rw [run_append]
    show told (allEffects (run.2 ++ (run.1.run (.close :: later)).2)) = _
    have hsplit : allEffects (run.2 ++ (run.1.run (.close :: later)).2) =
        allEffects run.2 ++ allEffects (run.1.run (.close :: later)).2 := List.flatMap_append
    rw [hsplit, told_append, hafter, List.append_nil]

/-- A list of six pins is opened while the address bar names its second page, the second fetch
fails, and the pager is closed while it fetches the third page, which comes too late. -/
theorem view_keeps_up_of_failure :
    let pins : List Item := [.pin { rowId := 1 }, .pin { rowId := 2 }]
    let events : List Event := [.open, .reply 0 (.ok { items := pins, total := 6 }),
      .reply 0 (.error (.network "")), .goTo 3 true]
    let later : List Event := [.reply 1 (.ok { items := pins, total := 6 }), .seed 2 pins]
    let log (es : List Event) : List PagerEffect :=
      allEffects ((fresh ⟨"rob", "pinned recordings", 2⟩ true (.start (some 2))).run es).2
    let state (es : List Event) : PageState :=
      ((fresh ⟨"rob", "pinned recordings", 2⟩ true (.start (some 2))).run es).1.pager.state
    .close ∉ events ∧
      (told (log events)).map (·.status) = [.loading, .idle, .loading, .failed, .loading] ∧
      (told (log events)).getLast?.getD {} = state events ∧
      told (log (events ++ .close :: later)) = told (log events) := by
  intro pins events later log state
  have hstays : .close ∉ events := by simp [events]
  have h := view_keeps_up ⟨"rob", "pinned recordings", 2⟩ (.start (some 2)) hstays later
  refine ⟨hstays, ?_, ?_, ?_⟩
  · decide +kernel
  · exact h.1
  · exact h.2.2

end Browser

end ListenDeck
