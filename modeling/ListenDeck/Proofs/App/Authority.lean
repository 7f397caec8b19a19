import ListenDeck.Proofs.App.Calls
import ListenDeck.Proofs.Settings.Normal

/-!
# On whose authority the server is changed

The requests of a run that change something on the server, and the sessions they are sent under.

* `Session.Trimmed`: no blanks stand around a token, so a blank token is none.
* `Live.run_trimmed`: it is so at every moment of a run.
* `Live.changes_are_authorized`: a change is sent by something the user does, with the token the
  user has then.
-/

namespace ListenDeck

/-! ## Tokens -/

namespace Session

/-- No blanks stand around the token. -/
def Trimmed (s : Session) : Prop := ∀ u, s.user = some u → Text.trim u.authToken = u.authToken

/-- Nobody is signed in, or the user's token is blank. -/
def Powerless (s : Session) : Prop := ∀ u, s.user = some u → Text.trim u.authToken = ""

variable {s : Session}

theorem start_trimmed (address : String) {user : Option User}
    (h : ∀ u, user = some u → Text.trim u.authToken = u.authToken) :
    (start address user).Trimmed := by
  intro u hu
  exact h u (Option.filter_eq_some_iff.mp hu).1

theorem signOut_trimmed (s : Session) : s.signOut.Trimmed := by
  rintro u ⟨⟩

theorem token_of_powerless (ht : s.Trimmed) (h : s.Powerless) : s.token = none := by
  cases hs : s.token with
  | none => rfl
  | some token =>
    have hne := token_ne_empty hs
    unfold Session.token at hs
    obtain ⟨u, hu, rfl⟩ := Option.map_eq_some_iff.mp hs
    obtain ⟨hu, -⟩ := Option.filter_eq_some_iff.mp hu
    rw [← ht u hu] at hne
    exact absurd (h u hu) hne

end Session

theorem Settings.normal_trimmed (s : Settings) :
    ∀ u, s.normal.user = some u → Text.trim u.authToken = u.authToken := by
  intro u hu
  obtain ⟨hu, -⟩ := Option.filter_eq_some_iff.mp hu
  obtain ⟨typed, -, rfl⟩ := Option.map_eq_some_iff.mp hu
  exact Text.trim_trim typed.authToken

theorem Store.load_trimmed {store : Store} {s : Settings} (h : store.load = .ok s) :
    ∀ u, s.user = some u → Text.trim u.authToken = u.authToken := by
  unfold Store.load at h
  split at h
  · cases h
  · obtain rfl := Except.ok.inj h
    rintro u ⟨⟩
  · split at h
    · obtain rfl := Except.ok.inj h
      exact Settings.normal_trimmed _
    · cases h

/-! ## Sessions of the application -/

namespace App

variable (a : App)

theorem visit_session (view : View) : (a.visit view).1.session = a.session :=
  applyAll_session _ _ _

theorem start_trimmed (home : String) (store : Store) : (start home store).1.session.Trimmed := by
  unfold start
  change (visit _ .listens).1.session.Trimmed
  rw [visit_session]
  refine Session.start_trimmed _ ?_
  split
  · next s hs => exact Store.load_trimmed hs
  · rintro u ⟨⟩

theorem update_trimmed (h : a.session.Trimmed) (m : Message) : (a.update m).1.session.Trimmed := by
  change (a.perform m).1.session.Trimmed
  cases m with
  | look view =>
    simp only [perform]
    split
    · exact h
    · rw [visit_session]
      exact h
  | dismiss alert => exact h
  | listens m =>
    simp only [perform]
    split
    · rw [turnPage, applyAll_session]
      exact h
    · exact h
  | pins m =>
    simp only [perform]
    split
    · rw [turnPage, applyAll_session]
      exact h
    · exact h
  | playlist m =>
    simp only [perform]
    split
    · rw [turnPage, applyAll_session]
      exact h
    · exact h
  | settings m =>
    simp only [perform]
    split
    · exact h
    · exact Session.start_trimmed _ (Settings.normal_trimmed _)
    · exact Session.signOut_trimmed _
    · exact h
  | dialog m =>
    rw [perform, turnDialog, applyAll_session]
    exact h

theorem receive_session (c : Pending) (reply : Except ServerError c.errand.call.Result) :
    (a.receive c reply).1.session = a.session := by
  change (a.answer c reply).1.session = a.session
  have hpage : ∀ (errand : Errand) (reply : Except ServerError errand.call.Result),
      (a.answerPage errand reply).1.session = a.session := by
    intro errand reply
    cases errand <;> simp only [answerPage] <;> split <;>
      first | rfl | rw [turnPage, applyAll_session]
  unfold answer
  split
  · split
    · exact hpage _ _
    · rfl
  · rw [turnDialog, applyAll_session]
  · rfl

end App

namespace Live

theorem dispatch_session (fuel : Nat) (l : Live) (calls : List Pending) :
    (dispatch fuel l calls).app.session = l.app.session := by
  induction fuel generalizing l calls with
  | zero => rfl
  | succ fuel ih =>
    cases calls with
    | nil => rfl
    | cons c rest =>
      simp only [dispatch]
      split
      · exact ih _ rest
      · rw [ih]
        exact App.receive_session l.app c _

theorem start_trimmed (home : String) (store : Store) :
    (start home store).app.session.Trimmed := by
  rw [start, afterTurn, dispatch_session]
  exact App.start_trimmed home store

theorem step_trimmed {l : Live} (h : l.app.session.Trimmed) (e : Event) :
    (l.step e).app.session.Trimmed := by
  cases e with
  | act m =>
    rw [step, afterTurn, dispatch_session]
    exact l.app.update_trimmed h m
  | reply number reply =>
    simp only [step, settle]
    split
    · exact h
    · rw [afterTurn, dispatch_session]
      dsimp only
      rw [App.receive_session]
      exact h
  | pass ms => exact h

theorem run_trimmed {l : Live} (h : l.app.session.Trimmed) (es : List Event) :
    (l.run es).app.session.Trimmed := by
  induction es generalizing l with
  | nil => exact h
  | cons e es ih => exact ih (step_trimmed h e)

/-! ## Requests -/

variable {l : Live}

/-- **A reply or the passing of time** sends only requests that read. -/
theorem sent_reads (hl : l.Numbered) {e : Event} (he : ∀ m, e ≠ .act m) :
    ∀ s ∈ l.sent e, s.request.Reads := by
  intro s hs
  obtain ⟨-, -, -, hspec⟩ := sent_spec App.calls_of_receive hl e fun m hm => absurd hm (he m)
  obtain ⟨hc, hb⟩ := hspec s hs
  exact hc.request hb

/-- **Something the user does** sends requests that read, and requests that change something with
the token and to the server of the session. -/
theorem sent_backed (hl : l.Numbered) (m : App.Message) : ∀ s ∈ l.sent (.act m),
    s.request.Reads ∨
      ∃ token, s.request.method = .post ∧ s.request.token = some token ∧
        l.app.session.token = some token ∧ s.call.base = l.app.session.base := by
  intro s hs
  have hfollow : FollowUp (Pending.Backed l.app.session) :=
    fun a c result d hd => App.backed_of_reads (App.calls_of_receive a c result d hd)
  obtain ⟨-, -, -, hspec⟩ := sent_spec hfollow hl (.act m) fun m' hm => by
    cases hm
    exact l.app.calls_of_update m
  obtain ⟨hc, hb⟩ := hspec s hs
  cases hm : s.call.errand.mutation? with
  | none => exact .inl (Pending.Reads.request hm hb)
  | some mutation =>
    obtain ⟨htoken, hbase⟩ := hc mutation hm
    obtain ⟨hmethod, hcarried⟩ := Call.request?_eq hb
    rw [Errand.call_of_mutation hm] at hmethod hcarried
    exact .inr ⟨mutation.token, hmethod, hcarried, htoken, hbase⟩

/-- **Changes are made on the authority of the user.** The log of a run has every request the run
sends after those of the start, under its number. Each of them, and each of the start, either reads
and carries no token, or changes something; then it is sent by something the user does, carries the
token of the session of that moment, which is not empty, and goes to that session's server. While
nobody is signed in, or the user's token is blank, nothing the user does sends such a request. The
start and every event make all the calls they lead to, so no request is missing because a bound on
them was reached. -/
theorem changes_are_authorized (home : String) (store : Store) (es : List Event) :
    let l := start home store
    l.requests = l.waiting.length ∧
    (∀ s ∈ l.waiting, s.request.Reads) ∧
    (l.run es).requests = l.requests + (l.log es).length ∧
    (l.log es).map (·.number) = List.range' l.requests (l.log es).length ∧
    (∀ s ∈ l.log es, s.request.Reads ∨
      ∃ before m after token, es = before ++ .act m :: after ∧
        s ∈ (l.run before).sent (.act m) ∧ s.request.method = .post ∧
        s.request.token = some token ∧ token ≠ "" ∧
        (l.run before).app.session.token = some token ∧
        s.call.base = (l.run before).app.session.base) ∧
    ((l.run es).app.session.Powerless →
      ∀ m, ∀ s ∈ (l.run es).sent (.act m), s.request.Reads) ∧
    Made { app := (App.start home store).1 } (App.start home store).2 l ∧
    ∀ before e after, es = before ++ e :: after → (l.run before).MakesAll e := by
  intro l
  obtain ⟨hl, hcount, hstart⟩ :=
    start_sends App.calls_of_receive home store (App.start_reads home store)
  obtain ⟨hrun, hnumbers⟩ := log_numbers hl es
  refine ⟨hcount, fun s hs => (hstart s hs).1.request (hstart s hs).2, hrun, hnumbers,
    fun s hs => ?_, fun hpowerless m s hs => ?_, start_made home store,
    fun before e _ _ => (l.run before).step_makesAll e⟩
  · obtain ⟨before, e, after, rfl, hsent⟩ := mem_log.mp hs
    have hbefore := run_numbered hl before
    cases e with
    | act m =>
      rcases sent_backed hbefore m s hsent with hreads | ⟨token, hpost, hcarried, htoken, hbase⟩
      · exact .inl hreads
      · exact .inr ⟨before, m, after, token, rfl, hsent, hpost, hcarried,
          Session.token_ne_empty htoken, htoken, hbase⟩
    | reply number reply => exact .inl (sent_reads hbefore (by rintro m ⟨⟩) s hsent)
    | pass ms => exact .inl (sent_reads hbefore (by rintro m ⟨⟩) s hsent)
  · have htrimmed := run_trimmed (start_trimmed home store) es
    rcases sent_backed (run_numbered hl es) m s hs with hreads | ⟨token, -, -, htoken, -⟩
    · exact hreads
    · rw [Session.token_of_powerless htrimmed hpowerless] at htoken
      cases htoken

/-- Somebody signs in, opens a playlist and removes its track: the playlist is asked for without a
token, and the removal with the token that was typed in, without its blanks. Once they have signed
out, nothing they do sends a change. -/
theorem changes_are_authorized_of_removal :
    let signIn : List Event := [.act (.look .settings), .act (.settings (.type .apiUrl "http://h")),
      .act (.settings (.type .userName "rob")), .act (.settings (.type .token " tok ")),
      .act (.settings .save)]
    let body := "\x7b\"playlist\":\x7b\"creator\":\"rob\"," ++
      "\"track\":[\x7b\"identifier\":\"a\"\x7d]\x7d\x7d"
    let removal : List Event := [.act (.look .playlist), .act (.playlist (.type "p")),
      .act (.playlist .submit), .reply 0 (.answered 200 (Text.utf8Bytes body.toList)),
      .act (.playlist (.card 0 .delete))]
    let signOut : List Event := [.act (.look .settings), .act (.settings .signOut)]
    let es := signIn ++ removal ++ signOut
    ((start "" .fresh).log es).map (fun s => (s.request.method, s.request.token)) =
        [(.get, none), (.post, some "tok")] ∧
      ∀ m, ∀ s ∈ ((start "" .fresh).run es).sent (.act m), s.request.Reads := by
  intro signIn body removal signOut es
  have hnobody : ((start "" .fresh).run es).app.session.user = none := by decide +kernel
  have hpowerless : ((start "" .fresh).run es).app.session.Powerless := by
    intro u hu
    rw [hnobody] at hu
    cases hu
  refine ⟨?_, ?_⟩
  · decide +kernel
  · exact (changes_are_authorized "" .fresh es).2.2.2.2.2.1 hpowerless

end Live

end ListenDeck
