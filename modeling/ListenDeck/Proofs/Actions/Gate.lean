import ListenDeck.Actions.Desk
import Mathlib.Tactic.Common

/-!
# The gate before every action

An action on an item sends one call if the user may act, and nothing otherwise; the reply settles it
in one of two ways.

* `Session.permits`: the permission an action needs, the one its button goes by.
* `Session.Carries`: the call of an action on an item, and what it leads to when it is carried out.
* `Session.plan_eq_none`, `Session.plan_of_permits`: a call is planned exactly with permission.
* `settle_done`, `settle_refused`: a reply brings the effect, or a notice of danger.
* `Desk.act_gated`: the same for every action at a desk.
-/

namespace ListenDeck

namespace Session

/-- What the user of a session has to be allowed for an action on an item. -/
def permits (s : Session) (item : Item) : Action → Bool
  | .giveFeedback .. => s.canGiveFeedback item
  | .deleteListen => s.canDeleteListen item
  | .deletePin owner => s.canDeletePin item owner
  | .removeTrack _ owner _ => item.isTrack && s.canEditPlaylist owner
  | .recommend => s.canRecommend item

/-- **The call of an action on an item, and what it leads to** when the server carries it out. The
call names the item by the item's own ids. -/
inductive Carries (s : Session) (item : Item) : Action → Mutation → Settlement → Prop where
  | feedback {token msid : String} {current requested score : Score}
      (hm : item.recordingMsid = some msid)
      (hs : score = if current = requested then .neutral else requested) :
      Carries s item (.giveFeedback current requested) (.submitFeedback token msid score)
        (.scored msid score)
  | listen {token msid : String} {l : Listen} {time : Int64} (hi : item = .listen l)
      (hm : item.recordingMsid = some msid) (hl : l.listenedAt = some time) :
      Carries s item .deleteListen (.deleteListen token msid time) (.armed item.identity)
  | pin {token owner : String} {p : Pin} (hi : item = .pin p) :
      Carries s item (.deletePin owner) (.deletePin token p.rowId) (.armed item.identity)
  | track {token mbid owner : String} {index : Nat} {t : PlaylistTrack} (hi : item = .track t) :
      Carries s item (.removeTrack mbid owner index) (.removeTrack token mbid index)
        (.armed item.identity)
  | recommendation {token user msid : String} (hu : s.userName = some user)
      (hm : item.recordingMsid = some msid) :
      Carries s item .recommend
        (.recommend user token ⟨item.artistName, item.trackName, item.releaseName,
          item.recordingMbid, msid, item.artistMsid⟩)
        (.announced ⟨.success, "You recommended a track to your followers!",
          item.artistName ++ " - " ++ item.trackName⟩)

variable {s : Session} {item : Item} {action : Action}

/-! ## Tokens and users -/

theorem token_ne_empty {token : String} (h : s.token = some token) : token ≠ "" := by
  unfold Session.token at h
  obtain ⟨u, hu, rfl⟩ := Option.map_eq_some_iff.mp h
  have := (Option.filter_eq_some_iff.mp hu).2
  unfold User.hasToken at this
  simpa using this

theorem userName_isSome {token : String} (h : s.token = some token) :
    ∃ user, s.userName = some user := by
  unfold Session.token at h
  obtain ⟨u, hu, -⟩ := Option.map_eq_some_iff.mp h
  obtain ⟨hs, -⟩ := Option.filter_eq_some_iff.mp hu
  exact ⟨u.name, by rw [userName, hs]; rfl⟩

/-! ## Plans -/

theorem plan_eq_none (h : s.permits item action = false) : s.plan item action = none := by
  cases action with
  | giveFeedback current requested =>
    simp only [permits, canGiveFeedback, Bool.and_eq_false_iff, Option.isSome_eq_false_iff,
      Option.isNone_iff_eq_none] at h
    rcases h with h | h
    · simp [plan, h]
    · cases ht : s.token <;> simp [plan, h, ht]
  | deleteListen => exact if_neg (by simpa [permits] using h)
  | deletePin owner => exact if_neg (by simpa [permits] using h)
  | removeTrack mbid owner index => exact if_neg (by simpa [permits] using h)
  | recommend =>
    simp only [permits, canRecommend, Bool.and_eq_false_iff, Option.isSome_eq_false_iff,
      Option.isNone_iff_eq_none] at h
    cases hu : s.userName with
    | none => simp [plan, hu]
    | some user =>
      rcases h with h | h
      · simp [plan, hu, h]
      · cases ht : s.token <;> simp [plan, hu, h, ht]

/-- **With permission one call is planned**, with the token of the session. -/
theorem plan_of_permits (h : s.permits item action = true) :
    ∃ m success, s.plan item action = some m ∧ s.token = some m.token ∧
      s.Carries item action m success := by
  cases action with
  | giveFeedback current requested =>
    simp only [permits, canGiveFeedback, Bool.and_eq_true, Option.isSome_iff_exists] at h
    obtain ⟨⟨token, ht⟩, msid, hm⟩ := h
    exact ⟨.submitFeedback token msid (Score.toggled current requested), _, by simp [plan, ht, hm],
      ht, .feedback hm rfl⟩
  | deleteListen =>
    have hp : s.canDeleteListen item = true := h
    unfold permits canDeleteListen at h
    simp only [Bool.and_eq_true, Option.isSome_iff_exists] at h
    obtain ⟨⟨⟨⟨hi, token, ht⟩, -⟩, time, hl⟩, msid, hm⟩ := h
    cases item with
    | listen l =>
      exact ⟨.deleteListen token msid time, _, by simp [plan, hp, ht, hm, hl], ht,
        .listen rfl hm hl⟩
    | pin p => cases hi
    | track t => cases hi
  | deletePin owner =>
    have hp : s.canDeletePin item owner = true := h
    unfold permits canDeletePin at h
    simp only [Bool.and_eq_true, Option.isSome_iff_exists] at h
    obtain ⟨⟨hi, token, ht⟩, -⟩ := h
    cases item with
    | pin p => exact ⟨.deletePin token p.rowId, _, by simp [plan, hp, ht], ht, .pin rfl⟩
    | listen l => cases hi
    | track t => cases hi
  | removeTrack mbid owner index =>
    have hp : (item.isTrack && s.canEditPlaylist owner) = true := h
    unfold permits canEditPlaylist at h
    simp only [Bool.and_eq_true, Option.isSome_iff_exists] at h
    obtain ⟨hi, ⟨token, ht⟩, -⟩ := h
    cases item with
    | track t =>
      exact ⟨.removeTrack token mbid index, _, by simp [plan, hp, ht], ht, .track rfl⟩
    | listen l => cases hi
    | pin p => cases hi
  | recommend =>
    simp only [permits, canRecommend, Bool.and_eq_true, Option.isSome_iff_exists] at h
    obtain ⟨⟨token, ht⟩, what, hw⟩ := h
    obtain ⟨user, hu⟩ := userName_isSome ht
    have hplan : s.plan item .recommend = some (.recommend user token what) := by
      simp [plan, hu, ht, hw]
    unfold Recommendation.ofItem? at hw
    cases hm : item.recordingMsid with
    | none => simp [hm] at hw
    | some msid =>
      rw [hm] at hw
      simp only at hw
      split_ifs at hw
      cases hw
      exact ⟨_, _, hplan, ht, .recommendation hu hm⟩

end Session

/-! ## Replies -/

section Reply
variable {s : Session} {item : Item} {action : Action} {m : Mutation} {success : Settlement}

theorem settle_done (h : s.Carries item action m success) : settle item m (.ok 200) = success := by
  cases h with
  | feedback hm hs => rfl
  | listen hi hm hl => rfl
  | pin hi => rfl
  | track hi => rfl
  | recommendation hu hm => rfl

theorem settle_refused (item : Item) (m : Mutation) {reply : Except ServerError Nat}
    (h : reply ≠ .ok 200) :
    ∃ e, confirmed reply = .error e ∧ settle item m reply = .failed (m.failureNotice e) := by
  have hc : ∃ e, confirmed reply = .error e := by
    cases reply with
    | error e => exact ⟨e, rfl⟩
    | ok status =>
      have hs : status ≠ statusOk := fun he => h (congrArg Except.ok he)
      exact ⟨.unexpectedStatus status, if_neg hs⟩
  obtain ⟨e, he⟩ := hc
  refine ⟨e, he, ?_⟩
  unfold settle
  rw [he]

theorem kind_of_carries (h : s.Carries item action m success) :
    ∀ n ∈ success.notices, n.kind = .success := by
  cases h with
  | recommendation hu hm =>
    intro n hn
    rw [List.mem_singleton.mp hn]
  | _ => exact fun n hn => absurd hn List.not_mem_nil

end Reply

namespace Desk

/-- The removals after a settlement; a removal that is armed gets the name. -/
def armedBy (name : String) (r : Removals) : Settlement → Removals
  | .armed identity => r.arm name identity
  | _ => r

theorem takeReply_removals (d : Desk) : d.takeReply.2.removals = d.removals := by
  unfold takeReply
  cases d.replies <;> rfl

theorem takeReply_session (d : Desk) : d.takeReply.2.session = d.session := by
  unfold takeReply
  cases d.replies <;> rfl

theorem takeReply_listened (d : Desk) : d.takeReply.2.listened = d.listened := by
  unfold takeReply
  cases d.replies <;> rfl

theorem afterSettlement_eq (d : Desk) (name : String) (settlement : Settlement) :
    d.afterSettlement name settlement =
      { d with removals := armedBy name d.removals settlement } := by
  cases settlement <;> rfl

/-- An action that is planned sends its call, and the next reply settles it. -/
theorem perform_act_of_plan {d : Desk} {item : Item} {action : Action} {m : Mutation}
    (h : d.session.plan item action = some m) (name : String) :
    d.perform (.act item action name) =
      ({ d.takeReply.2 with
          removals := armedBy name d.removals (settle item m d.takeReply.1) },
        { call := some m
          settlement := some (settle item m d.takeReply.1)
          heard := if d.listened then (settle item m d.takeReply.1).heard else [] }) := by
  simp only [perform, h, afterSettlement_eq, takeReply_removals, takeReply_listened]

/-- **The gate.** Without permission an action at a desk sends nothing, tells nothing and changes
nothing. With permission it sends one call, which carries the token of the session, never an empty
one, and the ids of the item. The next reply settles it in one of two ways. Status 200 brings the
effect of the action: the score that a listener hears once, a removal armed for the item's identity,
or one notice of success. Anything else brings one notice of danger and no effect. -/
theorem act_gated (d : Desk) (item : Item) (action : Action) (name : String) :
    (d.session.permits item action = false → d.perform (.act item action name) = (d, {})) ∧
    (d.session.permits item action = true → ∃ m success,
      d.session.token = some m.token ∧ m.token ≠ "" ∧ d.session.Carries item action m success ∧
      (∀ n ∈ success.notices, n.kind = .success) ∧
      (d.takeReply.1 = .ok 200 → d.perform (.act item action name) =
        ({ d.takeReply.2 with removals := armedBy name d.removals success },
          { call := some m
            settlement := some success
            heard := if d.listened then success.heard else [] })) ∧
      (d.takeReply.1 ≠ .ok 200 → ∃ notice, notice.kind = .danger ∧
        d.perform (.act item action name) =
          (d.takeReply.2, { call := some m, settlement := some (.failed notice) }))) := by
  refine ⟨fun h => ?_, fun h => ?_⟩
  · simp only [perform, Session.plan_eq_none h]
  · obtain ⟨m, success, hplan, ht, hc⟩ := Session.plan_of_permits h
    refine ⟨m, success, ht, Session.token_ne_empty ht, hc, kind_of_carries hc, fun hr => ?_,
      fun hr => ?_⟩
    · rw [perform_act_of_plan hplan, hr, settle_done hc]
    · obtain ⟨e, -, hs⟩ := settle_refused item m hr
      refine ⟨m.failureNotice e, rfl, ?_⟩
      have hkept : { d.takeReply.2 with removals := d.removals } = d.takeReply.2 := by
        rw [← takeReply_removals d]
      rw [perform_act_of_plan hplan, hs]
      simp only [armedBy, hkept, Settlement.heard, ite_self]

/-- A listen is deleted by its user, and the server answers with another status than 200; somebody
else may not ask. -/
theorem act_gated_of_listen :
    let item : Item := .listen
      { listenedAt := some 5
        userName := some "rob"
        track := { trackName := "One", ids := { recordingMsid := some "msid-1" } } }
    let own : Desk :=
      { session := .start "" (some ⟨"rob", "token"⟩), removals := {}, replies := [.ok 204] }
    let other : Desk := { session := .start "" (some ⟨"ann", "token"⟩), removals := {} }
    (∃ m notice, m.token = "token" ∧ notice.kind = .danger ∧
      own.perform (.act item .deleteListen "t") =
        ({ own with replies := [] }, { call := some m, settlement := some (.failed notice) })) ∧
      other.perform (.act item .deleteListen "t") = (other, {}) := by
  intro item own other
  obtain ⟨m, success, ht, -, -, -, -, hrefused⟩ :=
    (act_gated own item .deleteListen "t").2 (by decide)
  obtain ⟨notice, hk, hp⟩ := hrefused (by simp [own, takeReply])
  refine ⟨⟨m, notice, ?_, hk, hp⟩, (act_gated other item .deleteListen "t").1 (by decide)⟩
  have : own.session.token = some "token" := by decide
  rw [ht] at this
  exact Option.some.inj this

end Desk

end ListenDeck
