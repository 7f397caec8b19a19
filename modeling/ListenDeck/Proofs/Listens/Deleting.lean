import ListenDeck.Browse.Browser
import ListenDeck.Pages.Listens
import ListenDeck.Proofs.Actions.Gate

/-!
# Deleting a listen

The server deletes a listen by its time and the id of its recording. A list drops it by its
identity, which is its time, its track's name and its user. So a list may drop more than was
deleted: whatever happened to the same user at the same time under the same name.

* `Item.SameListen`: what a list takes for the same listen.
* `identity_eq_iff`: it is what has the identity of the listen.
* `plan_deleteListen`: what the server is told of the listen.
* `listens_dropped`: what a list drops, and when all of it was deleted.
-/

namespace ListenDeck

namespace Item

/-- **A list takes both for the same listen**: time, track's name and user are the same. -/
def SameListen (a b : Item) : Prop :=
  a.listenedAt = b.listenedAt ∧ a.trackName = b.trackName ∧ a.userName = b.userName

instance (a b : Item) : Decidable (a.SameListen b) := by
  unfold SameListen
  infer_instance

theorem SameListen.refl (a : Item) : a.SameListen a := ⟨rfl, rfl, rfl⟩

theorem identity_eq_listen_iff {i : Item} {time : Int64} {name user : String} :
    i.identity = .listen time name user ↔
      i.listenedAt = some time ∧ i.trackName = name ∧ i.userName = some user := by
  cases i with
  | listen l =>
    cases htime : l.listenedAt <;> cases huser : l.userName <;>
      simp [identity, listenedAt, trackName, userName, htime, huser]
  | pin p => simp [identity, listenedAt]
  | track t => simp [identity, listenedAt]

/-- **The identity of a listen** with time and user is that of all items a list takes for it. -/
theorem identity_eq_iff {i item : Item} {time : Int64} {user : String}
    (htime : item.listenedAt = some time) (huser : item.userName = some user) :
    i.identity = item.identity ↔ i.SameListen item := by
  have hitem : item.identity = .listen time item.trackName user :=
    identity_eq_listen_iff.mpr ⟨htime, rfl, huser⟩
  rw [hitem, identity_eq_listen_iff, SameListen, htime, huser]

end Item

/-! ## What is deleted -/

section Deleted
variable {s : Session} {item : Item} {m : Mutation}

/-- **What the server is told** of a listen that is to be deleted: its time and the id of its
recording. The user is the listen's. -/
theorem plan_deleteListen (h : s.plan item .deleteListen = some m) :
    ∃ token msid time user, m = .deleteListen token msid time ∧ item.recordingMsid = some msid ∧
      item.listenedAt = some time ∧ item.userName = some user ∧ s.userName = some user := by
  have hpermits : s.permits item .deleteListen = true := by
    by_contra hnot
    rw [Session.plan_eq_none (Bool.eq_false_iff.mpr hnot)] at h
    cases h
  obtain ⟨m', success, hplan, -, hcarries⟩ := Session.plan_of_permits hpermits
  obtain rfl := Option.some.inj (h.symm.trans hplan)
  simp only [Session.permits, Session.canDeleteListen, Bool.and_eq_true] at hpermits
  obtain ⟨⟨⟨-, huser⟩, -⟩, -⟩ := hpermits
  cases hcarries with
  | @listen token msid l time hi hmsid htime =>
    subst hi
    unfold Session.isUser at huser
    split at huser
    · next own name hown hname =>
      simp only [Bool.and_eq_true, decide_eq_true_eq] at huser
      exact ⟨token, msid, time, name, rfl, hmsid, htime, hname, huser.2 ▸ hown⟩
    · cases huser

theorem identity_of_armed {reply : Except ServerError Nat} {identity : Identity}
    {token msid : String} {time : Int64}
    (h : settle item (.deleteListen token msid time) reply = .armed identity) :
    identity = item.identity := by
  unfold settle at h
  split at h
  · cases h
  · exact (Settlement.armed.inj h).symm

end Deleted

/-! ## What is dropped -/

theorem Browser.step_remove_items (b : Browser) (identity : Identity) :
    (b.step (.remove identity)).1.pager.state.items =
      b.pager.state.items.filter (·.identity ≠ identity) := by
  simp only [Browser.step, Pager.remove]
  split_ifs with h
  · rfl
  · refine (List.filter_eq_self.mpr fun i hi => ?_).symm
    simp only [List.any_eq_true, not_exists, not_and] at h
    simpa using h i hi

section Dropped
variable {s : Session} {item : Item} {m : Mutation} {reply : Except ServerError Nat}
  {identity : Identity}

/-- **What a list drops for a listen that was deleted.** When the server has carried out the
deletion of a listen, which it was told by time and recording, the page of listens and every pager
drop from whatever list they show exactly what has time, track's name and user of the listen, the
listen itself included, and keep all else in its order. So all that a list drops has the time and
the recording that the server was told exactly if no listen in it that is taken for the same one is
of another recording. -/
theorem listens_dropped (hplan : s.plan item .deleteListen = some m)
    (hreply : settle item m reply = .armed identity) (items : List Item) :
    let left := items.filter fun i => ¬ i.SameListen item
    (∀ p : ListensPage, p.items = items → (p.without identity).items = left) ∧
    (∀ b : Browser, b.pager.state.items = items →
      (b.step (.remove identity)).1.pager.state.items = left) ∧
    item ∉ left ∧
    ∃ token msid time, m = .deleteListen token msid time ∧ item.recordingMsid = some msid ∧
      item.listenedAt = some time ∧
      ((∀ i ∈ items, i ∉ left → i.listenedAt = some time ∧ i.recordingMsid = some msid) ↔
        ∀ i ∈ items, i.SameListen item → i.recordingMsid = some msid) := by
  intro left
  obtain ⟨token, msid, time, user, rfl, hmsid, htime, huser, -⟩ := plan_deleteListen hplan
  obtain rfl := identity_of_armed hreply
  have hleft : items.filter (·.identity ≠ item.identity) = left := by
    refine List.filter_congr fun i _ => ?_
    simp only [ne_eq, Item.identity_eq_iff htime huser]
  have hdropped : ∀ i ∈ items, i ∉ left ↔ i.SameListen item := by
    intro i hi
    simp [left, hi]
  refine ⟨fun p hp => ?_, fun b hb => ?_, fun hitem => ?_, token, msid, time, rfl, hmsid, htime,
    fun h i hi hsame => (h i hi ((hdropped i hi).mpr hsame)).2, fun h i hi hgone => ?_⟩
  · rw [← hleft, ← hp]
    rfl
  · rw [← hleft, ← hb]
    exact b.step_remove_items _
  · have := (List.mem_filter.mp hitem).2
    simp [Item.SameListen.refl] at this
  · have hsame := (hdropped i hi).mp hgone
    exact ⟨hsame.1.trans htime, h i hi hsame⟩

/-- A listen of a track that was heard twice: the list drops the one that was deleted. -/
theorem listens_dropped_of_repeat :
    let listen : Int64 → Item := fun time => .listen
      { listenedAt := some time
        userName := some "rob"
        track := { trackName := "One", ids := { recordingMsid := some "m" } } }
    let s : Session := { base := "http://h", user := some ⟨"rob", "tok"⟩ }
    let m : Mutation := .deleteListen "tok" "m" 1000
    s.plan (listen 1000) .deleteListen = some m ∧
      settle (listen 1000) m (.ok 200) = .armed (listen 1000).identity ∧
      ∀ p : ListensPage, p.items = [listen 1000, listen 2000] →
        (p.without (listen 1000).identity).items = [listen 2000] := by
  intro listen s m
  have hplan : s.plan (listen 1000) .deleteListen = some m := by decide
  have hreply : settle (listen 1000) m (.ok 200) = .armed (listen 1000).identity := by decide
  refine ⟨hplan, hreply, fun p hp => ?_⟩
  have hleft := (listens_dropped hplan hreply [listen 1000, listen 2000]).1 p hp
  exact hleft.trans (by decide)

/-- **A list drops what was not deleted.** Two artists have a track of the same name, and the user
heard both at the same time. The server deletes the first listen, by its recording; the page of
listens and a pager drop both. -/
theorem listens_dropped_of_namesake :
    let listen : String → String → Item := fun artist msid => .listen
      { listenedAt := some 1000
        userName := some "rob"
        track := {
          artistName := artist, trackName := "One", ids := { recordingMsid := some msid } } }
    let s : Session := { base := "http://h", user := some ⟨"rob", "tok"⟩ }
    let m : Mutation := .deleteListen "tok" "m1" 1000
    let items := [listen "MA" "m1", listen "MB" "m2"]
    let page : ListensPage := { user := "rob", items }
    let pager : Pager := { config := { user := "rob", label := "listens" }, state := { items } }
    let browser : Browser := { pager, bar := .start none }
    ∃ identity, s.plan (listen "MA" "m1") .deleteListen = some m ∧
      settle (listen "MA" "m1") m (.ok 200) = .armed identity ∧
      (listen "MB" "m2").recordingMsid ≠ some "m1" ∧
      (page.without identity).items = [] ∧
      (browser.step (.remove identity)).1.pager.state.items = [] := by
  intro listen s m items page pager browser
  exact ⟨(listen "MA" "m1").identity, by decide⟩

end Dropped

end ListenDeck
