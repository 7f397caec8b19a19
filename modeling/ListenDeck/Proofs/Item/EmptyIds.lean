import ListenDeck.Actions.Permission
import Mathlib.Tactic.Common

/-!
# Empty ids

An id of a recording may be missing from an item, or it may be there as an empty text. What is made
of an item takes the one for the other, but for two cases in which the choice between an id and what
stands in for it is made before empty texts are left out: a pin's own id, though empty, goes before
the one among its track's ids, and a listen without time or user is told apart by its recording's
id, though empty, and not by its track's name.

* `Item.cleared`: an item whose empty ids are left out, in chosen fields.
* `Item.Alike`: items of which the same is made.
* `Item.Masks`: an empty id that something else would stand in for if it were missing.
* `Item.alike_cleared_iff`: leaving out empty ids changes nothing exactly if none of them masks
  anything.
-/

namespace ListenDeck

/-! ## Leaving out empty ids -/

/-- The fields of an item that hold an id of its recording. -/
inductive IdField where
  /-- The pin's own. -/
  | ownMsid
  | ownMbid
  /-- The one among the ids of the track. -/
  | trackMsid
  | trackMbid
  deriving DecidableEq, Repr

/-- The id, left out if it is empty and its field is chosen. -/
def clearId (chosen : Bool) (id : Option String) : Option String :=
  if chosen then nonEmpty id else id

/-- The track without the empty ids of the chosen fields. -/
def TrackMetadata.cleared (fields : IdField → Bool) (t : TrackMetadata) : TrackMetadata :=
  { t with ids := { t.ids with
      recordingMsid := clearId (fields .trackMsid) t.ids.recordingMsid
      recordingMbid := clearId (fields .trackMbid) t.ids.recordingMbid } }

namespace Item

/-- **The item without the empty ids of the chosen fields.** -/
def cleared (fields : IdField → Bool) : Item → Item
  | .listen l => .listen { l with track := l.track.cleared fields }
  | .pin p => .pin { p with
      recordingMsid := clearId (fields .ownMsid) p.recordingMsid
      recordingMbid := clearId (fields .ownMbid) p.recordingMbid
      track := p.track.cleared fields }
  | .track t => .track t

/-- **The same is made of both items**: they have the same ids and identity, recommend the same, and
every user may do the same with them. -/
structure Alike (a b : Item) : Prop where
  msid : a.recordingMsid = b.recordingMsid
  mbid : a.recordingMbid = b.recordingMbid
  identity : a.identity = b.identity
  recommendation : Recommendation.ofItem? a = Recommendation.ofItem? b
  giveFeedback : ∀ s : Session, s.canGiveFeedback a = s.canGiveFeedback b
  deleteListen : ∀ s : Session, s.canDeleteListen a = s.canDeleteListen b
  deletePin : ∀ (s : Session) (owner : String), s.canDeletePin a owner = s.canDeletePin b owner
  recommend : ∀ s : Session, s.canRecommend a = s.canRecommend b

/-- **The id of the field is empty and masks something**: a pin's own id masks the one among its
track's ids, and the id of a listen without time or user masks the track's name. -/
def Masks : Item → IdField → Prop
  | .pin p, .ownMsid =>
    p.recordingMsid = some "" ∧ (nonEmpty p.track.ids.recordingMsid).isSome = true
  | .pin p, .ownMbid =>
    p.recordingMbid = some "" ∧ (nonEmpty p.track.ids.recordingMbid).isSome = true
  | .listen l, .trackMsid =>
    l.track.ids.recordingMsid = some "" ∧ (l.listenedAt = none ∨ l.userName = none) ∧
      l.track.trackName ≠ ""
  | _, _ => False

end Item

/-! ## One field -/

theorem nonEmpty_eq_self {id : Option String} (h : id ≠ some "") : nonEmpty id = id := by
  cases id with
  | none => rfl
  | some s => exact Option.filter_some_pos (by simpa using h)

theorem nonEmpty_idem (id : Option String) : nonEmpty (nonEmpty id) = nonEmpty id := by
  simp [nonEmpty, Option.filter_filter]

theorem nonEmpty_clearId (chosen : Bool) (id : Option String) :
    nonEmpty (clearId chosen id) = nonEmpty id := by
  unfold clearId
  split_ifs
  · exact nonEmpty_idem id
  · rfl

theorem nonEmpty_or_clearId (chosen chosen' : Bool) (own other : Option String) :
    nonEmpty ((clearId chosen own).or (clearId chosen' other)) =
      if chosen = true ∧ own = some "" then nonEmpty other else nonEmpty (own.or other) := by
  split_ifs with h
  · obtain ⟨hchosen, rfl⟩ := h
    have hown : clearId chosen (some "") = none := by rw [hchosen]; rfl
    rw [hown, Option.none_or, nonEmpty_clearId]
  · have hown : clearId chosen own = own := by
      unfold clearId
      split_ifs with hchosen
      · exact nonEmpty_eq_self fun he => h ⟨hchosen, he⟩
      · rfl
    cases own with
    | none => rw [hown, Option.none_or, Option.none_or, nonEmpty_clearId]
    | some s => rw [hown, Option.some_or, Option.some_or]

/-- Leaving out the first of two ids changes what is chosen exactly if it is empty and the second
one is not. -/
theorem nonEmpty_or_clearId_iff (chosen chosen' : Bool) (own other : Option String) :
    nonEmpty ((clearId chosen own).or (clearId chosen' other)) = nonEmpty (own.or other) ↔
      ¬ (chosen = true ∧ own = some "" ∧ (nonEmpty other).isSome = true) := by
  rw [nonEmpty_or_clearId]
  split_ifs with h
  · obtain ⟨hchosen, rfl⟩ := h
    have hempty : nonEmpty ((some "").or other) = none := rfl
    rw [hempty, ← Option.not_isSome_iff_eq_none]
    simp [hchosen]
  · exact iff_of_true rfl fun hall => h ⟨hall.1, hall.2.1⟩

namespace Item

variable (item : Item) (fields : IdField → Bool)

/-! ## Ids and identity -/

theorem recordingMsid_cleared_iff : (item.cleared fields).recordingMsid = item.recordingMsid ↔
    ¬ (fields .ownMsid = true ∧ item.Masks .ownMsid) := by
  cases item with
  | listen l => exact iff_of_true (nonEmpty_clearId _ _) fun h => h.2
  | pin p => exact nonEmpty_or_clearId_iff _ _ _ _
  | track t => exact iff_of_true rfl fun h => h.2

theorem recordingMbid_cleared_iff : (item.cleared fields).recordingMbid = item.recordingMbid ↔
    ¬ (fields .ownMbid = true ∧ item.Masks .ownMbid) := by
  cases item with
  | listen l => exact iff_of_true (nonEmpty_clearId _ _) fun h => h.2
  | pin p => exact nonEmpty_or_clearId_iff _ _ _ _
  | track t => exact iff_of_true rfl fun h => h.2

theorem getD_clearId_iff (chosen : Bool) (id : Option String) (name : String) :
    (clearId chosen id).getD name = id.getD name ↔
      ¬ (chosen = true ∧ id = some "" ∧ name ≠ "") := by
  by_cases h : chosen = true ∧ id = some ""
  · obtain ⟨rfl, rfl⟩ := h
    have hname : (clearId true (some "")).getD name = name := rfl
    rw [hname]
    simp
  · have hsame : clearId chosen id = id := by
      unfold clearId
      split_ifs with hchosen
      · exact nonEmpty_eq_self fun he => h ⟨hchosen, he⟩
      · rfl
    rw [hsame]
    exact iff_of_true rfl fun hall => h ⟨hall.1, hall.2.1⟩

theorem identity_cleared_iff : (item.cleared fields).identity = item.identity ↔
    ¬ (fields .trackMsid = true ∧ item.Masks .trackMsid) := by
  cases item with
  | listen l =>
    have hname := getD_clearId_iff (fields .trackMsid) l.track.ids.recordingMsid l.track.trackName
    cases htime : l.listenedAt with
    | none => simpa [cleared, identity, Masks, TrackMetadata.cleared, htime] using hname
    | some time =>
      cases huser : l.userName with
      | none => simpa [cleared, identity, Masks, TrackMetadata.cleared, htime, huser] using hname
      | some user => simp [cleared, identity, Masks, TrackMetadata.cleared, htime, huser]
  | pin p => exact iff_of_true rfl fun h => h.2
  | track t => exact iff_of_true rfl fun h => h.2

/-! ## What is made of them -/

theorem cleared_rest :
    (item.cleared fields).artistName = item.artistName ∧
      (item.cleared fields).trackName = item.trackName ∧
      (item.cleared fields).releaseName = item.releaseName ∧
      (item.cleared fields).artistMsid = item.artistMsid ∧
      (item.cleared fields).listenedAt = item.listenedAt ∧
      (item.cleared fields).userName = item.userName ∧
      (item.cleared fields).isListen = item.isListen ∧
      (item.cleared fields).isPin = item.isPin := by
  cases item <;> exact ⟨rfl, rfl, rfl, rfl, rfl, rfl, rfl, rfl⟩

theorem ofItem?_cleared (hmsid : (item.cleared fields).recordingMsid = item.recordingMsid)
    (hmbid : (item.cleared fields).recordingMbid = item.recordingMbid) :
    Recommendation.ofItem? (item.cleared fields) = Recommendation.ofItem? item := by
  obtain ⟨hartist, htrack, hrelease, hartistMsid, -⟩ := item.cleared_rest fields
  unfold Recommendation.ofItem?
  rw [hmsid, hmbid, hartist, htrack, hrelease, hartistMsid]

/-- The id of a listen's recording has nothing to stand in for it. -/
theorem canDeleteListen_cleared (s : Session) :
    s.canDeleteListen (item.cleared fields) = s.canDeleteListen item := by
  cases item with
  | listen l =>
    have hmsid : (Item.cleared fields (.listen l)).recordingMsid = (Item.listen l).recordingMsid :=
      nonEmpty_clearId _ _
    unfold Session.canDeleteListen
    rw [hmsid]
    rfl
  | pin p => rfl
  | track t => rfl

theorem canDeletePin_cleared (s : Session) (owner : String) :
    s.canDeletePin (item.cleared fields) owner = s.canDeletePin item owner := by
  cases item <;> rfl

/-- **Empty ids and missing ids.** For every item and any choice of fields, leaving out the ids of
these fields that are empty changes nothing that is made of the item exactly if none of them masks
anything. In particular the id that feedback and deletion go by changes exactly if the pin's own is
left out and masks another one, the public id likewise, and the identity exactly if the id of a
listen's recording is left out and masks the track's name; who may delete a listen or a pin never
changes. -/
theorem alike_cleared_iff :
    ((item.cleared fields).Alike item ↔ ∀ f, fields f = true → ¬ item.Masks f) ∧
      ((item.cleared fields).recordingMsid = item.recordingMsid ↔
        ¬ (fields .ownMsid = true ∧ item.Masks .ownMsid)) ∧
      ((item.cleared fields).recordingMbid = item.recordingMbid ↔
        ¬ (fields .ownMbid = true ∧ item.Masks .ownMbid)) ∧
      ((item.cleared fields).identity = item.identity ↔
        ¬ (fields .trackMsid = true ∧ item.Masks .trackMsid)) ∧
      ∀ (s : Session) (owner : String),
        s.canDeleteListen (item.cleared fields) = s.canDeleteListen item ∧
          s.canDeletePin (item.cleared fields) owner = s.canDeletePin item owner := by
  have hmsid := item.recordingMsid_cleared_iff fields
  have hmbid := item.recordingMbid_cleared_iff fields
  have hidentity := item.identity_cleared_iff fields
  refine ⟨⟨fun h f hf hmasks => ?_, fun h => ?_⟩, hmsid, hmbid, hidentity,
    fun s owner =>
      ⟨item.canDeleteListen_cleared fields s, item.canDeletePin_cleared fields s owner⟩⟩
  · cases f with
    | ownMsid => exact hmsid.mp h.msid ⟨hf, hmasks⟩
    | ownMbid => exact hmbid.mp h.mbid ⟨hf, hmasks⟩
    | trackMsid => exact hidentity.mp h.identity ⟨hf, hmasks⟩
    | trackMbid => cases item <;> exact hmasks
  · have hsame := hmsid.mpr fun hall => h _ hall.1 hall.2
    have hwhat := item.ofItem?_cleared fields hsame (hmbid.mpr fun hall => h _ hall.1 hall.2)
    exact {
      msid := hsame
      mbid := hmbid.mpr fun hall => h _ hall.1 hall.2
      identity := hidentity.mpr fun hall => h _ hall.1 hall.2
      recommendation := hwhat
      giveFeedback := fun s => by unfold Session.canGiveFeedback; rw [hsame]
      deleteListen := item.canDeleteListen_cleared fields
      deletePin := item.canDeletePin_cleared fields
      recommend := fun s => by unfold Session.canRecommend; rw [hwhat] }

/-- **Empty ids are not missing ids.** A pin whose own id is empty has no id and cannot be
recommended, though its track has one, which counts as soon as the empty one is left out. And two
listens without time that both have an empty id are the same to a list; without these ids they are
told apart by their names. -/
theorem empty_ids_mask :
    let pin : Item := .pin {
      rowId := 1
      recordingMsid := some ""
      track := { artistName := "MA", trackName := "One", ids := { recordingMsid := some "m" } } }
    let listen : String → Item := fun name =>
      .listen { track := { trackName := name, ids := { recordingMsid := some "" } } }
    let s : Session := { base := "http://h", user := some ⟨"rob", "tok"⟩ }
    (pin.recordingMsid = none ∧ s.canGiveFeedback pin = false ∧ s.canRecommend pin = false) ∧
      ((pin.cleared (· = .ownMsid)).recordingMsid = some "m" ∧
        s.canGiveFeedback (pin.cleared (· = .ownMsid)) = true ∧
        s.canRecommend (pin.cleared (· = .ownMsid)) = true) ∧
      (listen "One").identity = (listen "Two").identity ∧
      ((listen "One").cleared (· = .trackMsid)).identity = .recording "One" ∧
      ((listen "Two").cleared (· = .trackMsid)).identity = .recording "Two" := by
  decide

end Item

end ListenDeck
