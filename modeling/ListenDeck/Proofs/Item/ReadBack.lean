import ListenDeck.Item.Codec
import ListenDeck.Proofs.Json.Fields

/-!
# Items read back

Every record is written with its fields in their order, the optional ones only when they have a
value, and reads back as it was.

* `RecordingIds.ofJson?_toJson`, `TrackMetadata.ofJson?_toJson`, `Listen.ofJson?_toJson`,
  `Pin.ofJson?_toJson`, `PlaylistTrack.ofJson?_toJson`: the records.
* `Item.split?_typed`: the kind of an item stands apart from its fields.
* `Item.ofRead?_toJson`: an item reads back, whether its value was held before or not.
* `Item.ofJson?_listen`: a listen without its kind is no item.
-/

namespace ListenDeck

namespace Json

/-! ## Optional texts and numbers -/

theorem optional_string (o : Option String) : optional string? (o.map .string) = some o := by
  have hread : ∀ s, string? (.string s) = some s := fun _ => rfl
  exact optional_map hread (fun _ h => by cases h) o

theorem optional_int64 (o : Option Int64) : optional int64? (o.map ofInt64) = some o :=
  optional_map int64?_ofInt64 (fun _ h => by cases h) o

theorem optional_uint64 (o : Option UInt64) : optional uint64? (o.map ofUInt64) = some o :=
  optional_map uint64?_ofUInt64 (fun _ h => by cases h) o

section Readable
variable (key : String)

theorem readable_string (o : Option String) :
    readableFields (fieldIfSome key .string o) = true :=
  readableFields_fieldIfSome key (fun _ => rfl) o

theorem readable_int64 (o : Option Int64) : readableFields (fieldIfSome key ofInt64 o) = true :=
  readableFields_fieldIfSome key (fun _ => rfl) o

theorem readable_uint64 (o : Option UInt64) : readableFields (fieldIfSome key ofUInt64 o) = true :=
  readableFields_fieldIfSome key (fun _ => rfl) o

end Readable

end Json

open Json

/-! ## Records -/

namespace RecordingIds
variable (a : RecordingIds)

/-- The fields as they are written. -/
def toFields : List (String × Json) :=
  fieldIfSome "recording_msid" .string a.recordingMsid ++
    fieldIfSome "recording_mbid" .string a.recordingMbid ++
    fieldIfSome "artist_msid" .string a.artistMsid

theorem names_toFields : (a.toFields.map (·.1)).Sublist fieldNames := by
  simp only [toFields, List.map_append]
  exact ((names_fieldIfSome _ _ _).append (names_fieldIfSome _ _ _)).append
    (names_fieldIfSome _ _ _)

theorem toJson_eq : a.toJson = .object a.toFields := rfl

/-- **The ids of a record that was written are the ids.** -/
theorem ofJson?_toJson : ofJson? a.toJson = some a := by
  have hrecord : a.toJson.isRecord fieldNames = true :=
    isRecord_of_nodup (a.names_toFields.nodup (by decide)) fieldNames
  rw [ofJson?, if_pos hrecord, toJson_eq]
  simp [slot, toFields, get?_append, get?_fieldIfSome, optional_string]

theorem readable_toJson : a.toJson.readable = true := by
  simp [toJson_eq, toFields, readable, readableFields_append, readable_string]

end RecordingIds

namespace TrackMetadata
variable (t : TrackMetadata)

/-- The fields as they are written. -/
def toFields : List (String × Json) :=
  [("artist_name", .string t.artistName), ("track_name", .string t.trackName)] ++
    fieldIfSome "release_name" .string t.releaseName ++ [("additional_info", t.ids.toJson)]

theorem names_toFields : (t.toFields.map (·.1)).Sublist fieldNames := by
  simp only [toFields, List.map_append]
  exact ((List.Sublist.refl _).append (names_fieldIfSome _ _ _)).append (List.Sublist.refl _)

theorem toJson_eq : t.toJson = .object t.toFields := rfl

/-- **The metadata of a record that was written are the metadata.** -/
theorem ofJson?_toJson : ofJson? t.toJson = some t := by
  have hrecord : t.toJson.isRecord fieldNames = true :=
    isRecord_of_nodup (t.names_toFields.nodup (by decide)) fieldNames
  rw [ofJson?, if_pos hrecord, toJson_eq]
  simp [slot, toFields, get?_cons, get?_nil, get?_append, get?_fieldIfSome, optional_string,
    withDefault, string?, RecordingIds.ofJson?_toJson]

theorem readable_toJson : t.toJson.readable = true := by
  simp [toJson_eq, toFields, readable, readableFields, readableFields_append, readable_string,
    RecordingIds.readable_toJson]

end TrackMetadata

namespace Listen
variable (l : Listen)

theorem names_toFields : (l.toFields.map (·.1)).Sublist fieldNames := by
  simp only [toFields, List.map_append]
  exact ((((names_fieldIfSome _ _ _).append (names_fieldIfSome _ _ _)).append
    (List.Sublist.refl _)).append (names_fieldIfSome _ _ _)).append (List.Sublist.refl _)

/-- **The listen of a record that was written is the listen.** -/
theorem ofJson?_toJson : ofJson? l.toJson = some l := by
  have hrecord : l.toJson.isRecord fieldNames = true :=
    isRecord_of_nodup (l.names_toFields.nodup (by decide)) fieldNames
  rw [ofJson?, if_pos hrecord, toJson]
  simp [slot, toFields, get?_cons, get?_nil, get?_append, get?_fieldIfSome, optional_string,
    optional_int64, withDefault, required, bool?, TrackMetadata.ofJson?_toJson]

theorem readable_toFields : readableFields l.toFields = true := by
  simp [toFields, readable, readableFields, readableFields_append, readable_string, readable_int64,
    TrackMetadata.readable_toJson]

end Listen

namespace Pin
variable (p : Pin)

theorem names_toFields : (p.toFields.map (·.1)).Sublist fieldNames := by
  simp only [toFields, List.map_append]
  exact ((((List.Sublist.refl _).append (names_fieldIfSome _ _ _)).append
    (names_fieldIfSome _ _ _)).append (names_fieldIfSome _ _ _)).append (List.Sublist.refl _)

/-- **The pin of a record that was written is the pin.** -/
theorem ofJson?_toJson : ofJson? p.toJson = some p := by
  have hrecord : p.toJson.isRecord fieldNames = true :=
    isRecord_of_nodup (p.names_toFields.nodup (by decide)) fieldNames
  rw [ofJson?, if_pos hrecord, toJson]
  simp [slot, toFields, get?_cons, get?_nil, get?_append, get?_fieldIfSome, optional_string,
    withDefault, required, int64?_ofInt64, TrackMetadata.ofJson?_toJson]

theorem readable_toFields : readableFields p.toFields = true := by
  simp [toFields, readable, readableFields, readableFields_append, readable_string, ofInt64,
    TrackMetadata.readable_toJson]

end Pin

namespace PlaylistTrack
variable (t : PlaylistTrack)

theorem names_toFields : (t.toFields.map (·.1)).Sublist fieldNames := by
  simp only [toFields, List.map_append]
  exact (((List.Sublist.refl _).append (names_fieldIfSome _ _ _)).append
    (names_fieldIfSome _ _ _)).append (names_fieldIfSome _ _ _)

/-- **The track of a record that was written is the track.** -/
theorem ofJson?_toJson : ofJson? t.toJson = some t := by
  have hrecord : t.toJson.isRecord fieldNames = true :=
    isRecord_of_nodup (t.names_toFields.nodup (by decide)) fieldNames
  rw [ofJson?, if_pos hrecord, toJson]
  simp [slot, toFields, get?_cons, get?_append, get?_fieldIfSome, optional_string,
    optional_uint64, withDefault, required, string?]

theorem readable_toFields : readableFields t.toFields = true := by
  simp [toFields, readable, readableFields, readableFields_append, readable_string,
    readable_uint64]

end PlaylistTrack

/-! ## Items -/

theorem ItemKind.ofJson?_name (held : Bool) (k : ItemKind) :
    ItemKind.ofJson? held (.string k.name) = some k := by
  cases k <;> rfl

namespace Item

/-- **The kind of an item stands apart from its fields**, none of which is called so. -/
theorem split?_typed (kind : Json) {fields : List (String × Json)}
    (h : "type" ∉ fields.map (·.1)) :
    split? (.object (("type", kind) :: fields)) = some (kind, .object fields) := by
  have hother : ∀ f ∈ fields, f.1 ≠ "type" := fun f hf heq => h (heq ▸ List.mem_map_of_mem hf)
  have hnone : fields.filter (·.1 == "type") = [] := by
    simpa [List.filter_eq_nil_iff] using fun a b hf => hother (a, b) hf
  have hall : fields.filter (·.1 != "type") = fields := by
    simpa [List.filter_eq_self] using fun a b hf => hother (a, b) hf
  simp [split?, hnone, hall]

theorem split?_of_not_mem {fields : List (String × Json)} (h : "type" ∉ fields.map (·.1)) :
    split? (.object fields) = none := by
  have hnone : fields.filter (·.1 == "type") = [] := by
    rw [List.filter_eq_nil_iff]
    intro f hf heq
    exact h (List.mem_map.mpr ⟨f, hf, beq_iff_eq.mp heq⟩)
  rw [split?, hnone]

theorem ofRead?_typed (held : Bool) (k : ItemKind) {fields : List (String × Json)}
    (hr : readableFields fields = true) (h : "type" ∉ fields.map (·.1)) :
    ofRead? held (.object (("type", .string k.name) :: fields)) = ofRecord? k (.object fields) := by
  have hreadable : (Json.object (("type", .string k.name) :: fields)).readable = true := by
    simp [readable, readableFields, hr]
  rw [ofRead?, if_pos hreadable, split?_typed _ h]
  simp only [ItemKind.ofJson?_name, Option.bind_some]

/-- **An item reads back**, whether its value was held before its meaning was known or not. -/
theorem ofRead?_toJson (held : Bool) (item : Item) : ofRead? held item.toJson = some item := by
  cases item with
  | listen l =>
    have hread : Listen.ofJson? (.object l.toFields) = some l := l.ofJson?_toJson
    rw [toJson, ofRead?_typed held .listen l.readable_toFields
      fun h => absurd (l.names_toFields.subset h) (by decide), ofRecord?, hread, Option.map_some]
  | pin p =>
    have hread : Pin.ofJson? (.object p.toFields) = some p := p.ofJson?_toJson
    rw [toJson, ofRead?_typed held .pin p.readable_toFields
      fun h => absurd (p.names_toFields.subset h) (by decide), ofRecord?, hread, Option.map_some]
  | track t =>
    have hread : PlaylistTrack.ofJson? (.object t.toFields) = some t := t.ofJson?_toJson
    rw [toJson, ofRead?_typed held .track t.readable_toFields
      fun h => absurd (t.names_toFields.subset h) (by decide), ofRecord?, hread, Option.map_some]

/-- **A listen without its kind is no item.** -/
theorem ofJson?_listen (l : Listen) : Item.ofJson? l.toJson = none := by
  have hsplit : split? l.toJson = none :=
    split?_of_not_mem fun h => absurd (l.names_toFields.subset h) (by decide)
  rw [ofJson?, ofRead?, hsplit]
  split_ifs <;> rfl

end Item

end ListenDeck
