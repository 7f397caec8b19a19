import ListenDeck.Proofs.Json.RoundTrip
import ListenDeck.Settings.Store

/-!
# Stored settings read back

* `Settings.ofJson?_toJson`: a record of settings stands for the settings.
* `Settings.read?_render`: so does its text.
* `Store.load_save`: what was saved is loaded, in normal form once more.
-/

namespace ListenDeck

namespace User

theorem ofJson?_toJson (u : User) : ofJson? u.toJson = some u := rfl

theorem fits_toJson (u : User) {depth : Nat} (h : depth < Json.maxDepth) :
    u.toJson.fits depth = true := by
  simp [toJson, Json.fits, Json.fitsFields, h]

end User

namespace Settings

theorem fits_toJson (s : Settings) : s.toJson.fits 0 = true := by
  have hpage : Json.InWord s.pageSize.toNat := by
    have := s.pageSize.toNat_lt
    exact Json.inWord_ofNat (by unfold UInt64.size; omega)
  have hgrace : Json.InWord s.removalGraceMs.toNat := Json.inWord_ofNat s.removalGraceMs.toNat_lt
  have htimeout : Json.InWord s.alertTimeoutMs.toNat :=
    Json.inWord_ofNat s.alertTimeoutMs.toNat_lt
  have huser : (Json.ofOption User.toJson s.user).fits 1 = true := by
    cases s.user with
    | none => rfl
    | some u => exact u.fits_toJson (by decide)
  have hlast : (Json.ofOption Json.string s.lastPlaylist).fits 1 = true := by
    cases s.lastPlaylist <;> rfl
  simp [toJson, Json.fits, Json.fitsFields, Json.ofUInt32, Json.ofUInt64, hpage, hgrace, htimeout,
    huser, hlast, Json.maxDepth]

/-- **The settings of a record that was written are the settings.** -/
theorem ofJson?_toJson (s : Settings) : ofJson? s.toJson = some s := by
  have hrecord : s.toJson.isRecord fieldNames = true := rfl
  have hurl : s.toJson.slot 0 "api_url" = some (.string s.apiUrl) := rfl
  have hpage : s.toJson.slot 1 "page_size" = some (Json.ofUInt32 s.pageSize) := rfl
  have hgrace : s.toJson.slot 2 "removal_grace_ms" = some (Json.ofUInt64 s.removalGraceMs) := rfl
  have htimeout : s.toJson.slot 3 "alert_timeout_ms" = some (Json.ofUInt64 s.alertTimeoutMs) := rfl
  have huser : s.toJson.slot 4 "user" = some (Json.ofOption User.toJson s.user) := rfl
  have hlast : s.toJson.slot 5 "last_playlist_mbid" =
      some (Json.ofOption .string s.lastPlaylist) := rfl
  have huser' := Json.optional_ofOption User.ofJson?_toJson (fun u => by simp [User.toJson]) s.user
  have hstring : ∀ text : String, Json.string? (.string text) = some text := fun _ => rfl
  have hlast' := Json.optional_ofOption hstring (fun text => by simp) s.lastPlaylist
  rw [ofJson?, if_pos hrecord, hurl, hpage, hgrace, htimeout, huser, hlast, huser', hlast']
  simp only [Json.withDefault, Json.string?, Json.uint32?_ofUInt32, Json.uint64?_ofUInt64,
    Option.bind_eq_bind, Option.bind_some]

/-- **The settings of a text that was written are the settings.** -/
theorem read?_render (s : Settings) : read? s.render = some s := by
  rw [read?, render, Json.parse?_render s.fits_toJson, Option.bind_some, ofJson?_toJson]

end Settings

namespace Store

variable {s : Store} {settings : Settings}

theorem save_store (h : (s.save settings).2 = .ok ()) :
    (s.save settings).1 = .directory (.table (some settings.normal.render)) := by
  unfold save at h ⊢
  cases hrow : s.row with
  | error e =>
    rw [hrow] at h
    cases h
  | ok r => rfl

/-- **What was saved is loaded**, in normal form once more. -/
theorem load_save (h : (s.save settings).2 = .ok ()) :
    (s.save settings).1.prepare.1.load = .ok settings.normal.normal := by
  have hprepare : (s.save settings).1.prepare.1 =
      .directory (.table (some settings.normal.render)) := by
    rw [save_store h]
    rfl
  rw [hprepare]
  simp only [load, row, opened, Settings.read?_render]

end Store

end ListenDeck
