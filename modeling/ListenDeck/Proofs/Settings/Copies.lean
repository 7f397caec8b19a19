import ListenDeck.App.Basic
import ListenDeck.Proofs.Settings.Normal
import ListenDeck.Proofs.Settings.Stored

/-!
# The copies of the settings

Saving the settings form makes three copies of its address: one in the settings, one in the session
that begins, and one in the store, for the next start. Each is put in normal form once more.

* `App.start_settings`: the settings of a start are those of the store.
* `App.saveSettings_copies`: the copies, as far as they were put in normal form.
* `App.copies_agree`: the copies are the same unless the address is ragged.
-/

namespace ListenDeck

namespace App

/-! ## Starting -/

theorem visit_listens_settings (a : App) : (a.visit .listens).1.settings = a.settings := by
  unfold visit pageOf
  cases a.session.userName <;> rfl

theorem start_settings (home : String) (store : Store) : (App.start home store).1.settings =
    match store.prepare.1.load with
    | .ok s => s
    | .error _ => {} := by
  unfold start
  exact visit_listens_settings _

/-! ## Saving -/

section Save
variable (a : App) (f : SettingsForm)

theorem saveSettings_settings : (a.saveSettings f).settings = f.settings a.settings := rfl

theorem saveSettings_session : (a.saveSettings f).session =
    .start (f.settings a.settings).apiUrl (f.settings a.settings).user := rfl

theorem saveSettings_store :
    (a.saveSettings f).store = (a.store.save (f.settings a.settings)).1 := rfl

variable {a f}

theorem start_saved (home : String) (h : (a.store.save (f.settings a.settings)).2 = .ok ()) :
    (App.start home (a.saveSettings f).store).1.settings =
      (f.settings a.settings).normal.normal := by
  rw [start_settings, saveSettings_store, Store.load_save h]

theorem settings_normal_iff :
    (f.settings a.settings).normal = f.settings a.settings ↔ ¬ Server.Ragged f.apiUrl :=
  Settings.normal_normal_iff _

theorem normalBase_settings_iff :
    Server.normalBase (f.settings a.settings).apiUrl = (f.settings a.settings).apiUrl ↔
      ¬ Server.Ragged f.apiUrl := by
  rw [SettingsForm.settings, Settings.normal_apiUrl]
  exact Server.normalBase_normalBase_iff f.apiUrl

end Save

/-- **The copies of the settings agree** unless the address is ragged. The normal form of settings
is taken again without a change; a session that begins on its address is on that address; and after
the form was saved, the address of the session and the settings of the next start are those of the
settings. -/
theorem copies_agree (s : Settings) (a : App) (f : SettingsForm) (home : String) :
    (s.normal.normal = s.normal ↔ ¬ Server.Ragged s.apiUrl) ∧
    (∀ user : Option User,
      (Session.start s.normal.apiUrl user).base = s.normal.apiUrl ↔ ¬ Server.Ragged s.apiUrl) ∧
    ((a.store.save (f.settings a.settings)).2 = .ok () →
      ((a.saveSettings f).session.base = (a.saveSettings f).settings.apiUrl ∧
          (App.start home (a.saveSettings f).store).1.settings = (a.saveSettings f).settings ↔
        ¬ Server.Ragged f.apiUrl)) := by
  refine ⟨Settings.normal_normal_iff s, fun user => ?_, fun h => ?_⟩
  · rw [Session.start_base, Settings.normal_apiUrl]
    exact Server.normalBase_normalBase_iff s.apiUrl
  · rw [start_saved home h, saveSettings_settings, saveSettings_session, Session.start_base]
    constructor
    · rintro ⟨hbase, -⟩
      exact normalBase_settings_iff.mp hbase
    · intro hsmooth
      have hnormal := (settings_normal_iff (a := a)).mpr hsmooth
      refine ⟨normalBase_settings_iff.mpr hsmooth, ?_⟩
      rw [hnormal, hnormal]

/-- An address with blanks around it and slashes at its end is saved: all copies are the same. -/
theorem copies_agree_of_slashes :
    let a := (App.start "" (.directory .empty)).1
    let f : SettingsForm := ⟨" https://lb.example/1// ", "rob", "token", "25", "1000"⟩
    (a.store.save (f.settings a.settings)).2 = .ok () ∧
      (a.saveSettings f).session.base = (a.saveSettings f).settings.apiUrl ∧
      (App.start "" (a.saveSettings f).store).1.settings = (a.saveSettings f).settings := by
  intro a f
  have hsaved : (a.store.save (f.settings a.settings)).2 = .ok () := rfl
  have hsmooth : ¬ Server.Ragged f.apiUrl := by
    rw [← Server.normalBase_normalBase_iff]
    decide
  exact ⟨hsaved, ((copies_agree {} a f "").2.2 hsaved).mpr hsmooth⟩

/-- An address that ends in a blank and a slash is saved: the slash goes and the blank stays in the
settings, the session is on the address without the blank, and so is the next start. -/
theorem copies_disagree :
    let a := (App.start "" (.directory .empty)).1
    let f : SettingsForm := ⟨"https://lb.example/1 /", "rob", "token", "25", "1000"⟩
    (a.store.save (f.settings a.settings)).2 = .ok () ∧
      (a.saveSettings f).settings.apiUrl = "https://lb.example/1 " ∧
      (a.saveSettings f).settings.normal ≠ (a.saveSettings f).settings ∧
      (a.saveSettings f).session.base = "https://lb.example/1" ∧
      (App.start "" (a.saveSettings f).store).1.settings.apiUrl = "https://lb.example/1" := by
  intro a f
  have hsaved : (a.store.save (f.settings a.settings)).2 = .ok () := rfl
  have hstart := start_saved "" hsaved
  refine ⟨hsaved, by decide, by decide, by decide, ?_⟩
  rw [hstart]
  decide

end App

end ListenDeck
