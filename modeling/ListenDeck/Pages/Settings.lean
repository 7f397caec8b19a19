import ListenDeck.Settings.Basic

/-!
# The settings form

What the user types in before it becomes settings. A number that cannot be read leaves the setting
as it was.

* `SettingsForm.of`: the form filled in from settings.
* `SettingsForm.settings`: the settings of the form, in normal form.
* `SettingsForm.saved`, `SettingsForm.signedOut`: the form after it was saved, and after the user
  left.
-/

namespace ListenDeck

/-- What stands in the fields of the settings form. -/
structure SettingsForm where
  apiUrl : String
  userName : String
  token : String
  pageSize : String
  grace : String
  deriving DecidableEq, Repr, Inhabited

namespace SettingsForm

/-- The fields of the form. -/
inductive Field where
  | apiUrl
  | userName
  | token
  | pageSize
  | grace
  deriving DecidableEq, Repr, Inhabited

/-- What the user can do on the form. -/
inductive Message where
  | type (field : Field) (text : String)
  | save
  | signOut
  deriving Repr, Inhabited

/-- The form filled in from settings. -/
def of (s : Settings) : SettingsForm where
  apiUrl := s.apiUrl
  userName := s.user.elim "" (·.name)
  token := s.user.elim "" (·.authToken)
  pageSize := Text.decimal s.pageSize.toNat
  grace := Text.decimal s.removalGraceMs.toNat

/-- The form with another text in a field. -/
def type (f : SettingsForm) (text : String) : Field → SettingsForm
  | .apiUrl => { f with apiUrl := text }
  | .userName => { f with userName := text }
  | .token => { f with token := text }
  | .pageSize => { f with pageSize := text }
  | .grace => { f with grace := text }

/-- The settings of the form, in normal form; `current` gives what the form does not. -/
def settings (f : SettingsForm) (current : Settings) : Settings :=
  Settings.normal { current with
    apiUrl := f.apiUrl
    pageSize := (Text.readUInt32? (Text.trim f.pageSize)).getD current.pageSize
    removalGraceMs := (Text.readUInt64? (Text.trim f.grace)).getD current.removalGraceMs
    user := some (User.of f.userName f.token) }

/-- The form after its settings were saved: two fields show what was made of them. -/
def saved (f : SettingsForm) (s : Settings) : SettingsForm :=
  { f with apiUrl := s.apiUrl, pageSize := Text.decimal s.pageSize.toNat }

/-- The form after the user left. -/
def signedOut (f : SettingsForm) : SettingsForm := { f with userName := "", token := "" }

end SettingsForm

end ListenDeck
