import ListenDeck.Alerts.Queue
import ListenDeck.Pages.Listens
import ListenDeck.Pages.PinDialog
import ListenDeck.Pages.Pins
import ListenDeck.Pages.Playlist
import ListenDeck.Pages.Settings
import ListenDeck.Server.Request
import ListenDeck.Settings.Store

/-!
# The application

One page at a time, the alerts over it, the pin dialog over both, and what they share: the settings,
the session and the clock. A page that is left is gone, with all it waited for; replies to its calls
are recognised by the page's number and count for nothing.

* `App`: the state.
* `App.start`: reads the settings and opens the first page.
* `App.update`: something the user does.
* `App.receive`: the reply to a call.
* `App.pass`: time passes.
-/

namespace ListenDeck

/-- What can be looked at. -/
inductive View where
  | listens
  | pins
  | playlist
  | settings
  deriving DecidableEq, Repr, Inhabited

/-- The name of a view in the header. -/
def View.title : View → String
  | .listens => "Recent listens"
  | .pins => "Pinned recordings"
  | .playlist => "Playlist"
  | .settings => "Settings"

/-- The page that is open. -/
inductive Page where
  /-- A page that needs a user, while there is none. -/
  | nobody
  | listens (page : ListensPage)
  | pins (page : PinsPage)
  | playlist (page : PlaylistPage)
  | settings (form : SettingsForm)
  deriving Repr, Inhabited

/-- Who waits for the reply to a call. -/
inductive Owner where
  /-- The page of a number. -/
  | page (number : Nat)
  | dialog
  deriving DecidableEq, Repr, Inhabited

/-- A call of the application that is not answered yet. -/
structure Pending where
  owner : Owner
  /-- The server it is for. -/
  base : String
  errand : Errand
  deriving DecidableEq, Repr

/-- The application. -/
structure App where
  settings : Settings := {}
  session : Session
  /-- How long alerts stay, in milliseconds. -/
  alertTimeout : Nat
  view : View := .listens
  page : Page := .nobody
  /-- The number of pages opened so far. -/
  opened : Nat := 0
  alerts : AlertQueue := {}
  dialog : PinDialog := {}
  store : Store
  /-- The directory the store is in. -/
  home : String
  /-- Milliseconds since the start. -/
  now : Nat := 0
  deriving Repr, Inhabited

namespace App

/-- What the user can do. -/
inductive Message where
  | look (view : View)
  | dismiss (alert : Nat)
  | listens (message : ListensPage.Message)
  | pins (message : PinsPage.Message)
  | playlist (message : PlaylistPage.Message)
  | settings (message : SettingsForm.Message)
  | dialog (message : PinDialog.Message)
  deriving Repr, Inhabited

/-- The application after something happened, and the calls it makes. -/
abbrev Turn := App × List Pending

/-! ## Effects -/

/-- The user is told something. -/
def notify (a : App) (notice : Notice) : App :=
  { a with alerts := a.alerts.raise a.now a.alertTimeout notice }

/-- The settings become others, and the store keeps them if it can. -/
def keep (a : App) (settings : Settings) : App :=
  { a with settings, store := (a.store.save settings).1 }

/-- What is said after an attempt to save the settings. -/
def savedNotice (home : String) : Except Store.Error Unit → Notice
  | .ok () => ⟨.success, "Settings saved", ""⟩
  | .error e => ⟨.danger, "Could not save settings", e.message home⟩

/-- The settings become others, and the user is told whether the store could keep them. -/
def keepLoudly (a : App) (settings : Settings) : App :=
  (a.keep settings).notify (savedNotice a.home (a.store.save settings).2)

/-- The playlist is the one to start with next time. -/
def remember (a : App) (mbid : String) : App :=
  if a.settings.lastPlaylist = some mbid then a
  else a.keep { a.settings with lastPlaylist := some mbid }

/-- What is done for an owner. -/
def apply (owner : Owner) (t : Turn) : PageEffect → Turn
  | .ask errand => (t.1, t.2 ++ [⟨owner, t.1.session.base, errand⟩])
  | .notify notice => (t.1.notify notice, t.2)
  | .request _ => t
  | .choose item => ({ t.1 with dialog := t.1.dialog.choose item }, t.2)
  | .remember mbid => (t.1.remember mbid, t.2)

/-- What is done for an owner, in order. -/
def applyAll (a : App) (owner : Owner) (effects : List PageEffect) : Turn :=
  effects.foldl (apply owner) (a, [])

/-- The application with its page changed. -/
def turnPage (a : App) (page : Page) (effects : List PageEffect) : Turn :=
  { a with page }.applyAll (.page a.opened) effects

/-- The application with its dialog changed. -/
def turnDialog (a : App) (t : PageTurn PinDialog) : Turn :=
  { a with dialog := t.1 }.applyAll .dialog t.2

/-! ## Time -/

/-- The page without the items whose grace is over. -/
def elapsePage (now : Nat) : Page → Page
  | .listens p => .listens (p.elapse now)
  | .pins p => .pins (p.elapse now)
  | .playlist p => .playlist (p.elapse now)
  | p => p

/-- What is due happens: alerts go away and items leave their lists. -/
def settleTime (a : App) : App :=
  { a with alerts := a.alerts.expire a.now, page := elapsePage a.now a.page }

/-- Time passes. -/
def pass (a : App) (ms : Nat) : App := { a with now := a.now + ms }.settleTime

/-! ## Pages -/

/-- The page of a view when it is opened, and what it has done. -/
def pageOf (a : App) : View → PageTurn Page
  | .settings => (.settings (.of a.settings), [])
  | .playlist =>
    let (p, effects) := PlaylistPage.start a.settings
    (.playlist p, effects)
  | .listens =>
    match a.session.userName with
    | none => (.nobody, [])
    | some user =>
      let (p, effects) := ListensPage.start user a.settings
      (.listens p, effects)
  | .pins =>
    match a.session.userName with
    | none => (.nobody, [])
    | some user =>
      let (p, effects) := PinsPage.start user a.settings
      (.pins p, effects)

/-- Opens the page of a view; the page before it is gone. -/
def visit (a : App) (view : View) : Turn :=
  let (page, effects) := a.pageOf view
  { a with view, opened := a.opened + 1 }.turnPage page effects

/-- The application when it starts on a store in a directory. Without readable settings it has the
defaults. -/
def start (home : String) (store : Store) : Turn :=
  let store := store.prepare.1
  let settings := match store.load with
    | .ok s => s
    | .error _ => {}
  let a : App := {
    settings
    session := .start settings.apiUrl settings.user
    alertTimeout := settings.alertTimeoutMs.toNat
    store, home }
  let (a, calls) := a.visit .listens
  (a.settleTime, calls)

/-! ## The user -/

/-- The settings of the form are put to use: they are the settings now, and a new session begins. -/
def saveSettings (a : App) (f : SettingsForm) : App :=
  let settings := f.settings a.settings
  { a with
    page := .settings (f.saved settings)
    session := .start settings.apiUrl settings.user }.keepLoudly settings

/-- The user leaves. -/
def signOut (a : App) (f : SettingsForm) : App :=
  { a with page := .settings f.signedOut, session := a.session.signOut }.keepLoudly
    { a.settings with user := none }

/-- Something the user does. What belongs to a page that is not open does nothing. -/
def perform (a : App) : Message → Turn
  | .look view => if view = a.view then (a, []) else a.visit view
  | .dismiss alert => ({ a with alerts := a.alerts.dismiss alert }, [])
  | .dialog m => a.turnDialog (a.dialog.update a.session m)
  | .listens m =>
    match a.page with
    | .listens p =>
      let (p, effects) := p.update a.session a.settings m
      a.turnPage (.listens p) effects
    | _ => (a, [])
  | .pins m =>
    match a.page with
    | .pins p =>
      let (p, effects) := p.update a.session a.settings m
      a.turnPage (.pins p) effects
    | _ => (a, [])
  | .playlist m =>
    match a.page with
    | .playlist p =>
      let (p, effects) := p.update a.session a.settings m
      a.turnPage (.playlist p) effects
    | _ => (a, [])
  | .settings m =>
    match a.page, m with
    | .settings f, .type field text => ({ a with page := .settings (f.type text field) }, [])
    | .settings f, .save => (a.saveSettings f, [])
    | .settings f, .signOut => (a.signOut f, [])
    | _, _ => (a, [])

/-- Something the user does, and what is due then. -/
def update (a : App) (m : Message) : Turn :=
  let (a, calls) := a.perform m
  (a.settleTime, calls)

/-! ## Replies -/

/-- The reply to an errand of the page that is open. -/
def answerPage (a : App) : (e : Errand) → Except ServerError e.call.Result → Turn
  | .listens _ _, reply =>
    match a.page with
    | .listens p =>
      let (p, effects) := p.listensCame reply
      a.turnPage (.listens p) effects
    | _ => (a, [])
  | .scores _ listens, reply =>
    match a.page with
    | .listens p =>
      let (p, effects) := p.scoresCame listens reply
      a.turnPage (.listens p) effects
    | _ => (a, [])
  | .page request _ _ _, reply =>
    match a.page with
    | .pins p =>
      let (p, effects) := p.pageCame request reply
      a.turnPage (.pins p) effects
    | _ => (a, [])
  | .playlist mbid, reply =>
    match a.page with
    | .playlist p =>
      let (p, effects) := p.playlistCame mbid reply
      a.turnPage (.playlist p) effects
    | _ => (a, [])
  | .change card item m grace, reply =>
    match a.page with
    | .listens p =>
      let (p, effects) := p.changed a.now card item m grace reply
      a.turnPage (.listens p) effects
    | .pins p =>
      let (p, effects) := p.changed a.now card item m grace reply
      a.turnPage (.pins p) effects
    | .playlist p =>
      let (p, effects) := p.changed a.now card item m grace reply
      a.turnPage (.playlist p) effects
    | _ => (a, [])

/-- The reply to a call; one of a page that is gone counts for nothing. -/
def answer (a : App) (c : Pending) (reply : Except ServerError c.errand.call.Result) : Turn :=
  match c, reply with
  | ⟨.page number, _, errand⟩, reply =>
    if number = a.opened then a.answerPage errand reply else (a, [])
  | ⟨.dialog, _, .change _ item m _⟩, reply => a.turnDialog (a.dialog.answered item m reply)
  | ⟨.dialog, _, _⟩, _ => (a, [])

/-- The reply to a call, and what is due then. -/
def receive (a : App) (c : Pending) (reply : Except ServerError c.errand.call.Result) : Turn :=
  let (a, calls) := a.answer c reply
  (a.settleTime, calls)

end App

end ListenDeck
