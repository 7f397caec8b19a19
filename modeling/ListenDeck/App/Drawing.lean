import ListenDeck.App.Basic
import ListenDeck.Pages.FormDrawing
import ListenDeck.Pages.ListDrawing

/-!
# The application as it is drawn

The sidebar, the page that is open, the alerts over it and the pin dialog.

* `App.draw`: the whole document.
-/

namespace ListenDeck

open Markup

namespace App

/-! ## Sidebar -/

/-- How an entry of the sidebar is styled. -/
def entryStyle (active : Bool) : String :=
  "flex items-center gap-3 px-3 py-2.5 rounded-xl text-sm font-medium transition-all " ++
    "duration-200 cursor-pointer " ++
    (if active then
      "bg-gradient-to-r from-orange-500/20 to-rose-500/10 text-orange-300 shadow-sm"
    else "text-zinc-400 hover:text-white hover:bg-zinc-800/50") ++ " w-full"

/-- An entry of the sidebar. -/
def entry (a : App) (icon : Icon) (name : String) (view : View) : Markup Message :=
  .element "button"
    [.text "class" (entryStyle (decide (a.view = view))), .onClick (.look view)]
    [icon.draw "w-5 h-5", .element "span" [] [.text name]]

/-- The logo and who is signed in. -/
def banner (a : App) : Markup Message :=
  styled "div" "p-6 border-b border-zinc-800/50"
    [styled "div" "flex items-center gap-3"
      [labelled "div" ("w-10 h-10 rounded-xl bg-gradient-to-br from-orange-500 to-rose-600 flex " ++
          "items-center justify-center text-white font-bold text-lg") "B",
        .element "div" []
          [labelled "h1" "text-lg font-bold text-white" "BrainzCards",
            labelled "p" "text-xs text-zinc-500 truncate"
              (a.session.userName.getD "Not signed in")]]]

/-- The sidebar. -/
def sidebar (a : App) : Markup Message :=
  styled "aside"
    "w-64 bg-zinc-950/50 border-r border-zinc-800/50 flex flex-col h-full backdrop-blur-xl"
    [a.banner,
      styled "nav" "flex-1 overflow-y-auto p-4 space-y-1"
        [labelled "p" "text-xs font-semibold text-zinc-500 uppercase tracking-wider mb-3 px-3"
            "Library",
          a.entry .clock "Recent listens" .listens, a.entry .pin "Pins" .pins,
          a.entry .playlist "Playlist" .playlist],
      styled "div" "p-4 border-t border-zinc-800/50"
        [a.entry .settings "Settings" .settings]]

/-! ## Alerts -/

/-- An alert, with a way to dismiss it. -/
def drawAlert (alert : Alert) : Markup Message :=
  let n := alert.notice
  .element "div"
    [.text "class"
        (n.kind.cssClass ++ " rounded-xl border px-4 py-3 shadow-lg backdrop-blur-xl"),
      .text "role" "alert"]
    [styled "div" "flex items-start justify-between gap-3"
      [styled "div" "min-w-0" <|
          labelled "p" "text-sm font-semibold" n.title ::
            only (n.message ≠ "") [labelled "p" "text-xs opacity-80 break-words" n.message],
        iconButton "p-1 rounded hover:bg-black/20" "Dismiss" (.dismiss alert.number)
          [Icon.cross.draw "w-4 h-4"]]]

/-- The alerts, if there are any. -/
def drawAlerts (a : App) : List (Markup Message) :=
  only (!a.alerts.alerts.isEmpty)
    [styled "div" "fixed top-4 right-4 z-50 flex flex-col gap-2 w-80"
      (a.alerts.alerts.map drawAlert)]

/-! ## The whole -/

/-- What is said where a user is needed. -/
def signInText : String :=
  "Add your ListenBrainz user name and token in Settings to see your listens and pins."

/-- The page that is open. -/
def drawPage (a : App) (o : Onlooker) : List (Markup Message) :=
  match a.page with
  | .nobody => [labelled "p" "text-zinc-400 text-sm" signInText]
  | .listens p => p.draw o .listens
  | .pins p => p.draw o .pins
  | .playlist p => p.draw o .playlist
  | .settings f => f.draw o .settings

/-- The document on a day, in seconds since 1970, in a time zone. -/
def draw (a : App) (today : Int) (zone : Zone) : List (Markup Message) :=
  let o : Onlooker := { session := a.session, today, zone }
  [styled "div" "app-container flex min-h-screen text-white overflow-hidden"
    [a.sidebar,
      styled "div" "flex-1 flex flex-col overflow-hidden"
        [styled "header" "border-b border-zinc-800/60 bg-zinc-950/80 backdrop-blur-xl px-6 py-3"
            [labelled "span" "text-sm font-semibold text-white" a.view.title],
          styled "main" "flex-1 overflow-y-auto main-scroll"
            [styled "div" "page-shell p-6" (a.drawPage o)]]]] ++
    a.drawAlerts ++ a.dialog.draw o .dialog

end App

end ListenDeck
