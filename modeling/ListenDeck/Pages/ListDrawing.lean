import ListenDeck.Cards.Drawing
import ListenDeck.Pages.Listens
import ListenDeck.Pages.Pins
import ListenDeck.Pages.Playlist

/-!
# Pages of cards as they are drawn

* `ListensPage.draw`, `PinsPage.draw`, `PlaylistPage.draw`: the three pages.
-/

namespace ListenDeck

open Markup

variable {μ : Type}

/-- The title of a page. -/
def pageTitle (s : String) : Markup μ := labelled "h1" "text-2xl font-bold text-white" s

/-- What is said instead of cards. -/
def emptyText (s : String) : Markup μ := labelled "p" "text-zinc-500 text-sm" s

/-! ## Recent listens -/

/-- The button that loads the listens again. -/
def refreshButton (loading : Bool) (message : μ) : Markup μ :=
  .element "button"
    [.text "class"
        "p-2 rounded-lg text-zinc-400 hover:text-white hover:bg-zinc-800 disabled:opacity-40",
      .text "aria-label" "Refresh", .flag "disabled" loading, .onClick message]
    [(if loading then Icon.loader else Icon.clock).draw "w-5 h-5"]

/-- The page of recent listens. -/
def ListensPage.draw (p : ListensPage) (o : Onlooker) (send : ListensPage.Message → μ) :
    List (Markup μ) :=
  [styled "div" "space-y-4"
    [styled "header" "flex items-center justify-between"
        [pageTitle "Recent listens", refreshButton p.loading (send .refresh)],
      styled "div" "space-y-1" <|
        only (p.items.isEmpty && !p.loading) [emptyText "No listens yet"] ++
          p.shelf.cards.map fun c => drawListenCard o none (fun m => send (.card c.serial m)) c]]

/-! ## Pins -/

/-- A button that turns the page. -/
def turnButton (enabled : Bool) (message : μ) (content : List (Markup μ)) : Markup μ :=
  .element "button"
    [.text "class" ("flex items-center gap-1 px-3 py-2 rounded-lg text-sm text-zinc-300 " ++
        "hover:bg-zinc-800 disabled:opacity-40"),
      .flag "disabled" (!enabled), .onClick message] content

/-- The page that is shown, among all pages. -/
def pageNumberText (s : PageState) : String :=
  "Page " ++ Text.decimal s.page ++ " of " ++ Text.decimal s.maxPage

/-- The page of pins. -/
def PinsPage.draw (p : PinsPage) (o : Onlooker) (send : PinsPage.Message → μ) : List (Markup μ) :=
  let s := p.told
  let isShort := !s.loading && s.items.length < p.browser.pager.config.pageSize
  [styled "div" "space-y-4"
    [styled "header" "flex items-center justify-between" <|
        pageTitle (if o.session.isUser (some p.user) then "Your pins" else "Pins by " ++ p.user) ::
          only s.loading [Icon.loader.draw "w-5 h-5 text-zinc-400"],
      .element "div"
        [.text "id" "pinned-recordings",
          .text "class" (if s.loading then "space-y-1 opacity-60" else "space-y-1")] <|
        only (s.items.isEmpty && !s.loading) [emptyText "No pins yet"] ++
          (p.shelf.cards.map fun c =>
            drawListenCard o (some p.user) (fun m => send (.card c.serial m)) c) ++
          only (isShort && !s.items.isEmpty)
            [labelled "p" "text-center text-sm text-zinc-500 py-4" "No more pins to show"],
      styled "nav" "flex items-center justify-between pt-2"
        [turnButton s.canGoNewer (send .newer) [Icon.chevronLeft.draw "w-4 h-4", .text "Newer"],
          labelled "span" "text-xs text-zinc-500" (pageNumberText s),
          turnButton s.canGoOlder (send .older) [.text "Older", Icon.chevronRight.draw "w-4 h-4"]]]]

/-! ## Playlists -/

/-- The form for the id of a playlist. -/
def PlaylistPage.drawForm (p : PlaylistPage) (send : PlaylistPage.Message → μ) : Markup μ :=
  .element "form" [.text "class" "flex items-center gap-2", .onSubmit (send .submit)]
    [.element "input"
        [.text "class" "flex-1 rounded-xl bg-zinc-800 px-3 py-2 text-sm text-white",
          .text "placeholder" "Playlist MBID", .text "value" p.field,
          .onInput fun s => send (.type s)] [],
      .element "button"
        [.text "class" "px-4 py-2 rounded-xl bg-emerald-500 text-white text-sm disabled:opacity-50",
          .text "type" "submit", .flag "disabled" p.loading]
        [if p.loading then Icon.loader.draw "w-4 h-4" else .text "Open"]]

/-- The playlist that is open. -/
def PlaylistPage.drawList (p : PlaylistPage) (list : Playlist) (o : Onlooker)
    (send : PlaylistPage.Message → μ) : List (Markup μ) :=
  [.element "header" []
      [pageTitle list.title, labelled "p" "text-sm text-zinc-400" ("by " ++ list.creator)],
    styled "div" "space-y-1" <|
      only list.tracks.isEmpty [emptyText "This playlist is empty"] ++
        p.shelf.cards.mapIdx fun place c =>
          drawTrackCard o list.creator p.locked (fun m => send (.card c.serial m)) place c]

/-- The page of a playlist. -/
def PlaylistPage.draw (p : PlaylistPage) (o : Onlooker) (send : PlaylistPage.Message → μ) :
    List (Markup μ) :=
  [styled "div" "space-y-4" <|
    p.drawForm send :: p.playlist.elim [] fun list => p.drawList list o send]

end ListenDeck
