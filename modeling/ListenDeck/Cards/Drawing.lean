import ListenDeck.Actions.Permission
import ListenDeck.Cards.Message
import ListenDeck.Markup.Icon
import ListenDeck.Time.Age

/-!
# Cards as they are drawn

A card shows its item, whether it is playing or deleted, and the buttons its user may press.

* `drawListenCard`: the card of a listen or pin.
* `drawTrackCard`: the card of a track of a playlist.
-/

namespace ListenDeck

open Markup

variable {μ : Type}

/-- Who looks at cards, when, in seconds since 1970, and in which time zone. -/
structure Onlooker where
  session : Session
  today : Int
  zone : Zone
  deriving Inhabited

/-- A button with an accessible name and something in it. -/
def iconButton (style name : String) (message : μ) (content : List (Markup μ)) : Markup μ :=
  .element "button" [.text "class" style, .text "aria-label" name, .onClick message] content

/-! ## Listens and pins -/

/-- When the item happened, in words. -/
def momentText (o : Onlooker) : Item → Option String
  | .listen l =>
    if l.playingNow then some "Playing now"
    else ageText? (l.listenedAt.map (·.toInt)) o.today o.zone
  | .pin p => ageText? (some p.created.toInt) o.today o.zone
  | .track _ => none

/-- What the user said of an item. -/
def blurbOf : Item → Option String
  | .pin p => p.blurb
  | _ => none

/-- How a card of a listen or pin is styled. -/
def listenCardStyle (deleted playing : Bool) : String :=
  (if deleted then "listen-card deleted opacity-40 pointer-events-none"
    else if playing then "listen-card current-listen bg-emerald-500/5"
    else "listen-card hover:bg-zinc-800/50") ++
    " w-full flex items-center gap-4 p-3 rounded-xl transition-colors group"

/-- The play button of a card of a listen or pin. -/
def playButton (playing : Bool) (message : μ) : Markup μ :=
  iconButton ("w-10 h-10 rounded bg-zinc-800 flex items-center justify-center flex-shrink-0 " ++
      "text-zinc-300 hover:text-emerald-400") "Play" message
    [if playing then Icon.equalizer.draw "w-4 h-4 text-emerald-400" else Icon.play.draw "w-4 h-4"]

/-- The names on a card. -/
def namesOf (item : Item) (playing : Bool) : Markup μ :=
  styled "div" "flex-1 min-w-0 text-left" <|
    [labelled "p"
        (if playing then "text-sm font-medium text-emerald-400 truncate"
          else "text-sm font-medium text-white truncate") item.trackName,
      styled "p" "text-xs text-zinc-400 truncate" <|
        .text item.artistName ::
          (item.releaseName.map fun r => labelled "span" "text-zinc-500" (" · " ++ r)).toList] ++
      ((blurbOf item).map fun b =>
        labelled "p" "text-xs italic text-zinc-500 truncate" ("\"" ++ b ++ "\"")).toList

/-- When the item of a card happened. -/
def momentOf (o : Onlooker) (item : Item) : Markup μ :=
  styled "div" "hidden sm:flex flex-col items-end text-xs text-zinc-500"
    ((momentText o item).map (labelled "span" "listen-time")).toList

/-- The two buttons for scores. -/
def scoreButtons (score : Score) (send : CardMessage → μ) : Markup μ :=
  let loved := decide (score = .loved)
  let hated := decide (score = .hated)
  styled "div" "flex items-center gap-1"
    [iconButton
        (if loved then "p-2 text-emerald-400" else "p-2 text-zinc-500 hover:text-emerald-400")
        "Love" (send (.rate .loved)) [(Icon.heart loved).draw "w-4 h-4"],
      iconButton
        (if hated then "p-2 text-red-400" else "p-2 text-zinc-500 hover:text-red-400")
        "Hate" (send (.rate .hated)) [(Icon.brokenHeart hated).draw "w-4 h-4"]]

/-- The user may delete the item; `owner` is whose page it is on, if it is a page of pins. -/
def Session.canDelete (s : Session) (owner : Option String) (item : Item) : Bool :=
  match item, owner with
  | .pin _, some owner => s.canDeletePin item owner
  | .listen _, _ => s.canDeleteListen item
  | _, _ => false

/-- The buttons that are shown while the pointer is over the card. -/
def hoverButtons (s : Session) (owner : Option String) (item : Item) (send : CardMessage → μ) :
    Markup μ :=
  let style := "p-2 rounded-lg text-zinc-500 hover:text-emerald-400"
  styled "div" "flex items-center gap-1 opacity-100 md:opacity-0 md:group-hover:opacity-100" <|
    only (s.canPin item)
        [iconButton style "Pin this track" (send .pin) [Icon.pin.draw "w-4 h-4"]] ++
      only (s.canRecommend item)
        [iconButton style "Recommend to my followers" (send .recommend)
          [Icon.share.draw "w-4 h-4"]] ++
      only (s.canDelete owner item)
        [iconButton "p-2 rounded-lg text-zinc-500 hover:text-red-400" "Delete" (send .delete)
          [Icon.trash.draw "w-4 h-4"]]

/-- The card of a listen or pin. -/
def drawListenCard {κ : Type} (o : Onlooker) (owner : Option String) (send : CardMessage → μ)
    (c : MountedCard κ) : Markup μ :=
  styled "div" (listenCardStyle c.deleted c.playing) <|
    [playButton c.playing (send .play), namesOf c.shown c.playing, momentOf o c.shown] ++
      only (o.session.canGiveFeedback c.shown) [scoreButtons c.score send] ++
      [hoverButtons o.session owner c.shown send]

/-! ## Tracks -/

/-- How a card of a track is styled. -/
def trackCardStyle (deleted playing : Bool) : String :=
  if deleted then
    "playlist-item-card deleted w-full flex items-center gap-4 p-3 rounded-xl opacity-40 " ++
      "pointer-events-none"
  else if playing then
    "playlist-item-card current-listen w-full flex items-center gap-4 p-3 rounded-xl " ++
      "bg-emerald-500/5 group"
  else
    "playlist-item-card w-full flex items-center gap-4 p-3 rounded-xl hover:bg-zinc-800/50 " ++
      "transition-colors group"

/-- Who added a track. -/
def addedByOf : Item → Option String
  | .track t => t.addedBy
  | _ => none

/-- How long a track is. -/
def lengthOf : Item → String
  | .track t => durationText t.durationMs
  | _ => ""

/-- The play button of a track, which shows its number in the list. -/
def trackPlayButton (playing : Bool) (place : Nat) (message : μ) : Markup μ :=
  iconButton "w-6 text-sm text-zinc-500 hover:text-white" "Play" message
    (if playing then [Icon.equalizer.draw "w-4 h-4 text-emerald-400"]
      else
        [labelled "span" "group-hover:hidden" (Text.decimal (place + 1)),
          styled "span" "hidden group-hover:block" [Icon.play.draw "w-4 h-4"]])

/-- The removal button of a track. -/
def removalButton (locked : Bool) (message : μ) : Markup μ :=
  .element "button"
    [.text "class" ("p-2 rounded-lg text-zinc-500 hover:text-red-400 opacity-100 md:opacity-0 " ++
        "md:group-hover:opacity-100 disabled:opacity-30"),
      .text "aria-label" "Remove from playlist", .flag "disabled" locked, .onClick message]
    [Icon.trash.draw "w-4 h-4"]

/-- The card of the track at a place of a playlist of that owner. -/
def drawTrackCard {κ : Type} (o : Onlooker) (owner : String) (locked : Bool)
    (send : CardMessage → μ) (place : Nat) (c : MountedCard κ) : Markup μ :=
  styled "div" (trackCardStyle c.deleted c.playing) <|
    [trackPlayButton c.playing place (send .play),
      styled "div" "flex-1 min-w-0 text-left"
        [labelled "p" "text-sm font-medium text-white truncate" c.shown.trackName,
          labelled "p" "text-xs text-zinc-400 truncate" c.shown.artistName]] ++
      ((addedByOf c.shown).map fun name =>
        labelled "span" "hidden md:block text-xs text-zinc-500" ("added by " ++ name)).toList ++
      [labelled "span" "text-sm text-zinc-500" (lengthOf c.shown)] ++
      only (o.session.canEditPlaylist owner) [removalButton locked (send .delete)]

end ListenDeck
