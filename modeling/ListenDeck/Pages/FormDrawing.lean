import ListenDeck.Cards.Drawing
import ListenDeck.Pages.PinDialog
import ListenDeck.Pages.Settings

/-!
# Forms as they are drawn

* `SettingsForm.draw`: the settings form.
* `PinDialog.draw`: the pin dialog, while an item is chosen.
-/

namespace ListenDeck

open Markup

variable {μ : Type}

/-! ## Settings -/

/-- A field of the settings form under its name. -/
def namedField (name : String) (field : Markup μ) : Markup μ :=
  styled "label" "block space-y-1"
    [labelled "span" "text-xs font-semibold uppercase tracking-wider text-zinc-500" name, field]

/-- How the fields of the settings form are styled. -/
def fieldStyle (width : String) : String :=
  width ++ " rounded-xl bg-zinc-800 px-3 py-2 text-sm text-white"

/-- A field of the settings form with its text. -/
def field (width : String) (more : List (Attribute μ)) (text : String) (typed : String → μ) :
    Markup μ :=
  .element "input"
    ([.text "class" (fieldStyle width)] ++ more ++ [.text "value" text, .onInput typed]) []

/-- Who is signed in, with a way out. -/
def accountBox (name : String) (message : μ) : Markup μ :=
  styled "div"
    "flex items-center justify-between rounded-xl bg-zinc-900 border border-zinc-800 p-4"
    [styled "p" "text-sm text-zinc-300"
        [.text "Signed in as ", labelled "span" "font-semibold text-white" name],
      .element "button"
        [.text "class" "px-3 py-1.5 rounded-lg text-sm text-red-300 hover:bg-red-500/10",
          .onClick message]
        [.text "Sign out"]]

/-- The bounds of the page size as text. -/
def pageSizeBounds : String × String :=
  (Text.decimal Settings.minPageSize.toNat, Text.decimal Settings.maxPageSize.toNat)

/-- The settings form. -/
def SettingsForm.draw (f : SettingsForm) (o : Onlooker) (send : SettingsForm.Message → μ) :
    List (Markup μ) :=
  let (low, high) := pageSizeBounds
  let typed (which : SettingsForm.Field) (s : String) : μ := send (.type which s)
  [styled "div" "max-w-xl space-y-6" <|
    labelled "h1" "text-2xl font-bold text-white" "Settings" ::
      (o.session.userName.map fun name => accountBox name (send .signOut)).toList ++
      [.element "form" [.text "class" "space-y-4", .onSubmit (send .save)]
        [namedField "API URL" (field "w-full" [] f.apiUrl (typed .apiUrl)),
          namedField "User name" (field "w-full" [] f.userName (typed .userName)),
          namedField "User token"
            (field "w-full" [.text "type" "password"] f.token (typed .token)),
          namedField ("Items per page (" ++ low ++ "-" ++ high ++ ")")
            (field "w-32" [.text "type" "number", .text "min" low, .text "max" high] f.pageSize
              (typed .pageSize)),
          namedField "Removal delay after delete (ms)"
            (field "w-32" [.text "type" "number", .text "min" "0"] f.grace (typed .grace)),
          .element "button"
            [.text "class" "px-4 py-2 rounded-xl bg-emerald-500 text-white text-sm font-medium",
              .text "type" "submit"]
            [.text "Save"]]]]

/-! ## The pin dialog -/

/-- The dialog for an item. -/
def PinDialog.drawFor (d : PinDialog) (item : Item) (o : Onlooker)
    (send : PinDialog.Message → μ) : Markup μ :=
  styled "div" "fixed inset-0 z-40 flex items-center justify-center bg-black/60 backdrop-blur-sm"
    [styled "div" "w-full max-w-md rounded-2xl bg-zinc-900 border border-zinc-800 p-6 space-y-4"
      [styled "div" "flex items-center justify-between"
          [labelled "h2" "text-lg font-semibold text-white" "Pin this track",
            iconButton "p-2 rounded-lg text-zinc-400 hover:text-white" "Close" (send .close)
              [Icon.cross.draw "w-4 h-4"]],
        styled "p" "text-sm text-zinc-300"
          [.text (item.trackName ++ " "),
            labelled "span" "text-zinc-500" ("by " ++ item.artistName)],
        .element "textarea"
          [.text "class" "w-full rounded-xl bg-zinc-800 p-3 text-sm text-white",
            .text "placeholder" "Let your followers know why you are showcasing this track",
            .text "maxlength" "280", .text "value" d.blurb, .onInput fun s => send (.type s)] [],
        .element "button"
          [.text "class"
              "w-full py-2 rounded-xl bg-emerald-500 text-white font-medium disabled:opacity-50",
            .flag "disabled" (d.submitting || o.session.token.isNone), .onClick (send .submit)]
          [.text "Pin track"]]]

/-- The dialog, while an item is chosen. -/
def PinDialog.draw (d : PinDialog) (o : Onlooker) (send : PinDialog.Message → μ) :
    List (Markup μ) :=
  (d.chosen.map fun item => d.drawFor item o send).toList

end ListenDeck
