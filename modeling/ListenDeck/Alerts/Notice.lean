/-!
# Notices

What the user is told about something that happened.

* `Notice`: its kind, title and message.
* `AlertKind.cssClass`: how a notice of a kind is shown.
-/

namespace ListenDeck

/-- How good or bad the news is. -/
inductive AlertKind where
  | success
  | warning
  | danger
  deriving DecidableEq, Repr, Inhabited

/-- The class of an alert of that kind. -/
def AlertKind.cssClass : AlertKind → String
  | .success => "alert alert-success"
  | .warning => "alert alert-warning"
  | .danger => "alert alert-danger"

/-- What the user is told about something that happened. -/
structure Notice where
  kind : AlertKind
  title : String
  message : String
  deriving DecidableEq, Repr, Inhabited

end ListenDeck
