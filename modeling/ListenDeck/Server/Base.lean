import ListenDeck.Text.Blank

/-!
# The server's address

A server is named by the text its addresses start with. Blanks around the text and slashes at its
end do not count, and the empty text stands for the public server.

* `Server.normalBase`: the text in normal form.
-/

namespace ListenDeck.Server

open Text

/-- The address of the public server. -/
def defaultBase : String := "https://api.listenbrainz.org/1"

/-- The address without blanks around it and slashes at its end; the public server if nothing is
left. -/
def normalBase (address : String) : String :=
  let bare := dropEndSlashes (trim address)
  if bare = "" then defaultBase else bare

end ListenDeck.Server
