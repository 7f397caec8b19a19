import ListenDeck.Session
import ListenDeck.Json.Printer

/-!
# Settings

What the application remembers between two runs.

* `Settings.normal`: the values within their bounds, without blanks that do not count.
* `Settings.toJson`, `Settings.ofJson?`: the wire form; every field has a default.
* `Settings.render`, `Settings.read?`: the stored text.
-/

namespace ListenDeck

/-- What the application remembers between two runs. -/
structure Settings where
  apiUrl : String := Server.defaultBase
  pageSize : UInt32 := 25
  removalGraceMs : UInt64 := 1000
  alertTimeoutMs : UInt64 := 6000
  user : Option User := none
  lastPlaylist : Option String := none
  deriving DecidableEq, Repr, Inhabited

namespace Settings

/-- The fewest items of a page. -/
def minPageSize : UInt32 := 1

/-- The most items of a page. -/
def maxPageSize : UInt32 := 100

/-- A page size within its bounds. -/
def clampPageSize (n : UInt32) : UInt32 :=
  if n < minPageSize then minPageSize else if maxPageSize < n then maxPageSize else n

/-- The settings in normal form: the server's address as `Server.normalBase` gives it, the page size
within its bounds, no blanks around names and ids, and no empty user name or playlist id. -/
def normal (s : Settings) : Settings :=
  { s with
    apiUrl := Server.normalBase s.apiUrl
    pageSize := clampPageSize s.pageSize
    user := (s.user.map fun u => User.of u.name u.authToken).filter (·.name ≠ "")
    lastPlaylist := (s.lastPlaylist.map Text.trim).filter (· ≠ "") }

/-! ## Wire form -/

/-- The fields on the wire, in their order. -/
def fieldNames : List String :=
  ["api_url", "page_size", "removal_grace_ms", "alert_timeout_ms", "user", "last_playlist_mbid"]

/-- The settings as an object with all its fields. -/
def toJson (s : Settings) : Json :=
  .object [("api_url", .string s.apiUrl), ("page_size", Json.ofUInt32 s.pageSize),
    ("removal_grace_ms", Json.ofUInt64 s.removalGraceMs),
    ("alert_timeout_ms", Json.ofUInt64 s.alertTimeoutMs),
    ("user", Json.ofOption User.toJson s.user),
    ("last_playlist_mbid", Json.ofOption .string s.lastPlaylist)]

/-- The settings of a record. -/
def ofJson? (j : Json) : Option Settings :=
  if j.isRecord fieldNames then do
    let apiUrl ← Json.withDefault Server.defaultBase Json.string? (j.slot 0 "api_url")
    let pageSize ← Json.withDefault 25 Json.uint32? (j.slot 1 "page_size")
    let removalGraceMs ← Json.withDefault 1000 Json.uint64? (j.slot 2 "removal_grace_ms")
    let alertTimeoutMs ← Json.withDefault 6000 Json.uint64? (j.slot 3 "alert_timeout_ms")
    let user ← Json.optional User.ofJson? (j.slot 4 "user")
    let lastPlaylist ← Json.optional Json.string? (j.slot 5 "last_playlist_mbid")
    some { apiUrl, pageSize, removalGraceMs, alertTimeoutMs, user, lastPlaylist }
  else none

/-- The text of the settings. -/
def render (s : Settings) : String := s.toJson.render

/-- The settings of a text. -/
def read? (text : String) : Option Settings := (Json.parse? text).bind ofJson?

end Settings

end ListenDeck
