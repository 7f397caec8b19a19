import ListenDeck.Text.Numeral

/-!
# Addresses

The address of something on a server, in parts that need no further escaping.

* `Url.text`: the address as it is written.
* `Url.addQuery`: the address with more at the end of its query.
-/

namespace ListenDeck

/-- Where something is within its server. -/
inductive UrlPath where
  /-- A text without parts, of a scheme that knows no hosts. -/
  | plain (text : String)
  | segments (segments : List String)
  deriving DecidableEq, Repr, Inhabited

/-- The address of something on a server. Credentials are not kept. -/
structure Url where
  scheme : String
  /-- The host, which may be empty in schemes that can do without. -/
  host : Option String := none
  /-- The port, unless it is the scheme's own. -/
  port : Option Nat := none
  path : UrlPath
  query : Option String := none
  fragment : Option String := none
  deriving DecidableEq, Repr, Inhabited

namespace Url

/-- The schemes with hosts and a hierarchy of paths, and their own ports. -/
def specialPorts : List (String × Option Nat) :=
  [("http", some 80), ("https", some 443), ("ws", some 80), ("wss", some 443), ("ftp", some 21),
    ("file", none)]

/-- The scheme is one of the special ones. -/
def isSpecialScheme (scheme : String) : Bool := specialPorts.any (·.1 = scheme)

/-- The port that a scheme has when none is given. -/
def ownPort (scheme : String) : Option Nat := (specialPorts.lookup scheme).join

/-- The address names a host. -/
def hasHost (u : Url) : Bool := u.host.any (· ≠ "")

/-- The address is one of the web. -/
def isWeb (u : Url) : Bool := u.scheme = "http" || u.scheme = "https"

/-- The path as it is written. -/
def pathText : UrlPath → String
  | .plain text => text
  | .segments l => String.join (l.map ("/" ++ ·))

/-- The host and port as they are written. A path that starts with an empty segment must not be
taken for a host. -/
def authorityText (u : Url) : String :=
  match u.host, u.path with
  | some host, _ => "//" ++ host ++ u.port.elim "" fun p => ":" ++ Text.decimal p
  | none, .segments ("" :: _ :: _) => "/."
  | none, _ => ""

/-- The address without query and fragment. -/
def bareText (u : Url) : String := u.scheme ++ ":" ++ u.authorityText ++ pathText u.path

/-- The address as it is written. -/
def text (u : Url) : String :=
  u.bareText ++ u.query.elim "" ("?" ++ ·) ++ u.fragment.elim "" ("#" ++ ·)

/-- The path and query, as they are sent. -/
def target (u : Url) : String := pathText u.path ++ u.query.elim "" ("?" ++ ·)

/-- The address with more at the end of its query. -/
def addQuery (u : Url) (more : String) : Url :=
  match u.query with
  | none => { u with query := some more }
  | some q => { u with query := some (if q = "" then more else q ++ "&" ++ more) }

end Url

end ListenDeck
