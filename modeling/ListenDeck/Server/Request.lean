import ListenDeck.Server.Answer
import ListenDeck.Url.Reader

/-!
# Requests

A call becomes a request to an address below the server's own, unless it cannot be sent. What comes
back settles it.

* `Call.send`: how a call starts, and `Call.request?`, the request it may send.
* `Call.settle`: the result of a call whose request was sent.
* `Network`: the way to the server, and the calls over it.
-/

namespace ListenDeck

open Text

/-- What a request does. -/
inductive Method where
  | get
  | post
  deriving DecidableEq, Repr, Inhabited

/-- What is sent to the server. -/
structure Request where
  method : Method
  url : Url
  token : Option String := none
  body : Option Json := none
  deriving Inhabited

/-- What becomes of a request. -/
inductive Reply where
  /-- It is not answered. -/
  | lost
  | answered (status : Nat) (body : List UInt8)
  deriving DecidableEq, Repr, Inhabited

/-- A call that needs no server, cannot be sent, or is sent. -/
inductive Sending (c : Call) where
  | unsent (result : Except ServerError c.Result)
  | sent (request : Request)

namespace Server

/-- The text of a call's address below the server's. -/
def endpoint (base path : String) : String :=
  base ++ "/" ++ String.ofList (path.toList.dropWhile (· == '/'))

/-- Names and values as a query. -/
def queryText (l : List (String × String)) : String :=
  "&".intercalate (l.map fun p => formText p.1 ++ "=" ++ formText p.2)

/-- A character that no header may hold. -/
def isHeaderControl (c : Char) : Bool := (c.toNat < 0x20 && c ≠ '\t') || c.toNat = 0x7F

/-- A failure to put a request together. -/
def unbuildable : ServerError := .network "builder error"

/-- A failure to put together a request to an address. -/
def unbuildableFor (u : Url) : ServerError :=
  .network ("builder error for url (" ++ u.text ++ ")")

/-- A failure to get an answer from an address. -/
def unreachable (u : Url) : ServerError :=
  .network ("error sending request for url (" ++ u.text ++ ")")

/-- The characters of a host that cannot be sent. -/
def unsendable : List Char := ['"', Char.ofNat 0x60, '{', '}']

/-- The longest address that can be sent. -/
def longestAddress : Nat := 65534

/-- A request to the address can be sent: it is one of the web, its host can be written down, and it
is not too long. -/
def isSendable (u : Url) : Bool :=
  u.isWeb && !(u.host.getD "").toList.any unsendable.contains &&
    u.text.utf8ByteSize ≤ longestAddress

/-- The body an answer with that status has. -/
def sentBody (status : Nat) (body : List UInt8) : List UInt8 :=
  if status = 204 || status = 304 then [] else body

end Server

open Server

namespace Call

/-- The address of the call with its query. -/
def withQuery (c : Call) (u : Url) : Url :=
  if c.query.isEmpty then u else u.addQuery (queryText c.query)

/-- What the call does on the wire. -/
def method : Call → Method
  | .change _ => .post
  | _ => .get

/-- The request of a call to a server, or why there is none: its address must be one, with a host;
the token must fit in a header; and the address must be one that can be sent to. -/
def request? (c : Call) (base : String) : Except ServerError Request :=
  match Url.parse? (endpoint base c.path) with
  | none => .error unbuildable
  | some u =>
    if !u.hasHost then .error (unbuildableFor u)
    else if (c.token.getD "").toList.any isHeaderControl then .error unbuildable
    else if !isSendable (c.withQuery u) then .error (unbuildableFor (c.withQuery u))
    else .ok { method := c.method, url := c.withQuery u, token := c.token, body := c.body }

/-- The scores of no recordings are known without asking. -/
def known? : (c : Call) → Option c.Result
  | .scores _ [] => some ([] : Scores)
  | _ => none

/-- How a call to a server starts. -/
def send (c : Call) (base : String) : Sending c :=
  match c.known? with
  | some r => .unsent (.ok r)
  | none =>
    match c.request? base with
    | .error e => .unsent (.error e)
    | .ok r => .sent r

/-- The result of a call whose request got that reply. -/
def settle (c : Call) (r : Request) : Reply → Except ServerError c.Result
  | .lost => .error (unreachable r.url)
  | .answered status body =>
    let body := sentBody status body
    if isSuccess status then c.read status body
    else .error (.status status (refusalMessage status body))

end Call

/-- The way to the server. -/
structure Network where
  /-- Requests arrive. -/
  connected : Bool
  /-- What becomes of a request that arrives. -/
  answer : Request → Reply

namespace Network

/-- No request arrives anywhere. -/
def down : Network := ⟨false, fun _ => .lost⟩

/-- What becomes of a request. -/
def reply (n : Network) (r : Request) : Reply := if n.connected then n.answer r else .lost

/-- The result of a call to a server, and the requests that arrived there. -/
def perform (n : Network) (base : String) (c : Call) : List Request × Except ServerError c.Result :=
  match c.send base with
  | .unsent result => ([], result)
  | .sent r => (if n.connected then [r] else [], c.settle r (n.reply r))

end Network

end ListenDeck
