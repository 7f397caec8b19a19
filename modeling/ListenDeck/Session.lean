import ListenDeck.Json.Record
import ListenDeck.Server.Base

/-!
# Sessions

Who is acting, and on which server. A session without a user name is nobody's, and a user without
a token may look but not change anything.

* `User.of`: a user as it is typed in, without blanks around name and token.
* `Session.start`, `Session.signOut`: a session begins and ends.
* `Session.token`, `Session.isUser`: what the user may do, and who they are.
-/

namespace ListenDeck

/-- A user, as far as the server needs to know. -/
structure User where
  name : String
  authToken : String
  deriving DecidableEq, Repr, Inhabited

namespace User

/-- The user with the blanks around name and token removed. -/
def of (name authToken : String) : User := ⟨Text.trim name, Text.trim authToken⟩

/-- The user has a token. -/
def hasToken (u : User) : Bool := u.authToken ≠ ""

/-- The fields on the wire, in their order. -/
def fieldNames : List String := ["name", "auth_token"]

/-- The user as an object. -/
def toJson (u : User) : Json :=
  .object [("name", .string u.name), ("auth_token", .string u.authToken)]

/-- The user of a record. -/
def ofJson? (j : Json) : Option User :=
  if j.isRecord fieldNames then do
    let name ← Json.required Json.string? (j.slot 0 "name")
    let authToken ← Json.required Json.string? (j.slot 1 "auth_token")
    some { name, authToken }
  else none

end User

/-- Who is acting, and on which server. -/
structure Session where
  /-- The server's address in normal form. -/
  base : String
  user : Option User := none
  deriving DecidableEq, Repr, Inhabited

namespace Session

/-- A session on a server; a user without a name does not count. -/
def start (address : String) (user : Option User) : Session where
  base := Server.normalBase address
  user := user.filter (·.name ≠ "")

/-- The session of nobody. -/
def anonymous (address : String) : Session := start address none

/-- The name of the user. -/
def userName (s : Session) : Option String := s.user.map (·.name)

/-- The token of the user, unless it is empty. -/
def token (s : Session) : Option String := (s.user.filter (·.hasToken)).map (·.authToken)

/-- The name is the user's. The empty name is nobody's. -/
def isUser (s : Session) (name : Option String) : Bool :=
  match s.userName, name with
  | some own, some name => name ≠ "" && own = name
  | _, _ => false

/-- The session after its user left. -/
def signOut (s : Session) : Session := { s with user := none }

end Session

end ListenDeck
