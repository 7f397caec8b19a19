import ListenDeck.Settings.Basic

/-!
# The settings store

One row of a table in a database file, in a directory of its own below the data home. The store is
opened anew by every operation; opening makes the directory and an empty database where they are
missing, and fails where something else stands in their place.

* `Store.prepare`, `Store.save`, `Store.load`: the three operations.
* `Store.Error.message`: what is said when one fails.
* `Store.run`: a list of operations on a store.
-/

namespace ListenDeck

/-- What stands where the database file belongs. -/
inductive Database where
  /-- A database without the table, or none yet. -/
  | empty
  /-- The table, with the text of its row if there is one. -/
  | table (row : Option String)
  /-- A directory. -/
  | blocked
  deriving DecidableEq, Repr, Inhabited

/-- What stands where the data home belongs. -/
inductive Store where
  | directory (database : Database)
  /-- A file. -/
  | blocked
  deriving DecidableEq, Repr, Inhabited

namespace Store

/-- Why an operation failed. -/
inductive Error where
  | homeBlocked
  | databaseBlocked
  | noTable
  /-- The stored text is no settings text. -/
  | badText
  deriving DecidableEq, Repr, Inhabited

/-- What is said of a failure; `home` names the data home. -/
def Error.message (home : String) : Error → String
  | .homeBlocked => "Failed to create data directory: Not a directory (os error 20)"
  | .databaseBlocked =>
    "Failed to open database: unable to open database file: " ++ home ++
      "/brainzcards/brainzcards.db"
  | .noTable => "no such table: settings"
  | .badText => "stored settings cannot be read"

/-- A store that nothing was written to. -/
def fresh : Store := .directory .empty

/-- The database, once the store is open. -/
def opened : Store → Except Error Database
  | .blocked => .error .homeBlocked
  | .directory .blocked => .error .databaseBlocked
  | .directory d => .ok d

/-- The row of the table of an open store. -/
def row (s : Store) : Except Error (Option String) :=
  match s.opened with
  | .error e => .error e
  | .ok (.table r) => .ok r
  | .ok _ => .error .noTable

/-- Makes the table unless there is one. -/
def prepare (s : Store) : Store × Except Error Unit :=
  match s.opened with
  | .error e => (s, .error e)
  | .ok (.table r) => (.directory (.table r), .ok ())
  | .ok _ => (.directory (.table none), .ok ())

/-- Writes the settings in normal form into the row. -/
def save (s : Store) (settings : Settings) : Store × Except Error Unit :=
  match s.row with
  | .error e => (s, .error e)
  | .ok _ => (.directory (.table (some settings.normal.render)), .ok ())

/-- The settings of the row in normal form; the defaults if nothing was saved. -/
def load (s : Store) : Except Error Settings :=
  match s.row with
  | .error e => .error e
  | .ok none => .ok {}
  | .ok (some text) =>
    match Settings.read? text with
    | some settings => .ok settings.normal
    | none => .error .badText

/-! ## Accidents -/

/-- Another program writes a text into the row. -/
def putText (s : Store) (text : String) : Store :=
  match s with
  | .directory (.table _) => .directory (.table (some text))
  | s => s

/-- The data home is removed. -/
def removeAll (_ : Store) : Store := fresh

/-- A file takes the place of the data home. -/
def blockHome (_ : Store) : Store := .blocked

/-- A directory takes the place of the database file. -/
def blockDatabase (_ : Store) : Store := .directory .blocked

/-! ## Runs -/

/-- What can be done to a store. -/
inductive Operation where
  | prepare
  | save (settings : Settings)
  | load
  | putText (text : String)
  | removeAll
  | blockHome
  | blockDatabase
  deriving Repr

/-- What an operation answers. -/
inductive Answer where
  | done
  | loaded (settings : Settings)
  | failed (error : Error)
  | silent
  deriving DecidableEq, Repr

/-- The answer of an operation that only succeeds or fails. -/
def Answer.ofResult : Except Error Unit → Answer
  | .ok () => .done
  | .error e => .failed e

/-- One operation on a store. -/
def step (s : Store) : Operation → Store × Answer
  | .prepare => let (s, r) := s.prepare; (s, .ofResult r)
  | .save settings => let (s, r) := s.save settings; (s, .ofResult r)
  | .load =>
    (s, match s.load with
      | .ok settings => .loaded settings
      | .error e => .failed e)
  | .putText text => (s.putText text, .silent)
  | .removeAll => (s.removeAll, .silent)
  | .blockHome => (s.blockHome, .silent)
  | .blockDatabase => (s.blockDatabase, .silent)

/-- The store after a list of operations, and what each answered. -/
def run : Store → List Operation → Store × List Answer
  | s, [] => (s, [])
  | s, op :: rest =>
    let (s, a) := s.step op
    let (s, as) := run s rest
    (s, a :: as)

end Store

end ListenDeck
