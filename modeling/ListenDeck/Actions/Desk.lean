import ListenDeck.Actions.Plan
import ListenDeck.Actions.Removal
import ListenDeck.Actions.Settlement

/-!
# A desk of actions

A session that acts on items, a server whose replies are given in advance, and the removals that
follow its deletions.

* `Desk.Command`: what can be done.
* `Desk.step`: one command, then the timers that no longer wait.
-/

namespace ListenDeck

/-- A session that acts on items of a list. -/
structure Desk where
  session : Session
  removals : Removals
  /-- Somebody listens for confirmed scores. -/
  listened : Bool := false
  /-- The replies to come; 200 when there is none. -/
  replies : List (Except ServerError Nat) := []
  deriving Inhabited

namespace Desk

/-- What can be done at a desk. -/
inductive Command where
  | reply (reply : Except ServerError Nat)
  /-- An action on an item; a removal it arms gets the name. -/
  | act (item : Item) (action : Action) (name : String)
  | cancel (name : String)
  | advance (ms : Nat)
  deriving Repr

/-- What a command led to. -/
structure Result where
  /-- The call that was sent. -/
  call : Option Mutation := none
  settlement : Option Settlement := none
  heard : List (String × Score) := []
  ends : List (RemovalTimer × TimerEnd) := []
  deriving Repr

/-- The next reply of the server, and the desk without it. -/
def takeReply (d : Desk) : Except ServerError Nat × Desk :=
  match d.replies with
  | [] => (.ok statusOk, d)
  | r :: rest => (r, { d with replies := rest })

/-- The desk after a settlement; a removal gets the name. -/
def afterSettlement (d : Desk) (name : String) : Settlement → Desk
  | .armed identity => { d with removals := d.removals.arm name identity }
  | _ => d

/-- The command itself. -/
def perform (d : Desk) : Command → Desk × Result
  | .reply r => ({ d with replies := d.replies ++ [r] }, {})
  | .act item action name =>
    match d.session.plan item action with
    | none => (d, {})
    | some m =>
      let (reply, d) := d.takeReply
      let settlement := settle item m reply
      (d.afterSettlement name settlement,
        { call := some m
          settlement := some settlement
          heard := if d.listened then settlement.heard else [] })
  | .cancel name => ({ d with removals := d.removals.cancel name }, {})
  | .advance ms => ({ d with removals := d.removals.advance ms }, {})

/-- One command, then the timers that no longer wait. -/
def step (d : Desk) (c : Command) : Desk × Result :=
  let (d, result) := d.perform c
  let (removals, ends) := d.removals.sweep
  ({ d with removals }, { result with ends })

/-- The desk after a list of commands, with what each led to. -/
def run : Desk → List Command → Desk × List Result
  | d, [] => (d, [])
  | d, c :: rest =>
    let (d, result) := d.step c
    let (d, results) := run d rest
    (d, result :: results)

end Desk

end ListenDeck
