import ListenDeck.Text.Numeral

/-!
# The address bar

The history of addresses as far as pages are concerned: entries with or without a page number, and
the place of the current one. A new entry takes the place of everything ahead; moving back and
forward makes no entry.

* `AddressBar.push`, `AddressBar.back`, `AddressBar.forward`: the moves.
* `AddressBar.pageText`: the page parameter of the current entry.
* `readPage?`: the page a parameter names.
-/

namespace ListenDeck

/-- The page a parameter names: a numeral of 64 bits with blanks around it. Any other text counts as
no parameter. -/
def readPage? (parameter : Option String) : Option Int64 :=
  parameter.bind fun s => Text.readInt64? (Text.trim s)

/-- The history of addresses. -/
structure AddressBar where
  entries : List (Option Nat)
  cursor : Nat
  deriving DecidableEq, Repr, Inhabited

namespace AddressBar

/-- A history of one entry. -/
def start (page : Option Nat) : AddressBar := ⟨[page], 0⟩

/-- The number of entries. -/
def length (b : AddressBar) : Nat := b.entries.length

/-- The page of the current entry. -/
def current (b : AddressBar) : Option Nat := (b.entries[b.cursor]?).join

/-- The page parameter of the current entry. -/
def pageText (b : AddressBar) : Option String := b.current.map Text.decimal

/-- A new entry after the current one; the entries ahead are forgotten. -/
def push (b : AddressBar) (page : Nat) : AddressBar :=
  let kept := b.entries.take (b.cursor + 1)
  ⟨kept ++ [some page], kept.length⟩

/-- One entry back, if there is one. -/
def back (b : AddressBar) : AddressBar × Bool :=
  if b.cursor = 0 then (b, false) else ({ b with cursor := b.cursor - 1 }, true)

/-- One entry forward, if there is one. -/
def forward (b : AddressBar) : AddressBar × Bool :=
  if b.cursor + 1 < b.entries.length then ({ b with cursor := b.cursor + 1 }, true) else (b, false)

/-- A move in the history. -/
inductive Move where
  | push (page : Nat)
  | back
  | forward
  deriving DecidableEq, Repr

/-- One move, and what back and forward answer. -/
def step (b : AddressBar) : Move → AddressBar × Option Bool
  | .push page => (b.push page, none)
  | .back => let (b, moved) := b.back; (b, some moved)
  | .forward => let (b, moved) := b.forward; (b, some moved)

end AddressBar

end ListenDeck
