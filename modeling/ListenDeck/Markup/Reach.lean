import ListenDeck.Markup.Basic

/-!
# Reaching into a document

How an event finds its element: by its name and place among the elements that listen, in document
order. An element that takes no events keeps the message back.

* `Markup.clickable`, `Markup.editable`, `Markup.forms`: the elements that listen.
* `Markup.reachClick`, `Markup.reachInput`, `Markup.reachSubmit`: the message of an event.
-/

namespace ListenDeck

/-- What an event on an element led to. -/
inductive Reach (μ : Type) where
  | notFound
  | disabled
  | reached (message : μ)

namespace Markup

variable {μ : Type}

/-- The elements that listen for clicks. -/
def clickable (nodes : List (Markup μ)) : List (Markup μ) :=
  (subtrees nodes).filter (·.click?.isSome)

/-- The elements that listen for input. -/
def editable (nodes : List (Markup μ)) : List (Markup μ) :=
  (subtrees nodes).filter (·.input?.isSome)

/-- The forms of a document. -/
def forms (nodes : List (Markup μ)) : List (Markup μ) :=
  (subtrees nodes).filter (isElement "form")

/-- The message of an event on an element, if there is one. -/
def reach (message : Markup μ → Option μ) : Option (Markup μ) → Reach μ
  | none => .notFound
  | some m => if m.isDisabled then .disabled else (message m).elim .notFound .reached

/-- A click on the element of that name and place among those of the name. -/
def reachClick (nodes : List (Markup μ)) (name : String) (place : Nat) : Reach μ :=
  reach click? ((clickable nodes).filter (·.label = name))[place]?

/-- Input into the element of that place. -/
def reachInput (nodes : List (Markup μ)) (place : Nat) (text : String) : Reach μ :=
  reach (fun m => m.input?.map (· text)) (editable nodes)[place]?

/-- The submission of the first form. -/
def reachSubmit (nodes : List (Markup μ)) : Reach μ := reach submit? (forms nodes).head?

end Markup

end ListenDeck
