/-!
# Markup

A document as a tree of elements and texts. Elements have attributes, and listeners that say which
message an event on them sends.

* `Attribute`, `Markup`: attributes, elements and texts.
* `Markup.subtrees`: every node below a list of nodes, in document order.
* `Markup.wholeText`, `Markup.label`: what a node says.
* `Markup.texts`: the texts of a document.
-/

namespace ListenDeck

/-- A property of an element, or a message that an event on it sends. -/
inductive Attribute (μ : Type) where
  | text (name value : String)
  /-- An attribute that is there or not. -/
  | flag (name : String) (on : Bool)
  | onClick (message : μ)
  | onInput (message : String → μ)
  | onSubmit (message : μ)

/-- A node of a document. -/
inductive Markup (μ : Type) where
  | text (s : String)
  | element (tag : String) (attributes : List (Attribute μ)) (children : List (Markup μ))

namespace Markup

variable {μ : Type}

instance : Inhabited (Markup μ) := ⟨.text ""⟩

/-- An element with a class and no other attribute. -/
def styled (tag style : String) (children : List (Markup μ)) : Markup μ :=
  .element tag [.text "class" style] children

/-- An element with a class and a single text. -/
def labelled (tag style s : String) : Markup μ := styled tag style [.text s]

/-- Nodes that are there only under a condition. -/
def only (condition : Bool) (nodes : List (Markup μ)) : List (Markup μ) :=
  if condition then nodes else []

/-! ## Attributes -/

/-- The attributes and listeners of a node. -/
def attributes : Markup μ → List (Attribute μ)
  | .text _ => []
  | .element _ l _ => l

/-- The value of an attribute. -/
def value? (m : Markup μ) (name : String) : Option String :=
  m.attributes.findSome? fun
    | .text n v => if n = name then some v else none
    | _ => none

/-- The classes of a node. -/
def classes (m : Markup μ) : List String := ((m.value? "class").getD "").splitOn " "

/-- The node takes no events. -/
def isDisabled (m : Markup μ) : Bool :=
  m.attributes.any fun
    | .flag n on => n = "disabled" && on
    | _ => false

/-- The message of a click. -/
def click? (m : Markup μ) : Option μ :=
  m.attributes.findSome? fun
    | .onClick message => some message
    | _ => none

/-- The message of an input. -/
def input? (m : Markup μ) : Option (String → μ) :=
  m.attributes.findSome? fun
    | .onInput message => some message
    | _ => none

/-- The message of a submission. -/
def submit? (m : Markup μ) : Option μ :=
  m.attributes.findSome? fun
    | .onSubmit message => some message
    | _ => none

/-- The node is an element of that tag. -/
def isElement (tag : String) : Markup μ → Bool
  | .element t _ _ => t = tag
  | .text _ => false

/-! ## The tree -/

mutual

/-- The node and every node below it, in document order. -/
def nodesOf : Markup μ → List (Markup μ)
  | .text s => [.text s]
  | .element tag l children => .element tag l children :: subtrees children

/-- Every node of a document, in document order. -/
def subtrees : List (Markup μ) → List (Markup μ)
  | [] => []
  | m :: rest => nodesOf m ++ subtrees rest

end

mutual

/-- All texts of a node, joined. -/
def wholeText : Markup μ → String
  | .text s => s
  | .element _ _ children => allText children

/-- All texts of some nodes, joined. -/
def allText : List (Markup μ) → String
  | [] => ""
  | m :: rest => wholeText m ++ allText rest

end

/-- What a control is called: its accessible name, or else its text. -/
def label (m : Markup μ) : String := (m.value? "aria-label").getD m.wholeText

/-! ## Texts -/

/-- The text as a list of its own, unless it is empty. -/
def nonEmptyText (s : String) : List String := if s = "" then [] else [s]

mutual

/-- The texts of a node that is no text. -/
def innerTexts : Markup μ → List String
  | .text _ => []
  | .element _ _ children => textsAfter "" children

/-- The texts of nodes that follow a text; neighbouring texts are one. -/
def textsAfter (before : String) : List (Markup μ) → List String
  | [] => nonEmptyText before
  | .text s :: rest => textsAfter (before ++ s) rest
  | .element tag l children :: rest =>
    nonEmptyText before ++ innerTexts (.element tag l children) ++ textsAfter "" rest

end

/-- The non-empty texts of a document, in document order. -/
def texts (nodes : List (Markup μ)) : List String := textsAfter "" nodes

end Markup

end ListenDeck
