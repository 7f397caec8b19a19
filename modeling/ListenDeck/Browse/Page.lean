import ListenDeck.Item.Basic

/-!
# Pages

A long list on the server is shown one page at a time.

* `pageCount`: how many pages a list needs.
* `PageState`: the page that is shown.
* `PageState.settle`: the page number brought within the pages there are.
-/

namespace ListenDeck

/-- The greatest page number. -/
def maxPageNumber : Nat := UInt32.size - 1

/-- The number of pages of a list, at least one and at most `maxPageNumber`. A page holds at least
one item. -/
def pageCount (total pageSize : Nat) : Nat :=
  let size := max 1 pageSize
  min maxPageNumber (max 1 ((total + size - 1) / size))

/-- A part of a list as the server gives it, and the length of the list. -/
structure ItemPage where
  items : List Item := []
  total : Nat := 0
  deriving DecidableEq, Repr, Inhabited

/-- What a page is doing. -/
inductive PageStatus where
  | idle
  | loading
  | failed
  deriving DecidableEq, Repr, Inhabited

/-- The page that is shown. -/
structure PageState where
  page : Nat := 1
  maxPage : Nat := 1
  items : List Item := []
  status : PageStatus := .idle
  deriving DecidableEq, Repr, Inhabited

namespace PageState

/-- A page is on its way. -/
def loading (s : PageState) : Bool := s.status = .loading

/-- The page number brought within the pages there are. -/
def settle (s : PageState) : PageState :=
  { s with page := max 1 (min s.page (max 1 s.maxPage)) }

/-- The identities of the items. -/
def identities (s : PageState) : List Identity := s.items.map Item.identity

/-- The page without the items of an identity. -/
def without (s : PageState) (identity : Identity) : PageState :=
  { s with items := s.items.filter (·.identity ≠ identity) }

/-- There is an older page to go to. -/
def canGoOlder (s : PageState) : Bool := !s.loading && s.page < s.maxPage

/-- There is a newer page to go to. -/
def canGoNewer (s : PageState) : Bool := !s.loading && 1 < s.page

end PageState

end ListenDeck
