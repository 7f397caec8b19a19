import ListenDeck.Proofs.Browse.Runs

/-!
# Page numbers within their limits

Page numbers have 32 bits, targets 64 bits with a sign, and the lengths of lists 64 bits. Here the
operations of a browser are written down once more with arithmetic that fails where a number leaves
its limits, where one divides by zero, or where the bounds of a range are the wrong way round.

* `clamp?`, `fitInt64?`, `fitUInt32?`, `divCeil?`: arithmetic that may fail.
* `Pager.goTo?` and so on, `Browser.step?`, `Browser.run?`: the operations with that arithmetic.
* `PageState.Fits`: the page is one of the pages there are, whose number has 32 bits, and holds no
  more items than a page may. Every step keeps it, and fails nowhere (`Browser.step_fits`,
  `Browser.step?_eq`).
* `Browser.pages_fit`: the same for every run of a new browser.
-/

namespace ListenDeck

/-! ## Arithmetic that may fail -/

/-- A number brought between two bounds, if they are the right way round. -/
def clamp? (lo hi n : Int) : Option Int := if lo ≤ hi then some (max lo (min n hi)) else none

/-- A number of 64 bits with a sign. -/
def fitInt64? (n : Int) : Option Int := if Text.InInt64 n then some n else none

/-- A number of 32 bits. -/
def fitUInt32? (n : Int) : Option Nat := if 0 ≤ n ∧ n ≤ maxPageNumber then some n.toNat else none

/-- A number of 64 bits. -/
def fitUInt64? (n : Nat) : Option Nat := if n < UInt64.size then some n else none

/-- A quotient rounded up: the quotient, or the next number if there is a remainder. -/
def divCeil? (total size : Nat) : Option Nat :=
  if size = 0 then none
  else if total % size = 0 then some (total / size)
  else fitUInt64? (total / size + 1)

/-- The number of pages of a list. -/
def pageCount? (total pageSize : Nat) : Option Nat := do
  let pages ← divCeil? total (max 1 pageSize)
  return min maxPageNumber (max 1 pages)

/-! ## The operations of a pager -/

namespace Pager

/-- The pager with another state, brought within the pages there are. -/
def withState? (p : Pager) (s : PageState) : Option Pager := do
  let page ← clamp? 1 (max 1 s.maxPage) s.page
  return { p with state := { s with page := page.toNat } }

/-- The pager showing the first page of a list. -/
def seeded? (p : Pager) (total : Nat) (items : List Item) : Option Pager := do
  let maxPage ← pageCount? total p.config.pageSize
  p.withState? { page := 1, maxPage, items := items.take p.config.pageSize, status := .idle }

/-- Takes the items of an identity from the page. -/
def remove? (p : Pager) (identity : Identity) : Option (Pager × List PagerEffect × Bool) :=
  if p.state.items.any (·.identity = identity) then do
    let p ← p.withState? (p.state.without identity)
    return (p, p.observation, true)
  else return (p, [], false)

/-- Issues a fetch of the page at an offset. -/
def fetch? (p : Pager) (aim : Aim) (offset : Nat) : Option Turn := do
  let p ← p.withState? { p.state with status := .loading }
  let p := { p with fetches := p.fetches + 1 }
  return {
    pager := p
    effects := p.observation ++ [.fetch p.config.user offset p.config.pageSize]
    progress := .waiting ⟨p.fetches, aim⟩ }

/-- Asks for a page. -/
def goTo? (p : Pager) (target : Int) (record : Bool) : Option Turn := do
  let target ← fitUInt32? (← clamp? 1 p.state.maxPage target)
  if target = p.state.page then return { pager := p, progress := .ended .unchanged }
  else if p.mounted then do
    let before ← fitUInt32? ((target : Int) - 1)
    p.fetch? (.page target record) (min maxPageNumber (before * p.config.pageSize))
  else return { pager := p, progress := .ended .discarded }

/-- Asks for the next older page. -/
def older? (p : Pager) : Option Turn :=
  if p.state.canGoOlder then do p.goTo? (← fitInt64? (p.state.page + 1)) true
  else return { pager := p, progress := .ended .unchanged }

/-- Asks for the next newer page. -/
def newer? (p : Pager) : Option Turn :=
  if p.state.canGoNewer then do p.goTo? (← fitInt64? (p.state.page - 1)) true
  else return { pager := p, progress := .ended .unchanged }

/-- Asks for the page the address bar names; without one, for the first page. -/
def follow? (p : Pager) (parameter : Option String) : Option Turn :=
  match readPage? parameter with
  | none =>
    if p.state.page = 1 then return { pager := p, progress := .ended .unchanged }
    else p.goTo? 1 false
  | some page =>
    if page.toInt = p.state.page then return { pager := p, progress := .ended .unchanged }
    else p.goTo? page.toInt false

/-- Opens the list. -/
def open? (p : Pager) : Option Turn :=
  if p.mounted then p.fetch? .opening 0
  else return { pager := p, progress := .ended .discarded }

/-- The latest request failed. -/
def fail? (p : Pager) (e : ServerError) : Option Turn := do
  let notice := p.failureNotice e
  let p ← p.withState? { p.state with status := .failed }
  return { pager := p, effects := .notify notice :: p.observation, progress := .ended .failed }

/-- The page asked for has come. -/
def display? (p : Pager) (target : Nat) (record : Bool) (page : ItemPage) : Option Turn :=
  if page.items.isEmpty then do
    let p ← p.withState? { p.state with status := .idle }
    return { pager := p, effects := p.observation, progress := .ended .empty }
  else do
    let pages ← pageCount? page.total p.config.pageSize
    let p ← p.withState? {
      page := target
      maxPage := max target pages
      items := page.items.take p.config.pageSize
      status := .idle }
    return {
      pager := p
      effects := p.observation ++ if record then [.push target] else []
      progress := .ended .loaded }

/-- The first page has come. -/
def displayFirst? (p : Pager) (parameter : Option String) (page : ItemPage) : Option Turn := do
  let p ← p.seeded? page.total page.items
  let t := (← p.follow? parameter).after p.observation
  return if t.progress = .ended .unchanged then { t with progress := .ended .loaded } else t

/-- The reply to a fetch. -/
def receive? (p : Pager) (parameter : Option String) (ticket : Ticket)
    (reply : Except ServerError ItemPage) : Option Turn :=
  if p.isCurrent ticket then
    match ticket.aim, reply with
    | _, .error e => p.fail? e
    | .opening, .ok page => p.displayFirst? parameter page
    | .page target record, .ok page => p.display? target record page
  else return { pager := p, progress := .ended .discarded }

end Pager

/-! ## The steps of a browser -/

namespace Browser

/-- What an event leads to, unless a number leaves its limits. -/
def step? (b : Browser) : Event → Option (Browser × List PagerEffect × Answer)
  | .seed total items => do
    let p ← b.pager.seeded? total items
    return ({ b with pager := p }, p.observation, .silent)
  | .open => b.pager.open?.map b.request
  | .goTo target record => (b.pager.goTo? target record).map b.request
  | .older => b.pager.older?.map b.request
  | .newer => b.pager.newer?.map b.request
  | .follow => (b.pager.follow? b.pageText).map b.request
  | .remove identity => do
    let (p, effects, removed) ← b.pager.remove? identity
    return ({ b with pager := p }, effects, .removed removed)
  | .reply request reply =>
    match b.waiting.lookup request with
    | none => return (b, [], .silent)
    | some ticket =>
      (b.pager.receive? b.pageText ticket reply).map
        (({ b with waiting := b.waiting.filter (·.1 ≠ request) } : Browser).afterTurn request)
  -- no page number takes part in the others
  | .close => return b.step .close
  | .move m => return b.step (.move m)
  | .type parameter => return b.step (.type parameter)

/-- What a list of events leads to, unless a number leaves its limits. -/
def run? : Browser → List Event → Option (Browser × List Entry)
  | b, [] => return (b, [])
  | b, e :: rest => do
    let (b, effects, answer) ← b.step? e
    let (b, log) ← run? b rest
    return (b, (effects, answer) :: log)

/-- The length of a list that an event tells of. -/
def Event.total? : Event → Option Nat
  | .seed total _ => some total
  | .reply _ (.ok page) => some page.total
  | _ => none

/-- The lengths of lists that an event tells of have 64 bits. -/
def Event.Fits (e : Event) : Prop := ∀ total, e.total? = some total → total < UInt64.size

end Browser

/-! ## What does not fail -/

theorem clamp?_of_le {lo hi : Int} (h : lo ≤ hi) (n : Int) :
    clamp? lo hi n = some (max lo (min n hi)) := if_pos h

theorem fitUInt32?_of_le {n : Nat} (h : n ≤ maxPageNumber) : fitUInt32? n = some n := by
  unfold fitUInt32?
  rw [if_pos ⟨Int.natCast_nonneg n, Int.ofNat_le.mpr h⟩, Int.toNat_natCast]

theorem fitInt64?_of_abs_le {n : Int} (h : -maxPageNumber ≤ n ∧ n ≤ maxPageNumber + 1) :
    fitInt64? n = some n := by
  refine if_pos ?_
  unfold Text.InInt64
  have hmax : maxPageNumber = 4294967295 := rfl
  omega

theorem divCeil?_eq {total size : Nat} (ht : total < UInt64.size) (hs : 1 ≤ size) :
    divCeil? total size = some ((total + size - 1) / size) := by
  have hdiv := Nat.div_add_mod total size
  unfold divCeil?
  rw [if_neg (Nat.ne_of_gt hs)]
  split_ifs with hr
  · have hq : (total + size - 1) / size = total / size :=
      Nat.div_eq_of_lt_le (by rw [Nat.mul_comm]; omega) (by rw [Nat.succ_mul, Nat.mul_comm]; omega)
    rw [hq]
  · -- with a remainder the divisor is two at least, and half of the dividend leaves room for more
    have hlt := Nat.mod_lt total hs
    have hhalf : 2 * (total / size) ≤ size * (total / size) := Nat.mul_le_mul_right _ (by omega)
    have hq : (total + size - 1) / size = total / size + 1 :=
      Nat.div_eq_of_lt_le (by rw [Nat.succ_mul, Nat.mul_comm]; omega)
        (by rw [Nat.succ_mul, Nat.succ_mul, Nat.mul_comm]; omega)
    rw [hq, fitUInt64?, if_pos (by omega)]

theorem pageCount?_eq {total : Nat} (ht : total < UInt64.size) (pageSize : Nat) :
    pageCount? total pageSize = some (pageCount total pageSize) := by
  unfold pageCount?
  rw [divCeil?_eq ht (le_max_left 1 pageSize)]
  rfl

/-! ## Pagers -/

/-- **The page fits**: it is one of the pages there are, their number has 32 bits, and the page
holds no more items than it may. -/
structure PageState.Fits (size : Nat) (s : PageState) : Prop where
  within : s.Within
  maxPage_le : s.maxPage ≤ maxPageNumber
  items_le : s.items.length ≤ size

/-- The page a fetch is for has a number of 32 bits. -/
def Ticket.Fits (ticket : Ticket) : Prop :=
  ∀ target record, ticket.aim = .page target record → 1 ≤ target ∧ target ≤ maxPageNumber

/-- **A turn fits**: the state it leads to, every state it tells of, and the fetch it waits for. -/
structure Turn.Fits (size : Nat) (t : Turn) : Prop where
  state : t.pager.state.Fits size
  observed : ∀ s, .observe s ∈ t.effects → s.Fits size
  ticket : ∀ ticket, t.progress = .waiting ticket → ticket.Fits

namespace PageState

variable {size : Nat} {s : PageState}

theorem Fits.withStatus (h : s.Fits size) (status : PageStatus) :
    ({ s with status } : PageState).settle.Fits size := by
  have hwithin : ({ s with status } : PageState).Within := h.within
  rw [settle_of_within hwithin]
  exact ⟨h.within, h.maxPage_le, h.items_le⟩

theorem Fits.without (h : s.Fits size) (identity : Identity) :
    (s.without identity).settle.Fits size := by
  have hwithin : (s.without identity).Within := h.within
  rw [settle_of_within hwithin]
  exact ⟨h.within, h.maxPage_le, (List.length_filter_le _ _).trans h.items_le⟩

theorem fits_settle {maxPage : Nat} (h1 : 1 ≤ maxPage) (hmax : maxPage ≤ maxPageNumber)
    (page : Nat) (items : List Item) (status : PageStatus) :
    (PageState.mk page maxPage (items.take size) status).settle.Fits size :=
  ⟨within_settle h1, hmax, List.length_take_le _ _⟩

end PageState

theorem pageCount_le (total pageSize : Nat) : pageCount total pageSize ≤ maxPageNumber :=
  Nat.min_le_left _ _

namespace Pager

variable {p : Pager}

theorem eq_of_observe {s : PageState} (h : .observe s ∈ p.observation) : s = p.state := by
  unfold observation at h
  split_ifs at h
  · simpa using h
  · exact absurd h List.not_mem_nil

theorem withState?_eq (p : Pager) (s : PageState) : p.withState? s = some (p.withState s) := by
  have hpage : (max 1 (min (s.page : Int) (max 1 s.maxPage))).toNat =
      max 1 (min s.page (max 1 s.maxPage)) := by omega
  unfold withState?
  rw [clamp?_of_le (by omega)]
  simp only [Option.bind_eq_bind, Option.bind_some, Option.pure_def, hpage]
  rfl

theorem seeded?_eq {total : Nat} (ht : total < UInt64.size) (items : List Item) :
    p.seeded? total items = some (p.seeded total items) := by
  unfold seeded?
  rw [pageCount?_eq ht]
  exact withState?_eq p _

theorem seeded_fits (p : Pager) (total : Nat) (items : List Item) :
    (p.seeded total items).state.Fits p.config.pageSize :=
  PageState.fits_settle (pageCount_pos _ _) (pageCount_le _ _) _ _ _

theorem remove?_eq (p : Pager) (identity : Identity) :
    p.remove? identity = some (p.remove identity) := by
  unfold remove? remove
  split_ifs
  · rw [withState?_eq]
    rfl
  · rfl

/-! ### Requests -/

theorem fetch?_eq (p : Pager) (aim : Aim) (offset : Nat) :
    p.fetch? aim offset = some (p.fetch aim offset) := by
  unfold fetch?
  rw [withState?_eq]
  rfl

theorem open?_eq (p : Pager) : p.open? = some p.open := by
  unfold open? «open»
  split_ifs
  · exact fetch?_eq p _ _
  · rfl

section Requests
variable {size : Nat} (h : p.state.Fits size)
include h

/-- **Asking for a page fails for no target**: it is brought within the pages there are first. -/
theorem goTo?_eq (target : Int) (record : Bool) :
    p.goTo? target record = some (p.goTo target record) := by
  obtain ⟨h1, h2⟩ := h.within
  have hmax := h.maxPage_le
  have hclamp : max 1 (min target p.state.maxPage) = (p.clampTarget target : Int) := by
    unfold clampTarget; omega
  obtain ⟨hlow, hhigh⟩ := clampTarget_within p (h1.trans h2) target
  have hbefore : (p.clampTarget target : Int) - 1 = ((p.clampTarget target - 1 : Nat) : Int) := by
    omega
  unfold goTo? goTo
  rw [clamp?_of_le (by omega), hclamp]
  simp only [Option.bind_eq_bind, Option.bind_some, fitUInt32?_of_le (hhigh.trans hmax), hbefore,
    fitUInt32?_of_le (show p.clampTarget target - 1 ≤ maxPageNumber by omega), fetch?_eq,
    Option.pure_def]
  split_ifs <;> rfl

theorem older?_eq : p.older? = some p.older := by
  have hle := h.within.2.trans h.maxPage_le
  unfold older? older
  split_ifs
  · rw [fitInt64?_of_abs_le (by omega)]
    exact goTo?_eq h _ _
  · rfl

theorem newer?_eq : p.newer? = some p.newer := by
  have hpos := h.within.1
  have hle := h.within.2.trans h.maxPage_le
  unfold newer? newer
  split_ifs
  · rw [fitInt64?_of_abs_le (by omega)]
    exact goTo?_eq h _ _
  · rfl

theorem follow?_eq (parameter : Option String) :
    p.follow? parameter = some (p.follow parameter) := by
  unfold follow? follow
  cases readPage? parameter with
  | none =>
    dsimp only
    split_ifs
    · rfl
    · exact goTo?_eq h _ _
  | some page =>
    dsimp only
    split_ifs
    · rfl
    · exact goTo?_eq h _ _

theorem fetch_fits (aim : Aim) (offset : Nat)
    (ha : ∀ target record, aim = .page target record → 1 ≤ target ∧ target ≤ maxPageNumber) :
    (p.fetch aim offset).Fits size := by
  have hstate : (p.fetch aim offset).pager.state.Fits size := h.withStatus .loading
  refine ⟨hstate, fun s hs => ?_, fun ticket ht => ?_⟩
  · rw [fetch_effects, List.mem_append, List.mem_singleton] at hs
    rcases hs with hs | hs
    · rw [eq_of_observe hs]
      exact hstate
    · cases hs
  · rw [fetch_progress] at ht
    cases ht
    exact ha

theorem ended_fits (o : Outcome) : Turn.Fits size { pager := p, progress := .ended o } :=
  ⟨h, fun _ hs => absurd hs List.not_mem_nil, fun _ ht => by cases ht⟩

theorem open_fits : p.open.Fits size := by
  unfold «open»
  split_ifs
  · exact fetch_fits h _ _ fun _ _ ha => by cases ha
  · exact ended_fits h _

theorem asked_fits {record : Bool} {t : Turn} (ht : p.Asked record t) : t.Fits size := by
  cases ht with
  | ended o _ => exact ended_fits h o
  | fetched n _ _ =>
    refine fetch_fits h _ _ fun target record ha => ?_
    obtain ⟨rfl, -⟩ := Aim.page.inj ha
    obtain ⟨hlow, hhigh⟩ := clampTarget_within p (h.within.1.trans h.within.2) n
    exact ⟨hlow, hhigh.trans h.maxPage_le⟩

end Requests

/-! ### Replies -/

theorem fits_of_ended {size : Nat} {t : Turn} (h : t.pager.state.Fits size)
    (ho : ∀ s, .observe s ∈ t.effects → .observe s ∈ t.pager.observation) {o : Outcome}
    (hp : t.progress = .ended o) : t.Fits size := by
  refine ⟨h, fun s hs => ?_, fun ticket ht => ?_⟩
  · rw [eq_of_observe (ho s hs)]
    exact h
  · rw [hp] at ht
    cases ht

theorem fail?_eq (p : Pager) (e : ServerError) : p.fail? e = some (p.fail e) := by
  unfold fail?
  rw [withState?_eq]
  rfl

theorem fail_fits {size : Nat} (h : p.state.Fits size) (e : ServerError) :
    (p.fail e).Fits size := by
  refine fits_of_ended (h.withStatus .failed) (fun s hs => ?_) rfl
  rcases List.mem_cons.mp hs with hs | hs
  · cases hs
  · exact hs

theorem display?_eq (p : Pager) (target : Nat) (record : Bool) {page : ItemPage}
    (ht : page.total < UInt64.size) :
    p.display? target record page = some (p.display target record page) := by
  unfold display? display
  rw [pageCount?_eq ht]
  simp only [withState?_eq, Option.bind_eq_bind, Option.bind_some, Option.pure_def]
  split_ifs <;> rfl

/-- **A page that has come fits**, whatever the reply contains. -/
theorem display_fits (h : p.state.Fits p.config.pageSize) {target : Nat} (h1 : 1 ≤ target)
    (hle : target ≤ maxPageNumber) (record : Bool) (page : ItemPage) :
    (p.display target record page).Fits p.config.pageSize := by
  have hpos : 1 ≤ max target (pageCount page.total p.config.pageSize) :=
    h1.trans (le_max_left _ _)
  have hmax : max target (pageCount page.total p.config.pageSize) ≤ maxPageNumber :=
    max_le hle (pageCount_le _ _)
  unfold display
  split_ifs
  · exact fits_of_ended (h.withStatus .idle) (fun _ hs => hs) rfl
  · refine fits_of_ended (PageState.fits_settle hpos hmax _ _ _) (fun s hs => ?_) rfl
    rcases List.mem_append.mp hs with hs | hs
    · exact hs
    · simp at hs
  · refine fits_of_ended (PageState.fits_settle hpos hmax _ _ _) (fun s hs => ?_) rfl
    simpa using hs

theorem displayFirst?_eq (p : Pager) (parameter : Option String) {page : ItemPage}
    (ht : page.total < UInt64.size) :
    p.displayFirst? parameter page = some (p.displayFirst parameter page) := by
  unfold displayFirst? displayFirst seed
  rw [seeded?_eq ht]
  simp only [Option.bind_eq_bind, Option.bind_some, follow?_eq (seeded_fits p _ _),
    Option.pure_def]

theorem displayFirst_fits (hm : p.mounted = true) (parameter : Option String) (page : ItemPage) :
    (p.displayFirst parameter page).Fits p.config.pageSize := by
  have hq := seeded_fits p page.total page.items
  rcases displayFirst_cases p parameter hm page rfl with ⟨-, hd⟩ | ⟨-, hd⟩ <;> rw [hd]
  · exact fits_of_ended hq (fun _ hs => hs) rfl
  · -- first the page that was opened is told of, then that the next one is on its way
    have hclamp := clampTarget_within (p.seeded page.total page.items)
      (hq.within.1.trans hq.within.2) (pageNamed parameter)
    obtain ⟨hstate, hobserved, hticket⟩ := fetch_fits hq
      (.page ((p.seeded page.total page.items).clampTarget (pageNamed parameter)) false)
      ((p.seeded page.total page.items).offsetOf
        ((p.seeded page.total page.items).clampTarget (pageNamed parameter)))
      fun target record ha => by
        obtain ⟨rfl, -⟩ := Aim.page.inj ha
        exact ⟨hclamp.1, hclamp.2.trans hq.maxPage_le⟩
    refine ⟨hstate, fun s hs => ?_, hticket⟩
    rcases List.mem_append.mp hs with hs | hs
    · rw [eq_of_observe hs]
      exact hq
    · exact hobserved s hs

theorem receive?_eq (p : Pager) (parameter : Option String) (ticket : Ticket)
    {reply : Except ServerError ItemPage}
    (ht : ∀ page, reply = .ok page → page.total < UInt64.size) :
    p.receive? parameter ticket reply = some (p.receive parameter ticket reply) := by
  unfold receive? receive
  split_ifs
  · cases reply with
    | error e => exact fail?_eq p e
    | ok page =>
      cases ticket.aim with
      | opening => exact displayFirst?_eq p parameter (ht page rfl)
      | page target record => exact display?_eq p target record (ht page rfl)
  · rfl

/-- **A reply keeps the page fitting**, whatever it contains. -/
theorem receive_fits (h : p.state.Fits p.config.pageSize) (parameter : Option String)
    {ticket : Ticket} (ht : ticket.Fits) (reply : Except ServerError ItemPage) :
    (p.receive parameter ticket reply).Fits p.config.pageSize := by
  by_cases hc : p.isCurrent ticket = true
  · rcases reply with e | page
    · rw [receive_error p parameter hc]
      exact fail_fits h e
    · cases ha : ticket.aim with
      | opening =>
        rw [receive_opening p parameter hc ha]
        exact displayFirst_fits (mounted_of_isCurrent hc) parameter page
      | page target record =>
        rw [receive_page p parameter hc ha]
        exact display_fits h (ht target record ha).1 (ht target record ha).2 record page
  · rw [receive_late p parameter (by simpa using hc)]
    exact ended_fits h _

end Pager

/-! ## Browsers -/

namespace Browser

/-- **A browser fits**: the page it shows, and the fetches it waits for. -/
structure Fits (b : Browser) : Prop where
  state : b.pager.state.Fits b.pager.config.pageSize
  tickets : ∀ w ∈ b.waiting, w.2.Fits

/-- The states that a step tells of fit. -/
def Entry.Fits (size : Nat) (entry : Entry) : Prop := ∀ s, .observe s ∈ entry.1 → s.Fits size

section Step
variable {b : Browser}

theorem afterTurn_fits (b' : Browser) (hw : ∀ w ∈ b'.waiting, w.2.Fits) (r : Nat) {t : Turn}
    (hk : t.pager.config = b.pager.config) (ht : t.Fits b.pager.config.pageSize) :
    (b'.afterTurn r t).1.Fits ∧ Entry.Fits b.pager.config.pageSize (b'.afterTurn r t).2 := by
  have hp := afterTurn_pager b' r t
  refine ⟨⟨by rw [hp, hk]; exact ht.state, fun w hm => ?_⟩, fun s hs => ?_⟩
  · unfold afterTurn at hm
    cases hprogress : t.progress with
    | ended o =>
      simp only [hprogress, (foldl_applyEffect_eq t.effects _).2.1] at hm
      exact hw w hm
    | waiting ticket =>
      simp only [hprogress, (foldl_applyEffect_eq t.effects _).2.1, List.mem_append,
        List.mem_singleton] at hm
      rcases hm with hm | rfl
      · exact hw w hm
      · exact ht.ticket ticket hprogress
  · rw [afterTurn_effects] at hs
    exact ht.observed s hs

theorem request_fits (h : b.Fits) {t : Turn} (hk : t.pager.config = b.pager.config)
    (ht : t.Fits b.pager.config.pageSize) :
    (b.request t).1.Fits ∧ Entry.Fits b.pager.config.pageSize (b.request t).2 :=
  afterTurn_fits { b with requests := b.requests + 1 } h.tickets b.requests hk ht

/-- **No step fails**: with numbers that fit it does what it does without limits. -/
theorem step?_eq (h : b.Fits) {e : Event} (he : e.Fits) : b.step? e = some (b.step e) := by
  cases e with
  | seed total items =>
    simp only [step?, Pager.seeded?_eq (he total rfl), Option.bind_eq_bind, Option.bind_some,
      Option.pure_def]
    rfl
  | «open» => simp only [step?, step, Pager.open?_eq, Option.map_some]
  | goTo target record => simp only [step?, step, Pager.goTo?_eq h.state, Option.map_some]
  | older => simp only [step?, step, Pager.older?_eq h.state, Option.map_some]
  | newer => simp only [step?, step, Pager.newer?_eq h.state, Option.map_some]
  | follow => simp only [step?, step, Pager.follow?_eq h.state, Option.map_some]
  | remove identity =>
    simp only [step?, step, Pager.remove?_eq, Option.bind_eq_bind, Option.bind_some,
      Option.pure_def]
  | close => rfl
  | move m => rfl
  | type parameter => rfl
  | reply request reply =>
    simp only [step?, step]
    cases b.waiting.lookup request with
    | none => rfl
    | some ticket =>
      have htotal : ∀ page, reply = .ok page → page.total < UInt64.size := by
        rintro page rfl
        exact he page.total rfl
      simp only [Pager.receive?_eq _ _ _ htotal, Option.map_some]

/-- **Every step keeps a browser fitting**, and so are the states it tells of. -/
theorem step_fits (h : b.Fits) (e : Event) :
    (b.step e).1.Fits ∧ Entry.Fits b.pager.config.pageSize (b.step e).2 := by
  have asked : ∀ record t, b.pager.Asked record t →
      (b.request t).1.Fits ∧ Entry.Fits b.pager.config.pageSize (b.request t).2 :=
    fun record t ht => request_fits h (Pager.asked_kept ht).config (Pager.asked_fits h.state ht)
  have quiet : Entry.Fits b.pager.config.pageSize ([], .silent) :=
    fun s hs => absurd hs List.not_mem_nil
  have told : ∀ {p : Pager} {answer : Answer}, p.state.Fits b.pager.config.pageSize →
      Entry.Fits b.pager.config.pageSize (p.observation, answer) := by
    intro p answer hp s hs
    rw [Pager.eq_of_observe hs]
    exact hp
  cases e with
  | seed total items =>
    have hp := Pager.seeded_fits b.pager total items
    exact ⟨⟨hp, h.tickets⟩, told hp⟩
  | «open» => exact request_fits h (Pager.open_kept _).config (Pager.open_fits h.state)
  | goTo target record => exact asked _ _ (Pager.goTo_asked _ _ _)
  | older => exact asked _ _ (Pager.older_asked _)
  | newer => exact asked _ _ (Pager.newer_asked _)
  | follow => exact asked _ _ (Pager.follow_asked _ _)
  | remove identity =>
    simp only [step, Pager.remove]
    split_ifs
    · have hp := h.state.without identity
      exact ⟨⟨hp, h.tickets⟩, told (p := b.pager.withState _) hp⟩
    · exact ⟨h, fun s hs => absurd hs List.not_mem_nil⟩
  | close => exact ⟨⟨h.state, h.tickets⟩, quiet⟩
  | move m => exact ⟨⟨h.state, h.tickets⟩, fun s hs => absurd hs List.not_mem_nil⟩
  | type parameter => exact ⟨⟨h.state, h.tickets⟩, quiet⟩
  | reply r reply =>
    cases hw : b.waiting.lookup r with
    | none =>
      rw [step_reply_of_none hw]
      exact ⟨h, quiet⟩
    | some ticket =>
      rw [step_reply_of_some hw]
      exact afterTurn_fits _ (fun w hm => h.tickets w (List.mem_of_mem_filter hm)) r
        (Pager.receive_kept _ _ _ _).config
        (Pager.receive_fits h.state b.pageText (h.tickets _ (mem_of_lookup hw)) reply)

end Step

/-! ### Runs -/

theorem run_fits {b : Browser} (h : b.Fits) (es : List Event) :
    (b.run es).1.Fits ∧ ∀ entry ∈ (b.run es).2, Entry.Fits b.pager.config.pageSize entry := by
  induction es generalizing b with
  | nil => exact ⟨h, fun _ hm => absurd hm List.not_mem_nil⟩
  | cons e es ih =>
    obtain ⟨hb, hentry⟩ := step_fits h e
    obtain ⟨hrun, hlog⟩ := ih hb
    rw [step_config] at hlog
    exact ⟨hrun, List.forall_mem_cons.mpr ⟨hentry, hlog⟩⟩

/-- **No run fails.** -/
theorem run?_eq {b : Browser} (h : b.Fits) {es : List Event} (he : ∀ e ∈ es, e.Fits) :
    b.run? es = some (b.run es) := by
  induction es generalizing b with
  | nil => rfl
  | cons e es ih =>
    obtain ⟨hfirst, hrest⟩ := List.forall_mem_cons.mp he
    simp only [run?, step?_eq h hfirst, ih (step_fits h e).1 hrest, Option.bind_eq_bind,
      Option.bind_some, Option.pure_def]
    rfl

theorem fresh_fits (config : PagerConfig) (observed : Bool) (bar : AddressBar) :
    (fresh config observed bar).Fits :=
  ⟨⟨fresh_within config observed bar, show 1 ≤ maxPageNumber by decide, Nat.zero_le _⟩,
    fun _ hm => absurd hm List.not_mem_nil⟩

end Browser

theorem Pager.goTo_clamp (p : Pager) (target : Int) (record : Bool) :
    p.goTo (max 1 (min target p.state.maxPage)) record = p.goTo target record := by
  have hclamp : p.clampTarget (max 1 (min target p.state.maxPage)) = p.clampTarget target := by
    unfold clampTarget; omega
  unfold goTo
  rw [hclamp]

/-- What a pager of a user is configured for, with a page size if one is given. -/
def PagerConfig.given (user label : String) : Option UInt32 → PagerConfig
  | none => { user, label }
  | some size => PagerConfig.withPageSize { user, label } size.toNat

theorem PagerConfig.given_pageSize (user label : String) (size : Option UInt32) :
    1 ≤ (PagerConfig.given user label size).pageSize := by
  cases size with
  | none => exact Nat.le_add_left 1 24
  | some size => exact le_max_left 1 size.toNat

namespace Browser

/-- **The page always fits.** At the end of every run of a new browser, with any page size, any
seeds and replies, any targets and any text in the address bar, the page shown is one of the pages
there are, whose number has 32 bits, and holds no more items than a page may, which is one at least;
so is every state that the run tells its observer of. No number leaves its limits on the way and no
range is empty. A target outside the pages there are stands for the nearest one. -/
theorem pages_fit (user label : String) (size : Option UInt32) (observed : Bool) (bar : AddressBar)
    {events : List Event} (he : ∀ e ∈ events, e.Fits) :
    let start := fresh (.given user label size) observed bar
    let run := start.run events
    let shown := run.1.pager.state
    (1 ≤ shown.page ∧ shown.page ≤ shown.maxPage ∧ shown.maxPage ≤ maxPageNumber) ∧
    (shown.items.length ≤ run.1.pager.config.pageSize ∧ 1 ≤ run.1.pager.config.pageSize) ∧
    (∀ entry ∈ run.2, ∀ s, .observe s ∈ entry.1 → s.Fits run.1.pager.config.pageSize) ∧
    start.run? events = some run ∧
    ∀ target record, run.1.step (.goTo (max 1 (min target shown.maxPage)) record) =
      run.1.step (.goTo target record) := by
  intro start run shown
  have hstart : start.Fits := fresh_fits _ observed bar
  obtain ⟨hrun, hlog⟩ := run_fits hstart events
  have hconfig : run.1.pager.config = .given user label size := run_config start events
  refine ⟨⟨hrun.state.within.1, hrun.state.within.2, hrun.state.maxPage_le⟩,
    ⟨hrun.state.items_le, ?_⟩, fun entry hm s hs => ?_, run?_eq hstart he, fun target record => ?_⟩
  · rw [hconfig]
    exact PagerConfig.given_pageSize user label size
  · rw [hconfig]
    exact hlog entry hm s hs
  · simp only [step]
    rw [Pager.goTo_clamp]

/-- A list said to have as many items as 64 bits can count, in pages of none, and the greatest target
there is: the greatest page number is reached and not passed, and the page keeps one of the two
items that come. -/
theorem pages_fit_of_greatest_total :
    let events : List Event := [
      .seed 18446744073709551615 [.pin { rowId := 1 }, .pin { rowId := 2 }],
      .goTo 9223372036854775807 true,
      .reply 0 (.ok { items := [.pin { rowId := 3 }, .pin { rowId := 4 }], total := 1 })]
    (∀ e ∈ events, e.Fits) ∧
      let start := fresh (.given "rob" "pinned recordings" (some 0)) false (.start none)
      let b := (start.run events).1
      (b.pager.state.page, b.pager.state.maxPage, b.pager.state.items) =
        (maxPageNumber, maxPageNumber, [.pin { rowId := 3 }]) ∧
      ∀ target record, b.step (.goTo (max 1 (min target b.pager.state.maxPage)) record) =
        b.step (.goTo target record) := by
  intro events
  have he : ∀ e ∈ events, e.Fits := by
    simp only [events, List.forall_mem_cons, Event.Fits, Event.total?, Option.some.injEq,
      forall_eq']
    decide
  exact ⟨he, by decide +kernel,
    (pages_fit "rob" "pinned recordings" (some 0) false (.start none) he).2.2.2.2⟩

end Browser

end ListenDeck
