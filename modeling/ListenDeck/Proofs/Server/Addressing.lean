import ListenDeck.Proofs.Url.Web
import ListenDeck.Server.Base
import ListenDeck.Server.Request

/-!
# Names in addresses

Six calls have a user's name or the id of a playlist in their path, in percent form. What is asked
of the server is not the text that was put together but the address read from it, where one dot and
two dots are steps even after the percent form, which leaves them alone. So a name stays in its
place, and no two names are asked for by the same path, with these two exceptions.

* `Site`: a server of the web below some segments.
* `Call.name?`: the name or id in the path of a call.
* `Url.segmentsRead`: the segments of an address, read back.
* `names_stay_iff`: when the path asked for is the one that was meant.
-/

namespace ListenDeck

open Text Url Server

/-- A server of the web: its host, with its port, and the segments that its paths start with. -/
structure Site where
  scheme : String
  host : String
  base : List String
  web : scheme = "http" ∨ scheme = "https"
  given : host ≠ ""
  bare : ∀ c ∈ host.toList, isSlash true c = false ∧ c ≠ '#' ∧ c ≠ '?' ∧ isBlank c = false
  unreserved : ∀ s ∈ base, s ≠ "" ∧ ∀ c ∈ s.toList, isUnreserved c = true

/-- The address of the server. -/
def Site.text (site : Site) : String :=
  site.scheme ++ "://" ++ site.host ++ pathText (.segments site.base)

/-- The name or id in the path of a call. -/
def Call.name? : Call → Option String
  | .pins user _ _ => some user
  | .listens user _ => some user
  | .scores user _ => some user
  | .playlist mbid => some mbid
  | .change (.removeTrack _ mbid _) => some mbid
  | .change (.recommend user _ _) => some user
  | .change _ => none

/-- The call with another name or id in its path. -/
def Call.withName (name : String) : Call → Call
  | .pins _ offset count => .pins name offset count
  | .listens _ count => .listens name count
  | .scores _ msids => .scores name msids
  | .playlist _ => .playlist name
  | .change (.removeTrack token _ index) => .change (.removeTrack token name index)
  | .change (.recommend _ token what) => .change (.recommend name token what)
  | .change m => .change m

/-- The path that a call asks a server for, if it is sent. -/
def Call.asked? (c : Call) (server : String) : Option UrlPath :=
  match c.send server with
  | .unsent _ => none
  | .sent r => some r.url.path

/-- The segments of a path as it is sent, each with its percent form undone. -/
def Url.segmentsRead (path : UrlPath) : List (Option String) :=
  (pieces (· == '/') (pathText path).toList).tail.map fun s => readUtf8? (percentBytes s)

/-- The texts that percent form leaves to be taken for steps: one dot and two. -/
def IsDots (s : String) : Prop := s = "." ∨ s = ".."

instance (s : String) : Decidable (IsDots s) := by
  unfold IsDots; infer_instance

/-! ## Segments -/

/-- The percent forms of segments. -/
def percents (l : List String) : List (List Char) :=
  l.map fun s => percentChars isUnreserved s.toList

theorem isPlain_percents {l : List String} : ∀ s ∈ percents l, ∀ c ∈ s, isPlain c = true := by
  intro s hs c hc
  obtain ⟨t, -, rfl⟩ := List.mem_map.1 hs
  exact isPlain_of_mem_percentChars hc

theorem isStep_percents {s : String} :
    isStep (percentChars isUnreserved s.toList) = true ↔ IsDots s := by
  rw [isStep_percentChars, IsDots, String.ext_iff, String.ext_iff]
  rfl

theorem readUtf8?_percentBytes (s : String) :
    readUtf8? (percentBytes (percentChars isUnreserved s.toList)) = some s := by
  rw [percentBytes_percentChars rfl, readUtf8?_utf8Bytes, String.ofList_toList]

theorem segmentsRead_segments {l : List String} (h : ∀ s ∈ l, ∀ c ∈ s.toList, (c == '/') = false) :
    segmentsRead (.segments l) = l.map fun s => readUtf8? (percentBytes s.toList) := by
  have slashes : pieces (· == '/') (slashed (l.map String.toList)) = [] :: l.map String.toList := by
    have noSlash : ∀ t ∈ [] :: l.map String.toList, ∀ c ∈ t, (c == '/') = false := by
      intro t ht
      rcases List.mem_cons.1 ht with rfl | ht
      · simp
      · obtain ⟨s, hs, rfl⟩ := List.mem_map.1 ht
        exact h s hs
    simpa only [List.nil_append] using pieces_slashed rfl noSlash
  rw [segmentsRead, toList_pathText, slashes, List.tail_cons, List.map_map]
  rfl

/-- **Segments without dots are read back as they were meant.** -/
theorem segmentsRead_of_no_dots {l : List String} (h : ∀ s ∈ l, ¬ IsDots s) :
    segmentsRead (.segments (resolve (percents l))) = l.map some := by
  have steps : ∀ s ∈ percents l, isStep s = false := by
    intro s hs
    obtain ⟨t, ht, rfl⟩ := List.mem_map.1 hs
    exact Bool.eq_false_iff.2 fun step => h t ht (isStep_percents.1 step)
  have same : resolve (percents l) =
      l.map fun s => String.ofList (percentChars isUnreserved s.toList) := by
    rw [resolve, resolveFrom_of_no_steps [] steps, percents, List.map_map]
    simp [segment_percentChars, Function.comp_def]
  rw [same, segmentsRead_segments]
  · simp [readUtf8?_percentBytes, Function.comp_def]
  · intro s hs c hc
    obtain ⟨t, -, rfl⟩ := List.mem_map.1 hs
    rw [String.toList_ofList] at hc
    exact beq_eq_false_iff_ne.2 (isPlain_spec (isPlain_of_mem_percentChars hc)).2.2.1

/-- **Segments with dots are not**: one is missing, or there is an empty one at the end. -/
theorem segmentsRead_of_dots {l : List String} (h : ∃ s ∈ l, IsDots s)
    (last : l.getLast? ≠ some "") :
    segmentsRead (.segments (resolve (percents l))) ≠ l.map some := by
  have step : ∃ s ∈ percents l, isStep s = true := by
    obtain ⟨s, hs, dots⟩ := h
    exact ⟨_, List.mem_map_of_mem hs, isStep_percents.2 dots⟩
  have noSlash : ∀ s ∈ resolve (percents l), ∀ c ∈ s.toList, (c == '/') = false := by
    intro s hs c hc
    rcases mem_resolveFrom hs with hs | rfl | ⟨t, ht, rfl⟩
    · exact absurd hs List.not_mem_nil
    · exact absurd hc List.not_mem_nil
    · obtain ⟨u, -, rfl⟩ := List.mem_map.1 ht
      rw [segment_percentChars, String.toList_ofList] at hc
      exact beq_eq_false_iff_ne.2 (isPlain_spec (isPlain_of_mem_percentChars hc)).2.2.1
  rw [segmentsRead_segments noSlash]
  intro same
  rcases resolveFrom_of_step [] step with short | empty
  · have := congrArg List.length same
    rw [← resolve] at short
    simp only [List.length_map, percents, List.length_nil] at this short
    omega
  · have := congrArg List.getLast? same
    rw [List.getLast?_map, List.getLast?_map, resolve, empty, Option.map_some] at this
    obtain ⟨s, hs, text⟩ := Option.map_eq_some_iff.1 this.symm
    have nothing : readUtf8? (percentBytes "".toList) = some "" := readUtf8?_utf8Bytes []
    rw [nothing] at text
    exact last (Option.some.inj text ▸ hs)

/-! ## The address of a call -/

namespace Call

variable {c : Call} {name : String}

theorem segments_of_name? (h : c.name? = some name) : ∃ before after,
    c.segments = before ++ name :: after ∧ ∀ s ∈ before ++ after, s ≠ "" ∧ ¬ IsDots s := by
  cases c with
  | pins => cases h; exact ⟨[], _, rfl, by decide⟩
  | listens => cases h; exact ⟨["user"], _, rfl, by decide⟩
  | scores => cases h; exact ⟨["feedback", "user"], _, rfl, by decide⟩
  | playlist => cases h; exact ⟨["playlist"], [], rfl, by decide⟩
  | change m =>
    cases m with
    | removeTrack => cases h; exact ⟨["playlist"], _, rfl, by decide⟩
    | recommend => cases h; exact ⟨["user"], _, rfl, by decide⟩
    | _ => exact nomatch h

theorem segments_ne_empty (h : c.name? = some name) (given : name ≠ "") :
    c.segments ≠ [] ∧ ∀ s ∈ c.segments, s ≠ "" := by
  obtain ⟨before, after, segments, fixed⟩ := segments_of_name? h
  rw [segments]
  refine ⟨by simp, fun s hs => ?_⟩
  rcases List.mem_append.1 hs with hs | hs
  · exact (fixed s (List.mem_append_left _ hs)).1
  · rcases List.mem_cons.1 hs with rfl | hs
    · exact given
    · exact (fixed s (List.mem_append_right _ hs)).1

/-- The name is the only segment of a call that may be dots. -/
theorem no_dots_iff (h : c.name? = some name) :
    (∀ s ∈ c.segments, ¬ IsDots s) ↔ ¬ IsDots name := by
  obtain ⟨before, after, segments, fixed⟩ := segments_of_name? h
  rw [segments]
  refine ⟨fun all => all name (by simp), fun dots s hs => ?_⟩
  rcases List.mem_append.1 hs with hs | hs
  · exact (fixed s (List.mem_append_left _ hs)).2
  · rcases List.mem_cons.1 hs with rfl | hs
    · exact dots
    · exact (fixed s (List.mem_append_right _ hs)).2

end Call

/-! ## The address of a call -/

theorem Call.request?_of_asked? {c : Call} {server : String} {path : UrlPath}
    (asked : c.asked? server = some path) :
    ∃ r, c.request? server = .ok r ∧ r.url.path = path := by
  unfold asked? send at asked
  cases known : c.known? with
  | some result => simp [known] at asked
  | none =>
    cases request : c.request? server with
    | error e => simp [known, request] at asked
    | ok r => exact ⟨r, rfl, by simpa [known, request] using asked⟩

theorem Call.path_withQuery (c : Call) (u : Url) : (c.withQuery u).path = u.path := by
  unfold withQuery addQuery
  split
  · rfl
  · split <;> rfl

theorem cons_intercalate {l : List (List Char)} (h : l ≠ []) :
    '/' :: ['/'].intercalate l = slashed l := by
  induction l with
  | nil => exact absurd rfl h
  | cons s l ih =>
    cases l with
    | nil => simp [slashed]
    | cons t l =>
      rw [slashed, List.flatMap_cons, ← slashed, ← ih (List.cons_ne_nil t l)]
      simp

namespace Site

variable (site : Site)

theorem percents_base : percents site.base = site.base.map String.toList :=
  List.map_congr_left fun s hs => percentChars_of_kept (site.unreserved s hs).2

theorem toList_text : site.text.toList =
    site.scheme.toList ++
      ':' :: '/' :: '/' :: (site.host.toList ++ slashed (percents site.base)) := by
  simp [text, toList_pathText, percents_base]

theorem text_end : ∃ front last, site.text.toList = front ++ [last] ∧ isBlank last = false ∧
    last ≠ '/' := by
  rcases List.eq_nil_or_concat site.base with none | ⟨before, s, some⟩
  · have given : site.host.toList ≠ [] := by simpa using site.given
    obtain ⟨slash, -, -, blank⟩ := site.bare _ (List.getLast_mem given)
    refine ⟨site.scheme.toList ++ ':' :: '/' :: '/' :: site.host.toList.dropLast,
      site.host.toList.getLast given, ?_, blank, ?_⟩
    · rw [toList_text, none]
      simp [percents, slashed, List.dropLast_concat_getLast]
    · intro h
      rw [h] at slash
      exact absurd slash (by decide)
  · obtain ⟨given, plain⟩ := site.unreserved s (by simp [some])
    have given : s.toList ≠ [] := by simpa using given
    have spec := isPlain_spec (c := s.toList.getLast given)
      (by rw [isPlain, plain _ (List.getLast_mem given), Bool.true_or])
    refine ⟨site.scheme.toList ++ ':' :: '/' :: '/' :: (site.host.toList ++
      (slashed (before.map String.toList) ++ '/' :: s.toList.dropLast)),
      s.toList.getLast given, ?_, spec.2.2.2.2.2.2.2, spec.2.2.1⟩
    rw [toList_text, percents_base, some]
    simp [slashed, List.dropLast_concat_getLast]

theorem normalBase_text : normalBase site.text = site.text := by
  obtain ⟨front, last, ends, blank, slash⟩ := site.text_end
  have starts : ∃ rest, site.text.toList = 'h' :: rest := by
    rw [toList_text]
    rcases site.web with h | h <;> rw [h] <;> exact ⟨_, rfl⟩
  have trimmed : trimChars site.text.toList = site.text.toList := by
    obtain ⟨rest, starts⟩ := starts
    rw [trimChars, starts, List.dropWhile_cons_of_neg (by decide), ← starts, ends]
    simp [dropEndWhile, blank]
  have kept : dropEndSlashes (trim site.text) = site.text := by
    rw [String.ext_iff, toList_dropEndSlashes, toList_trim, trimmed, ends]
    simp [dropEndWhile, slash]
  have given : site.text ≠ "" := by
    obtain ⟨rest, starts⟩ := starts
    rintro h
    rw [h] at starts
    exact absurd starts (by simp)
  simp only [normalBase, kept, if_neg given]

end Site

namespace Call

variable (site : Site) {c : Call} {name : String} (named : c.name? = some name) (given : name ≠ "")
include named given

theorem toList_path : '/' :: c.path.toList = slashed (percents c.segments) := by
  have segments := (segments_ne_empty named given).1
  have texts : (c.segments.map segmentText).map String.toList = percents c.segments := by
    simp [segmentText, percents]
  rw [path, String.toList_intercalate, texts]
  exact cons_intercalate (by simpa [percents] using segments)

theorem dropWhile_path : c.path.toList.dropWhile (· == '/') = c.path.toList := by
  obtain ⟨some_segment, filled⟩ := segments_ne_empty named given
  obtain ⟨s, l, segments⟩ := List.exists_cons_of_ne_nil some_segment
  have text : c.path.toList = percentChars isUnreserved s.toList ++ slashed (percents l) := by
    have path := toList_path named given
    rw [segments] at path
    simpa [percents, slashed] using path
  have start : percentChars isUnreserved s.toList ≠ [] := by
    intro none
    have back := readUtf8?_percentBytes s
    have nothing : readUtf8? (percentBytes []) = some "" := readUtf8?_utf8Bytes []
    rw [none, nothing] at back
    exact filled s (by simp [segments]) (Option.some.inj back).symm
  obtain ⟨d, more, first⟩ := List.exists_cons_of_ne_nil start
  have noSlash : d ≠ '/' :=
    (isPlain_spec (isPlain_of_mem_percentChars (first ▸ List.mem_cons_self))).2.2.1
  rw [text, first, List.cons_append, List.dropWhile_cons_of_neg (by simpa using noSlash)]

theorem toList_endpoint : (endpoint (normalBase site.text) c.path).toList =
    site.scheme.toList ++ ':' :: '/' :: '/' ::
      (site.host.toList ++ slashed (percents (site.base ++ c.segments))) := by
  have path : "/".toList ++ c.path.toList = slashed (percents c.segments) :=
    toList_path named given
  have split : slashed (percents (site.base ++ c.segments)) =
      slashed (percents site.base) ++ slashed (percents c.segments) := by
    simp [slashed, percents]
  rw [site.normalBase_text, endpoint, dropWhile_path named given, split, ← path]
  simp [site.toList_text]

theorem parse?_endpoint : Url.parse? (endpoint (normalBase site.text) c.path) =
    (readAuthority? site.scheme site.host.toList).map fun a =>
      { scheme := site.scheme, host := some a.1, port := a.2.1,
        path := .segments (resolve (percents (site.base ++ c.segments))) } := by
  have host : ∀ d ∈ site.host.toList,
      isSlash true d = false ∧ d ≠ '#' ∧ d ≠ '?' ∧ isLineBreak d = false := by
    intro d hd
    obtain ⟨slash, hash, question, blank⟩ := site.bare d hd
    refine ⟨slash, hash, question, Bool.eq_false_iff.2 fun line => ?_⟩
    simp only [isLineBreak, Bool.or_eq_true, beq_iff_eq] at line
    rcases line with (rfl | rfl) | rfl <;> exact absurd blank (by decide)
  have segments : percents (site.base ++ c.segments) ≠ [] := by
    simp [percents, (segments_ne_empty named given).1]
  rw [← parse?_web site.web (by simpa using site.given) host segments isPlain_percents,
    ← toList_endpoint site named given, String.ofList_toList]

/-- **The path that is asked for.** -/
theorem asked?_eq {path : UrlPath} (asked : c.asked? (normalBase site.text) = some path) :
    path = .segments (resolve (percents (site.base ++ c.segments))) := by
  obtain ⟨r, request, rfl⟩ := request?_of_asked? asked
  rw [request?, parse?_endpoint site named given] at request
  cases authority : readAuthority? site.scheme site.host.toList with
  | none => simp [authority] at request
  | some a =>
    simp only [authority, Option.map_some] at request
    split_ifs at request
    cases request
    exact path_withQuery c _

/-- The path that is asked for has the segments that were meant, but for dots among them. -/
theorem segmentsRead_asked?_iff {path : UrlPath}
    (asked : c.asked? (normalBase site.text) = some path) :
    segmentsRead path = (site.base ++ c.segments).map some ↔
      ∀ s ∈ name :: site.base, ¬ IsDots s := by
  obtain ⟨some_segment, filled⟩ := segments_ne_empty named given
  have dots : (∀ s ∈ site.base ++ c.segments, ¬ IsDots s) ↔
      ∀ s ∈ name :: site.base, ¬ IsDots s := by
    rw [List.forall_mem_append, List.forall_mem_cons, no_dots_iff named, and_comm]
  rw [asked?_eq site named given asked, ← dots]
  refine ⟨fun same => ?_, segmentsRead_of_no_dots⟩
  by_contra some_dots
  push Not at some_dots
  refine segmentsRead_of_dots some_dots (fun last => ?_) same
  rw [List.getLast?_append_of_ne_nil _ some_segment] at last
  exact filled _ (List.mem_of_getLast? last) rfl

end Call

/-! ## Names -/

theorem Call.name?_withName {c : Call} {name : String} (named : c.name? = some name)
    (other : String) : (c.withName other).name? = some other := by
  cases c with
  | change m => cases m <;> first | rfl | exact nomatch named
  | _ => rfl

theorem Call.segments_withName_inj {c : Call} {name other : String} (named : c.name? = some name)
    (same : (c.withName other).segments = c.segments) : other = name := by
  cases c with
  | change m =>
    cases m with
    | removeTrack => cases named; simpa [withName, segments] using same
    | recommend => cases named; simpa [withName, segments] using same
    | _ => exact nomatch named
  | _ => cases named; simpa [withName, segments] using same

/-- **A name or id stays in its segment of the path exactly if it is neither one dot nor two**, and
then no other such name asks for the same path. -/
theorem names_stay_iff (site : Site) {c : Call} {name : String} (named : c.name? = some name)
    (given : name ≠ "") {path : UrlPath} (asked : c.asked? (normalBase site.text) = some path) :
    (segmentsRead path = (site.base ++ c.segments).map some ↔
      ∀ s ∈ name :: site.base, ¬ IsDots s) ∧
    ∀ other path', other ≠ "" → (c.withName other).asked? (normalBase site.text) = some path' →
      (∀ s ∈ name :: other :: site.base, ¬ IsDots s) → pathText path' = pathText path →
      other = name := by
  refine ⟨c.segmentsRead_asked?_iff site named given asked,
    fun other path' filled asked' dots same => ?_⟩
  have meant : segmentsRead path = (site.base ++ c.segments).map some :=
    (c.segmentsRead_asked?_iff site named given asked).2 fun s hs =>
      dots s (by simp only [List.mem_cons] at hs ⊢; tauto)
  have meant' : segmentsRead path' = (site.base ++ (c.withName other).segments).map some :=
    ((c.withName other).segmentsRead_asked?_iff site (c.name?_withName named other) filled
      asked').2 fun s hs => dots s (List.mem_cons_of_mem _ hs)
  have read : segmentsRead path' = segmentsRead path := by rw [segmentsRead, same, segmentsRead]
  rw [meant, meant', List.map_inj_right (fun _ _ => Option.some.inj)] at read
  exact c.segments_withName_inj named (List.append_cancel_left read)

/-- A server on the same machine. -/
def localSite : Site where
  scheme := "http"
  host := "localhost:8080"
  base := ["1"]
  web := .inl rfl
  given := by decide
  bare := by simp [isSlash, isBlank, blankRanges]
  unreserved := by simp [isUnreserved]

/-- A name with delimiters and a letter of two bytes stays in its segment. -/
theorem names_stay_of_delimiters :
    (Call.listens "a/../ü?#" 25).name? = some "a/../ü?#" ∧
    (Call.listens "a/../ü?#" 25).asked? (normalBase localSite.text) =
      some (.segments ["1", "user", "a%2F..%2F%C3%BC%3F%23", "listens"]) ∧
    segmentsRead (.segments ["1", "user", "a%2F..%2F%C3%BC%3F%23", "listens"]) =
      [some "1", some "user", some "a/../ü?#", some "listens"] := by
  have asked : (Call.listens "a/../ü?#" 25).asked? (normalBase localSite.text) =
      some (.segments ["1", "user", "a%2F..%2F%C3%BC%3F%23", "listens"]) := by decide +kernel
  exact ⟨rfl, asked, (names_stay_iff localSite rfl (by decide) asked).1.2 (by decide)⟩

/-- A user whose name is two dots: the pins asked for are those of no user, at a path above the
server's own. -/
theorem pins_of_dots :
    (Call.pins ".." 0 25).asked? (normalBase localSite.text) = some (.segments ["pins"]) ∧
      segmentsRead (.segments ["pins"]) ≠
        (localSite.base ++ (Call.pins ".." 0 25).segments).map some := by
  decide +kernel

end ListenDeck
