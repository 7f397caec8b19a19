import ListenDeck.Proofs.Url.Paths
import Mathlib.Data.List.TakeWhile

/-!
# Addresses of the web

How the address of a host and of segments after it is read: the text is cut at the colon after the
scheme and at the first slash after the host, and neither blanks nor query nor fragment take
anything from the segments.

* `parse?_web`: the address of a host and segments in percent form.
-/

namespace ListenDeck.Url

open Text

/-! ## Cutting -/

theorem cutAt_append_sep {sep : Char → Bool} {cs : List Char} (h : ∀ c ∈ cs, sep c = false)
    {s : Char} (hs : sep s = true) (rest : List Char) :
    cutAt sep (cs ++ s :: rest) = (cs, some rest) := by
  induction cs with
  | nil => rw [List.nil_append, cutAt, if_pos hs]
  | cons c cs ih =>
    rw [List.cons_append, cutAt, if_neg (by simp [h c List.mem_cons_self]),
      ih fun d hd => h d (List.mem_cons_of_mem _ hd)]

theorem cutAt_of_no_sep {sep : Char → Bool} {cs : List Char} (h : ∀ c ∈ cs, sep c = false) :
    cutAt sep cs = (cs, none) := by
  induction cs with
  | nil => rfl
  | cons c cs ih =>
    rw [cutAt, if_neg (by simp [h c List.mem_cons_self]),
      ih fun d hd => h d (List.mem_cons_of_mem _ hd)]

theorem mem_of_mem_cutAt {sep : Char → Bool} {cs : List Char} {c : Char}
    (h : c ∈ (cutAt sep cs).1) : c ∈ cs := by
  induction cs with
  | nil => exact h
  | cons d cs ih =>
    rw [cutAt] at h
    split at h
    · exact absurd h List.not_mem_nil
    · rcases List.mem_cons.1 h with rfl | h
      · exact List.mem_cons_self
      · exact List.mem_cons_of_mem _ (ih h)

theorem mem_of_mem_cutAtLast {sep : Char → Bool} {cs : List Char} {c : Char}
    (h : c ∈ (cutAtLast sep cs).2) : c ∈ cs :=
  List.mem_reverse.1 (mem_of_mem_cutAt (List.mem_reverse.1 h))

theorem mem_of_mem_cutPort {inside : Bool} {cs port : List Char} {c : Char}
    (h : (cutPort inside cs).2 = some port) (hc : c ∈ port) : c ∈ cs := by
  induction cs generalizing inside with
  | nil => simp [cutPort] at h
  | cons d cs ih =>
    rw [cutPort] at h
    split at h
    · rw [← Option.some.inj h] at hc
      exact List.mem_cons_of_mem _ hc
    · exact List.mem_cons_of_mem _ (ih h)

theorem readAuthority?_rest {scheme : String} {cs : List Char} {host : String} {port : Option Nat}
    {more : List Char} (h : readAuthority? scheme cs = some (host, port, more))
    (noBackslash : ∀ c ∈ cs, c ≠ '\\') : more = [] := by
  rcases cut : cutAtLast (· == '@') cs with ⟨credentials, place⟩
  rcases split : cutPort false place with ⟨hostChars, portChars⟩
  have clean : ∀ c ∈ portChars.getD [], (c != '\\') = true := by
    intro c hc
    cases portChars with
    | none => exact absurd hc List.not_mem_nil
    | some portChars =>
      have inPlace : c ∈ place := mem_of_mem_cutPort (congrArg Prod.snd split) hc
      have cutPlace : (cutAtLast (· == '@') cs).2 = place := congrArg Prod.snd cut
      have inAll : c ∈ cs := mem_of_mem_cutAtLast (cutPlace ▸ inPlace)
      exact bne_iff_ne.2 (noBackslash c inAll)
  have nothing : (portChars.getD []).dropWhile (· != '\\') = [] :=
    List.dropWhile_eq_nil_iff.2 clean
  simp only [readAuthority?, cut, split, nothing] at h
  split at h
  · split at h
    · exact nomatch h
    · simp_all
  · split at h
    all_goals
      obtain ⟨name, -, h⟩ := Option.bind_eq_some_iff.1 h
      obtain ⟨number, -, h⟩ := Option.bind_eq_some_iff.1 h
      cases h
      rfl

/-! ## The whole -/

section Web

variable {scheme : String} (web : scheme = "http" ∨ scheme = "https")
  {host : List Char} (given : host ≠ [])
  (bare : ∀ c ∈ host, isSlash true c = false ∧ c ≠ '#' ∧ c ≠ '?' ∧ isLineBreak c = false)
  {l : List (List Char)} (some_segment : l ≠ []) (plain : ∀ s ∈ l, ∀ c ∈ s, isPlain c = true)

include some_segment in
theorem slashed_ne_nil : slashed l ≠ [] := by
  obtain ⟨s, l, rfl⟩ := List.exists_cons_of_ne_nil some_segment
  simp [slashed]

include plain in
theorem slashed_spec {c : Char} (h : c ∈ slashed l) : c = '/' ∨ isPlain c = true := by
  obtain ⟨s, hs, hc⟩ := List.mem_flatMap.1 h
  exact (List.mem_cons.1 hc).imp_right (plain s hs c)

include bare plain in
/-- Nothing between the scheme and the end is cut off or left out. -/
theorem place_spec {c : Char} (h : c ∈ '/' :: '/' :: (host ++ slashed l)) :
    c ≠ '#' ∧ c ≠ '?' ∧ isLineBreak c = false := by
  have slash : '/' ≠ '#' ∧ '/' ≠ '?' ∧ isLineBreak '/' = false := by decide
  simp only [List.mem_cons, List.mem_append] at h
  rcases h with rfl | rfl | h | h
  · exact slash
  · exact slash
  · exact (bare c h).2
  · rcases slashed_spec plain h with rfl | h
    · exact slash
    · obtain ⟨-, -, -, hash, question, -, line, -⟩ := isPlain_spec h
      exact ⟨hash, question, line⟩

include web given bare some_segment plain in
theorem readPlace?_web : readPlace? scheme ('/' :: '/' :: (host ++ slashed l)) =
    (readAuthority? scheme host).map fun a => (some a.1, a.2.1, .segments (resolve l)) := by
  have special : isSpecialScheme scheme = true := by rcases web with rfl | rfl <;> decide
  have notFile : scheme ≠ "file" := by rcases web with rfl | rfl <;> decide
  have whole : unbroken ('/' :: '/' :: (host ++ slashed l)) = '/' :: '/' :: (host ++ slashed l) :=
    List.filter_eq_self.2 fun c hc => by simp [(place_spec bare plain hc).2.2]
  obtain ⟨c, more, rfl⟩ := List.exists_cons_of_ne_nil given
  obtain ⟨s, l, rfl⟩ := List.exists_cons_of_ne_nil some_segment
  have first : isSlash true c = false := (bare c List.mem_cons_self).1
  have kept : ∀ d ∈ c :: more, (!isSlash true d) = true := fun d hd => by simp [(bare d hd).1]
  have rest : slashed (s :: l) = '/' :: (s ++ slashed l) := by simp [slashed]
  have path : readPath true (slashed (s :: l)) = resolve (s :: l) := by
    have noSlash : ∀ t ∈ s :: l, ∀ d ∈ t, isSlash true d = false := fun t ht d hd =>
      (isPlain_spec (plain t ht d hd)).2.1
    rw [rest, readPath, if_pos (show isSlash true '/' = true from rfl), pieces_slashed rfl noSlash]
  have slash : isSlash true '/' = true := rfl
  have start : ('/' :: '/' :: (c :: more ++ slashed (s :: l))).dropWhile (isSlash true) =
      c :: more ++ slashed (s :: l) := by
    rw [List.dropWhile_cons_of_pos slash, List.dropWhile_cons_of_pos slash, List.cons_append,
      List.dropWhile_cons_of_neg (by simp [first])]
  have before : (c :: more ++ slashed (s :: l)).takeWhile (fun d => !isSlash true d) =
      c :: more := by
    rw [List.takeWhile_append_of_pos kept, rest, List.takeWhile_cons_of_neg (by simp [slash]),
      List.append_nil]
  have after : (c :: more ++ slashed (s :: l)).dropWhile (fun d => !isSlash true d) =
      slashed (s :: l) := by
    rw [List.dropWhile_append_of_pos kept, rest, List.dropWhile_cons_of_neg (by simp [slash])]
  rw [readPlace?, if_neg notFile, whole, readSite?]
  simp only [special, if_true, start, before, after]
  rcases authority : readAuthority? scheme (c :: more) with _ | ⟨name, port, left⟩
  · rfl
  · have nothing : left = [] := readAuthority?_rest authority fun d hd => by
      rintro rfl
      exact absurd (bare _ hd).1 (by decide)
    simp [nothing, path]

theorem trimOuter_of_ends {cs : List Char} (first : cs.head?.all (!isOuterBlank ·) = true)
    (last : cs.getLast?.all (!isOuterBlank ·) = true) : trimOuter cs = cs := by
  have keep {ds : List Char} (h : ds.head?.all (!isOuterBlank ·) = true) :
      ds.dropWhile isOuterBlank = ds := by
    cases ds with
    | nil => rfl
    | cons d ds => exact List.dropWhile_cons_of_neg (by simpa using h)
  rw [trimOuter, keep first, dropEndWhile, keep (by rwa [List.head?_reverse]), List.reverse_reverse]

include web given bare some_segment plain in
/-- **The address of a host and of segments in percent form.** -/
theorem parse?_web :
    parse? (String.ofList (scheme.toList ++ ':' :: '/' :: '/' :: (host ++ slashed l))) =
      (readAuthority? scheme host).map fun a =>
        { scheme, host := some a.1, port := a.2.1, path := .segments (resolve l) } := by
  have place := fun c hc => place_spec (l := l) bare plain (c := c) hc
  have front : (∀ c ∈ scheme.toList, (c == ':') = false) ∧ unbroken scheme.toList = scheme.toList ∧
      scheme? scheme.toList = some scheme := by
    rcases web with rfl | rfl <;> exact ⟨by simp, by decide⟩
  have ends : (scheme.toList ++ ':' :: '/' :: '/' :: (host ++ slashed l)).getLast?.all
      (!isOuterBlank ·) = true := by
    have given : slashed l ≠ [] := slashed_ne_nil some_segment
    have inPath : (slashed l).getLast given ∈ slashed l := List.getLast_mem given
    have blank : isOuterBlank ((slashed l).getLast given) = false := by
      rcases slashed_spec plain inPath with h | h
      · rw [h]; decide
      · exact (isPlain_spec h).2.2.2.2.2.1
    have split : scheme.toList ++ ':' :: '/' :: '/' :: (host ++ slashed l) =
        (scheme.toList ++ ':' :: '/' :: '/' :: host) ++ slashed l := by simp
    rw [split, List.getLast?_append_of_ne_nil _ given, List.getLast?_eq_some_getLast given]
    simpa using blank
  have trimmed : trimOuter (scheme.toList ++ ':' :: '/' :: '/' :: (host ++ slashed l)) =
      scheme.toList ++ ':' :: '/' :: '/' :: (host ++ slashed l) := by
    exact trimOuter_of_ends (by rcases web with rfl | rfl <;> rfl) ends
  have noHash : ∀ c ∈ '/' :: '/' :: (host ++ slashed l), (c == '#') = false := fun c hc =>
    beq_eq_false_iff_ne.2 (place c hc).1
  have noQuestion : ∀ c ∈ '/' :: '/' :: (host ++ slashed l), (c == '?') = false := fun c hc =>
    beq_eq_false_iff_ne.2 (place c hc).2.1
  rw [parse?, String.toList_ofList, trimmed, cutAt_append_sep front.1 (by decide)]
  simp only [front.2.1, front.2.2, cutAt_of_no_sep noHash, cutAt_of_no_sep noQuestion,
    readPlace?_web web given bare some_segment plain, Option.bind_eq_bind, Option.bind_some]
  cases readAuthority? scheme host with
  | none => rfl
  | some a => rfl

end Web

end ListenDeck.Url
