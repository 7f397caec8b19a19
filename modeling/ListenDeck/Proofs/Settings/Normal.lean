import ListenDeck.Settings.Basic
import Mathlib.Data.List.DropRight

/-!
# Normal forms of settings

How far the normal form of settings is one: what changes when it is taken again.

* `Text.trimChars_trimChars`: blanks are taken away once and for all.
* `Server.Ragged`: an address that ends in a blank and slashes after it. The slashes go, and the
  blank that comes to the end stays.
* `Server.normalBase_normalBase_iff`: the ragged addresses are those without a normal form.
* `Settings.normal_normal_iff`: the same for settings as a whole.
-/

namespace ListenDeck

namespace Text

variable {p : Char → Bool} {l : List Char}

theorem dropEndWhile_eq (p : Char → Bool) (l : List Char) : dropEndWhile p l = l.rdropWhile p := rfl

theorem dropWhile_of_prefix {t : List Char} (h : t <+: l.dropWhile p) : t.dropWhile p = t := by
  cases t with
  | nil => rfl
  | cons c t =>
    obtain ⟨e, he⟩ := h
    have hne : l.dropWhile p ≠ [] := by
      rw [← he]
      simp
    have hc : p ((l.dropWhile p).head hne) = false := List.head_dropWhile_not p hne
    have hhead : (l.dropWhile p).head hne = c := by
      simp only [← he, List.cons_append, List.head_cons]
    rw [hhead] at hc
    exact List.dropWhile_cons_of_neg (by simp [hc])

/-- **Blanks are taken away once and for all.** -/
theorem trimChars_trimChars (cs : List Char) : trimChars (trimChars cs) = trimChars cs := by
  have hstart : (trimChars cs).dropWhile isBlank = trimChars cs :=
    dropWhile_of_prefix (List.rdropWhile_prefix isBlank _)
  calc trimChars (trimChars cs)
      = dropEndWhile isBlank (trimChars cs) := by rw [trimChars.eq_def (trimChars cs), hstart]
    _ = trimChars cs := List.rdropWhile_idempotent isBlank _

theorem trim_trim (s : String) : trim (trim s) = trim s := by
  rw [trim, toList_trim, trimChars_trimChars, ← toList_trim, String.ofList_toList]

end Text

namespace Server

open Text

/-- The address ends in a blank and slashes after it, once the blanks at its ends are gone. -/
def Ragged (address : String) : Prop :=
  ∃ text blank slashes, trimChars address.toList = text ++ blank :: slashes ∧
    isBlank blank = true ∧ ∀ c ∈ slashes, c = '/'

/-- What is left of an address when the blanks around it and the slashes at its end are gone. -/
def bare (address : String) : List Char := dropEndWhile (· == '/') (trimChars address.toList)

theorem normalBase_eq (address : String) : normalBase address =
    if bare address = [] then defaultBase else String.ofList (bare address) := by
  have hbare : dropEndSlashes (trim address) = String.ofList (bare address) := by
    rw [dropEndSlashes, toList_trim]
    rfl
  have hempty : (String.ofList (bare address) = "") ↔ bare address = [] := by
    rw [← String.toList_inj, String.toList_ofList]
    rfl
  unfold normalBase
  simp only [hbare, hempty]

/-- A ragged address keeps a blank at its end. -/
theorem ragged_iff (address : String) : Ragged address ↔
    ∃ text blank, bare address = text ++ [blank] ∧ isBlank blank = true := by
  constructor
  · rintro ⟨text, blank, slashes, htrim, hb, hs⟩
    refine ⟨text, blank, ?_, hb⟩
    have hslash : ¬ (blank == '/') = true := by
      rintro h
      rw [beq_iff_eq.mp h] at hb
      cases hb
    have hend : ∀ c ∈ slashes, (c == '/') = true := fun c hc => beq_iff_eq.mpr (hs c hc)
    have hsplit : text ++ blank :: slashes = (text ++ [blank]) ++ slashes := by simp
    rw [bare, htrim, hsplit, dropEndWhile_append_of_all _ hend]
    exact List.rdropWhile_concat_neg _ _ _ hslash
  · rintro ⟨text, blank, hbare, hb⟩
    refine ⟨text, blank, (trimChars address.toList).rtakeWhile (· == '/'), ?_, hb, fun c hc => ?_⟩
    · have hsplit : bare address ++ (trimChars address.toList).rtakeWhile (· == '/') =
          trimChars address.toList := List.rdropWhile_append_rtakeWhile
      rw [hbare, List.append_assoc] at hsplit
      exact hsplit.symm
    · have hslash := List.mem_rtakeWhile_imp hc
      exact beq_iff_eq.mp hslash

/-- Taken again, the normal form only looks at the end of what is left. -/
theorem bare_ofList_bare (address : String) : bare (String.ofList (bare address)) =
    dropEndWhile (· == '/') (dropEndWhile isBlank (bare address)) := by
  have hprefix : bare address <+: address.toList.dropWhile isBlank :=
    (List.rdropWhile_prefix _ _).trans (List.rdropWhile_prefix _ _)
  rw [bare, String.toList_ofList, trimChars, dropWhile_of_prefix hprefix]

section Again
variable {address : String} {text : List Char} {c : Char} (h : bare address = text ++ [c])
include h

/-- **An end without a blank** is the end for good. -/
theorem normalBase_of_smooth (hc : isBlank c = false) :
    normalBase (normalBase address) = normalBase address := by
  have hne : bare address ≠ [] := by simp [h]
  have hkeep : dropEndWhile isBlank (bare address) = bare address := by
    rw [h]
    exact List.rdropWhile_concat_neg _ _ _ (by simp [hc])
  have hslash : dropEndWhile (· == '/') (bare address) = bare address :=
    List.rdropWhile_idempotent _ _
  rw [normalBase_eq address, if_neg hne, normalBase_eq, bare_ofList_bare, hkeep, hslash, if_neg hne]

/-- **A blank at the end** goes when the normal form is taken again. -/
theorem normalBase_of_blank (hc : isBlank c = true) :
    normalBase (normalBase address) ≠ normalBase address := by
  have hne : bare address ≠ [] := by simp [h]
  have hcut : dropEndWhile isBlank (bare address) = dropEndWhile isBlank text := by
    rw [h]
    exact List.rdropWhile_concat_pos _ _ _ hc
  rw [normalBase_eq address, if_neg hne, normalBase_eq, bare_ofList_bare, hcut]
  intro heq
  split_ifs at heq with hnil
  · -- the public server's address does not end in a blank
    have hlast := congrArg (fun s => s.toList.getLast?) heq
    have hone : defaultBase.toList.getLast? = some '1' := by decide
    simp only [String.toList_ofList, h, List.getLast?_concat, hone, Option.some.injEq] at hlast
    rw [← hlast] at hc
    cases hc
  · have hlen := congrArg (fun s => s.toList.length) heq
    simp only [String.toList_ofList, h, List.length_append, List.length_singleton] at hlen
    have hslash := (List.rdropWhile_prefix (· == '/') (dropEndWhile isBlank text)).length_le
    have hblank := (List.rdropWhile_prefix isBlank text).length_le
    simp only [← dropEndWhile_eq] at hslash hblank
    omega

end Again

/-- **The ragged addresses are those without a normal form.** -/
theorem normalBase_normalBase_iff (address : String) :
    normalBase (normalBase address) = normalBase address ↔ ¬ Ragged address := by
  rw [ragged_iff]
  rcases List.eq_nil_or_concat (bare address) with hnil | ⟨text, c, hconcat⟩
  · have hdefault : normalBase defaultBase = defaultBase := by decide
    rw [normalBase_eq address, if_pos hnil, hdefault, hnil]
    simp
  · rw [List.concat_eq_append] at hconcat
    by_cases hc : isBlank c = true
    · have hragged : ∃ text blank, bare address = text ++ [blank] ∧ isBlank blank = true :=
        ⟨text, c, hconcat, hc⟩
      exact iff_of_false (normalBase_of_blank hconcat hc) (not_not_intro hragged)
    · rw [Bool.not_eq_true] at hc
      refine iff_of_true (normalBase_of_smooth hconcat hc) ?_
      rintro ⟨text', blank, heq, hblank⟩
      rw [hconcat] at heq
      obtain ⟨-, hlast⟩ := List.append_inj' heq rfl
      cases hlast
      rw [hblank] at hc
      cases hc

end Server

theorem Session.start_base (address : String) (user : Option User) :
    (Session.start address user).base = Server.normalBase address := by
  simp only [Session.start]

/-! ## Settings -/

namespace Settings

theorem clampPageSize_clampPageSize (n : UInt32) :
    clampPageSize (clampPageSize n) = clampPageSize n := by
  by_cases hmin : n < minPageSize
  · have hclamp : clampPageSize n = minPageSize := if_pos hmin
    rw [hclamp]
    rfl
  · by_cases hmax : maxPageSize < n
    · have hclamp : clampPageSize n = maxPageSize := by rw [clampPageSize, if_neg hmin, if_pos hmax]
      rw [hclamp]
      rfl
    · have hclamp : clampPageSize n = n := by rw [clampPageSize, if_neg hmin, if_neg hmax]
      rw [hclamp, hclamp]

theorem filter_map_again {α : Type} (clean : α → α) (h : ∀ a, clean (clean a) = clean a)
    (p : α → Bool) (o : Option α) :
    (((o.map clean).filter p).map clean).filter p = (o.map clean).filter p := by
  cases o with
  | none => rfl
  | some a => by_cases hp : p (clean a) = true <;> simp [Option.filter, hp, h]

@[simp] theorem normal_apiUrl (s : Settings) : s.normal.apiUrl = Server.normalBase s.apiUrl := by
  simp only [normal]

/-- **Settings in normal form** are so but for the address. -/
theorem normal_normal (s : Settings) :
    s.normal.normal = { s.normal with apiUrl := Server.normalBase s.normal.apiUrl } := by
  have hof : ∀ u : User, User.of (User.of u.name u.authToken).name
      (User.of u.name u.authToken).authToken = User.of u.name u.authToken := by
    intro u
    simp only [User.of, Text.trim_trim]
  have huser : s.normal.normal.user = s.normal.user :=
    filter_map_again (fun u => User.of u.name u.authToken) hof _ s.user
  have hlast : s.normal.normal.lastPlaylist = s.normal.lastPlaylist :=
    filter_map_again Text.trim Text.trim_trim _ s.lastPlaylist
  have hpage : s.normal.normal.pageSize = s.normal.pageSize :=
    clampPageSize_clampPageSize s.pageSize
  calc s.normal.normal
      = { s.normal with
          apiUrl := Server.normalBase s.normal.apiUrl
          pageSize := s.normal.normal.pageSize
          user := s.normal.normal.user
          lastPlaylist := s.normal.normal.lastPlaylist } := rfl
    _ = { s.normal with apiUrl := Server.normalBase s.normal.apiUrl } := by
      rw [huser, hlast, hpage]

/-- **The normal form of settings is one** unless their address is ragged. -/
theorem normal_normal_iff (s : Settings) :
    s.normal.normal = s.normal ↔ ¬ Server.Ragged s.apiUrl := by
  rw [← Server.normalBase_normalBase_iff, ← normal_apiUrl]
  constructor
  · intro h
    rw [← normal_apiUrl, h]
  · intro h
    rw [normal_normal, h]

end Settings

end ListenDeck
