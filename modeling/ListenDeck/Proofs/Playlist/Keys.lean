import ListenDeck.Pages.Playlist
import ListenDeck.Proofs.Text.Numerals
import Mathlib.Data.List.Nodup
import Mathlib.Data.List.Perm.Basic
import Mathlib.Tactic.Common

/-!
# The keys of tracks

The key of a track is its id with the number of the occurrence, counted from the top of the
playlist. Keys are therefore handed out from the top: when a track leaves, it is always the last
key of its id that goes.

* `trackKey_inj`: a key tells id and number.
* `getElem?_trackKeys`: the key of a track counts its id down to the track.
* `key_of_earlier`: it is the next one after those of the earlier tracks of its id.
* `mem_trackKeys`: the keys of an id are those of the numbers up to its count.
* `nodup_trackKeys`: no key is given twice.
* `mem_trackKeys_eraseIdx`: the key that goes with a track.
-/

namespace ListenDeck

open Text

/-- The key of an occurrence of an id. -/
def trackKey (id : String) (n : Nat) : String := id ++ "#" ++ decimal n

/-- How often an id occurs. -/
def occurrences (id : String) (tracks : List PlaylistTrack) : Nat :=
  tracks.countP fun t => decide (t.id = id)

/-! ## Keys -/

theorem hash_notMem_decimal (n : Nat) : '#' ∉ (decimal n).toList := by
  intro h
  rw [decimal, Nat.toList_repr] at h
  have hdigit := Nat.isDigit_of_mem_toDigits (by omega) (by omega) h
  cases hdigit

/-- What stands before the last hash sign is told from what follows it. -/
theorem append_hash_inj {l₁ l₂ r₁ r₂ : List Char} (h₁ : '#' ∉ r₁) (h₂ : '#' ∉ r₂)
    (h : l₁ ++ '#' :: r₁ = l₂ ++ '#' :: r₂) : l₁ = l₂ ∧ r₁ = r₂ := by
  -- a part that one side has more would bring a hash sign into what follows the last one
  have hnone : ∀ {r r' c : List Char}, '#' ∉ r → '#' :: r = c ++ '#' :: r' → c = [] := by
    intro r r' c hr hc
    cases c with
    | nil => rfl
    | cons a c =>
      obtain ⟨-, rfl⟩ := List.cons.inj hc
      exact absurd (by simp) hr
  rcases List.append_eq_append_iff.mp h with ⟨c, rfl, hc⟩ | ⟨c, rfl, hc⟩
  · obtain rfl := hnone h₁ hc
    exact ⟨(List.append_nil _).symm, (List.cons.inj hc).2⟩
  · obtain rfl := hnone h₂ hc
    exact ⟨List.append_nil _, (List.cons.inj hc).2.symm⟩

/-- **A key tells id and number**, whatever stands in the id. -/
theorem trackKey_inj {id id' : String} {n n' : Nat} :
    trackKey id n = trackKey id' n' ↔ id = id' ∧ n = n' := by
  constructor
  · intro h
    have hchars := congrArg String.toList h
    simp only [trackKey, String.toList_append, List.append_assoc] at hchars
    obtain ⟨hid, hn⟩ :=
      append_hash_inj (hash_notMem_decimal n) (hash_notMem_decimal n') hchars
    exact ⟨String.toList_inj.mp hid, decimal_injective (String.toList_inj.mp hn)⟩
  · rintro ⟨rfl, rfl⟩
    rfl

/-! ## The keys of a list -/

section Keys
variable {tracks : List PlaylistTrack}

theorem occurrences_nil (id : String) : occurrences id [] = 0 := rfl

theorem occurrences_cons (id : String) (t : PlaylistTrack) (rest : List PlaylistTrack) :
    occurrences id (t :: rest) = occurrences id rest + if t.id = id then 1 else 0 := by
  simp [occurrences, List.countP_cons]

/-- How often an id was seen. -/
def seenTimes (seen : List (String × Nat)) (id : String) : Nat := (Named.find? id seen).getD 0

theorem trackKeysFrom_cons (seen : List (String × Nat)) (t : PlaylistTrack)
    (rest : List PlaylistTrack) : trackKeysFrom seen (t :: rest) =
      trackKey t.id (seenTimes seen t.id + 1) ::
        trackKeysFrom (Named.put t.id (seenTimes seen t.id + 1) seen) rest := rfl

theorem seenTimes_put (seen : List (String × Nat)) (id other : String) :
    seenTimes (Named.put id (seenTimes seen id + 1) seen) other =
      seenTimes seen other + if id = other then 1 else 0 := by
  unfold seenTimes
  rw [Named.find?_put]
  by_cases h : other = id
  · rw [if_pos h, if_pos h.symm, h]
    rfl
  · rw [if_neg h, if_neg (Ne.symm h), Nat.add_zero]

theorem getElem?_trackKeysFrom (seen : List (String × Nat)) (tracks : List PlaylistTrack)
    (i : Nat) : (trackKeysFrom seen tracks)[i]? = tracks[i]?.map fun t =>
      trackKey t.id (seenTimes seen t.id + occurrences t.id (tracks.take (i + 1))) := by
  induction tracks generalizing seen i with
  | nil => simp [trackKeysFrom]
  | cons t rest ih =>
    rw [trackKeysFrom_cons]
    cases i with
    | zero => simp [occurrences_cons, occurrences_nil]
    | succ i =>
      rw [List.getElem?_cons_succ, List.getElem?_cons_succ, ih]
      congr 1
      funext t'
      rw [seenTimes_put, List.take_succ_cons, occurrences_cons]
      congr 1
      omega

/-- **The key of a track** counts its id down to the track. -/
theorem getElem?_trackKeys (tracks : List PlaylistTrack) (i : Nat) :
    (trackKeys tracks)[i]? = tracks[i]?.map fun t =>
      trackKey t.id (occurrences t.id (tracks.take (i + 1))) := by
  have hseen : ∀ id, seenTimes [] id = 0 := fun _ => rfl
  simp only [trackKeys, getElem?_trackKeysFrom, hseen, Nat.zero_add]

theorem occurrences_take_succ {i : Nat} {t : PlaylistTrack} (ht : tracks[i]? = some t) :
    occurrences t.id (tracks.take (i + 1)) = occurrences t.id (tracks.take i) + 1 := by
  unfold occurrences
  rw [List.take_add_one, ht, List.countP_append]
  simp

/-- **Id and earlier tracks of the same id** make the key of a track. -/
theorem key_of_earlier {i : Nat} {t : PlaylistTrack} (ht : tracks[i]? = some t) :
    (trackKeys tracks)[i]? = some (trackKey t.id (occurrences t.id (tracks.take i) + 1)) := by
  rw [getElem?_trackKeys, ht, Option.map_some, occurrences_take_succ ht]

theorem mem_trackKeysFrom (seen : List (String × Nat)) (tracks : List PlaylistTrack) {k : String} :
    k ∈ trackKeysFrom seen tracks ↔ ∃ id n, k = trackKey id n ∧ seenTimes seen id < n ∧
      n ≤ seenTimes seen id + occurrences id tracks := by
  induction tracks generalizing seen with
  | nil =>
    refine ⟨fun h => absurd h List.not_mem_nil, ?_⟩
    rintro ⟨id, n, -, hlt, hle⟩
    rw [occurrences_nil, Nat.add_zero] at hle
    omega
  | cons t rest ih =>
    rw [trackKeysFrom_cons, List.mem_cons, ih]
    simp only [seenTimes_put, occurrences_cons]
    constructor
    · rintro (rfl | ⟨id, n, rfl, hlt, hle⟩)
      · exact ⟨t.id, _, rfl, by omega, by simp⟩
      · exact ⟨id, n, rfl, by omega, by omega⟩
    · rintro ⟨id, n, rfl, hlt, hle⟩
      by_cases hid : t.id = id
      · subst hid
        rw [if_pos rfl] at hle
        rcases Nat.lt_or_eq_of_le (Nat.succ_le_of_lt hlt) with h | rfl
        · exact .inr ⟨t.id, n, rfl, by rw [if_pos rfl]; omega, by rw [if_pos rfl]; omega⟩
        · exact .inl rfl
      · rw [if_neg hid] at hle
        exact .inr ⟨id, n, rfl, by rw [if_neg hid]; omega, by rw [if_neg hid]; omega⟩

/-- **The keys of an id** are those of the numbers from one up to its count. -/
theorem mem_trackKeys (tracks : List PlaylistTrack) {id : String} {n : Nat} :
    trackKey id n ∈ trackKeys tracks ↔ 0 < n ∧ n ≤ occurrences id tracks := by
  rw [trackKeys, mem_trackKeysFrom]
  constructor
  · rintro ⟨id', n', h, hlt, hle⟩
    obtain ⟨rfl, rfl⟩ := trackKey_inj.mp h
    exact ⟨hlt, by simpa [seenTimes, Named.find?] using hle⟩
  · rintro ⟨hlt, hle⟩
    exact ⟨id, n, rfl, hlt, by simpa [seenTimes, Named.find?] using hle⟩

theorem exists_trackKey {k : String} (h : k ∈ trackKeys tracks) : ∃ id n, k = trackKey id n := by
  rw [trackKeys, mem_trackKeysFrom] at h
  obtain ⟨id, n, hk, -, -⟩ := h
  exact ⟨id, n, hk⟩

/-- **No key is given twice.** -/
theorem nodup_trackKeys (tracks : List PlaylistTrack) : (trackKeys tracks).Nodup := by
  rw [trackKeys]
  generalize ([] : List (String × Nat)) = seen
  induction tracks generalizing seen with
  | nil => exact List.nodup_nil
  | cons t rest ih =>
    rw [trackKeysFrom_cons, List.nodup_cons]
    refine ⟨fun h => ?_, ih _⟩
    obtain ⟨id, n, hk, hlt, -⟩ := (mem_trackKeysFrom _ _).mp h
    obtain ⟨rfl, rfl⟩ := trackKey_inj.mp hk
    rw [seenTimes_put, if_pos rfl] at hlt
    exact Nat.lt_irrefl _ hlt

/-- A track has the last key of its id if and only if the id does not occur behind it. -/
theorem last_key_iff (tracks : List PlaylistTrack) (place : Nat) (id : String) :
    trackKey id (occurrences id (tracks.take (place + 1))) = trackKey id (occurrences id tracks) ↔
      ∀ t ∈ tracks.drop (place + 1), t.id ≠ id := by
  have hsplit : occurrences id tracks = occurrences id (tracks.take (place + 1)) +
      occurrences id (tracks.drop (place + 1)) := by
    unfold occurrences
    rw [← List.countP_append, List.take_append_drop]
  have hzero : occurrences id (tracks.drop (place + 1)) = 0 ↔
      ∀ t ∈ tracks.drop (place + 1), t.id ≠ id := by
    simp only [occurrences, List.countP_eq_zero, decide_eq_true_eq]
  rw [trackKey_inj, and_iff_right rfl, ← hzero]
  omega

end Keys

/-! ## A track leaves -/

section Erase
variable {tracks : List PlaylistTrack} {place : Nat} {t : PlaylistTrack}
  (ht : tracks[place]? = some t)
include ht

theorem occurrences_eraseIdx (id : String) : occurrences id tracks =
    occurrences id (tracks.eraseIdx place) + if t.id = id then 1 else 0 := by
  obtain ⟨hlt, rfl⟩ := List.getElem?_eq_some_iff.mp ht
  have hperm := (List.getElem_cons_eraseIdx_perm hlt).countP_eq fun t => decide (t.id = id)
  rw [occurrences, ← hperm]
  exact occurrences_cons id _ _

/-- **The key that goes with a track** is the last one of its id. -/
theorem mem_trackKeys_eraseIdx {k : String} : k ∈ trackKeys (tracks.eraseIdx place) ↔
    k ∈ trackKeys tracks ∧ k ≠ trackKey t.id (occurrences t.id tracks) := by
  have hkey : ∀ id n, trackKey id n ∈ trackKeys (tracks.eraseIdx place) ↔
      trackKey id n ∈ trackKeys tracks ∧
        trackKey id n ≠ trackKey t.id (occurrences t.id tracks) := by
    intro id n
    have hcount := occurrences_eraseIdx ht id
    rw [mem_trackKeys, mem_trackKeys, Ne, trackKey_inj]
    by_cases hid : t.id = id
    · subst hid
      rw [if_pos rfl] at hcount
      simp only [true_and]
      omega
    · rw [if_neg hid] at hcount
      simp only [Ne.symm hid, false_and, not_false_eq_true, and_true]
      omega
  constructor
  · intro h
    obtain ⟨id, n, rfl⟩ := exists_trackKey h
    exact (hkey id n).mp h
  · intro h
    obtain ⟨id, n, rfl⟩ := exists_trackKey h.1
    exact (hkey id n).mpr h

end Erase

end ListenDeck
