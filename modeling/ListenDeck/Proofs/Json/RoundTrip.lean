import ListenDeck.Json.Printer
import ListenDeck.Json.Record
import ListenDeck.Proofs.Text.Numerals
import Mathlib.Tactic.Common

/-!
# A written value reads back

* `Json.fits`: a value whose text stands for it: whole numbers of 64 bits only, no container too
  deep, nothing unreadable.
* `stringBody?_quoted`, `number?_decimalInt`: the text of a string, and of a number.
* `value?_toChars`: the text of a value, whatever follows it; by recursion over the value.
* `Json.parse?_render`: the text of a value as a whole.
* `optional_ofOption`, `uint64?_ofUInt64`: fields of records.
-/

namespace ListenDeck.Json

open Text (hexValue? hexDigit decimalInt)

/-! ## Strings -/

theorem unit?_of_control {n : Nat} (h : n < 0x20) :
    unit? '0' '0' (hexDigit (n / 16)) (hexDigit (n % 16)) = some n := by
  have h0 : hexValue? '0' = some 0 := rfl
  have hhigh : hexValue? (hexDigit (n / 16)) = some (n / 16) :=
    Text.hexValue?_hexDigit (by omega)
  have hlow : hexValue? (hexDigit (n % 16)) = some (n % 16) :=
    Text.hexValue?_hexDigit (by omega)
  have hn : (0 * 16 + 0) * 16 + n / 16 = n / 16 := by omega
  simp only [unit?, h0, hhigh, hlow, Option.bind_eq_bind, Option.bind_some, hn]
  congr 1
  omega

/-- A control character that is escaped by its number is no half of a surrogate pair. -/
theorem joinPieces?_control {c : Char} (h : c.toNat < 0x20) (ps : List Piece) :
    joinPieces? (.unit c.toNat :: ps) = (joinPieces? ps).map (c :: ·) := by
  have hhigh : isHighHalf c.toNat = false := by simp [isHighHalf]; omega
  have hlow : isLowHalf c.toNat = false := by simp [isLowHalf]; omega
  have hof : Char.ofNat c.toNat = c := Char.ofNat_toNat c
  cases ps with
  | nil => simp [joinPieces?, hhigh, hlow, hof]
  | cons p ps => cases p <;> simp [joinPieces?, hhigh, hlow, hof]

/-- **An escaped character** is one piece, and stands for the character. -/
theorem pieces?_escapeChar (c : Char) : ∃ p,
    (∀ r, pieces? (escapeChar c ++ r) = (pieces? r).map fun q => (p :: q.1, q.2)) ∧
    ∀ ps, joinPieces? (p :: ps) = (joinPieces? ps).map (c :: ·) := by
  have hchar : ∀ ps, joinPieces? (.char c :: ps) = (joinPieces? ps).map (c :: ·) := fun _ => rfl
  unfold escapeChar
  split_ifs with h1 h2 h3 h4 h5 h6 h7 hcontrol
  · exact ⟨.char c, fun r => by subst h1; rfl, hchar⟩
  · exact ⟨.char c, fun r => by subst h2; rfl, hchar⟩
  · exact ⟨.char c, fun r => by subst h3; rfl, hchar⟩
  · exact ⟨.char c, fun r => by subst h4; rfl, hchar⟩
  · exact ⟨.char c, fun r => by subst h5; rfl, hchar⟩
  · exact ⟨.char c, fun r => by subst h6; rfl, hchar⟩
  · exact ⟨.char c, fun r => by subst h7; rfl, hchar⟩
  · refine ⟨.unit c.toNat, fun r => ?_, joinPieces?_control hcontrol⟩
    simp only [List.cons_append, List.nil_append, pieces?, unit?_of_control hcontrol]
  · refine ⟨.char c, fun r => ?_, hchar⟩
    rw [List.singleton_append, pieces?.eq_def]
    split <;> rename_i heq <;> cases heq
    · exact absurd rfl h1
    · exact absurd rfl h2
    · exact absurd rfl h2
    · exact if_neg hcontrol

theorem stringBody?_quoted (cs r : List Char) :
    stringBody? (cs.flatMap escapeChar ++ '"' :: r) = some (some cs, r) := by
  have hpieces : ∃ ps, pieces? (cs.flatMap escapeChar ++ '"' :: r) = some (ps, r) ∧
      joinPieces? ps = some cs := by
    induction cs with
    | nil => exact ⟨[], rfl, rfl⟩
    | cons c cs ih =>
      obtain ⟨ps, hps, hjoin⟩ := ih
      obtain ⟨p, hp, hc⟩ := pieces?_escapeChar c
      refine ⟨p :: ps, ?_, ?_⟩
      · rw [List.flatMap_cons, List.append_assoc, hp, hps]
        rfl
      · rw [hc, hjoin]
        rfl
  obtain ⟨ps, hps, hjoin⟩ := hpieces
  rw [stringBody?, hps, Option.map_some, hjoin]

/-! ## Numbers -/

/-- What follows a number does not go on with it. -/
def Ends (r : List Char) : Prop :=
  ∀ c ∈ r.head?, c.isDigit = false ∧ c ≠ '.' ∧ c ≠ 'e' ∧ c ≠ 'E'

theorem ends_cons {c : Char} (r : List Char)
    (h : c.isDigit = false ∧ c ≠ '.' ∧ c ≠ 'e' ∧ c ≠ 'E') : Ends (c :: r) := by
  rintro c' hc'
  cases hc'
  exact h

theorem isDigit_toDigits {n : Nat} : ∀ c ∈ Nat.toDigits 10 n, c.isDigit = true :=
  fun _ hc => Nat.isDigit_of_mem_toDigits (by omega) (by omega) hc

theorem head_toDigits {n : Nat} (h : 0 < n) : ∃ c cs, Nat.toDigits 10 n = c :: cs ∧ c ≠ '0' := by
  induction n using Nat.strongRecOn with
  | ind n ih =>
    by_cases hn : n < 10
    · rw [Nat.toDigits_of_lt_base hn]
      refine ⟨_, [], rfl, ?_⟩
      have : ∀ m ∈ List.range 10, 0 < m → Nat.digitChar m ≠ '0' := by decide
      exact this n (List.mem_range.2 hn) h
    · obtain ⟨c, cs, hcs, hc⟩ := ih (n / 10) (by omega) (by omega)
      rw [Nat.toDigits_of_base_le (by omega) (by omega), hcs]
      exact ⟨c, _, rfl, hc⟩

theorem wholePart?_toDigits (n : Nat) {r : List Char} (hr : Ends r) :
    wholePart? (Nat.toDigits 10 n ++ r) = some (Nat.toDigits 10 n, r) := by
  by_cases hn : n = 0
  · subst hn
    have : Nat.toDigits 10 0 = ['0'] := rfl
    rw [this, List.singleton_append, wholePart?]
    cases r with
    | nil => rfl
    | cons c r => simp [(hr c rfl).1]
  · obtain ⟨c, cs, hcs, hc⟩ := head_toDigits (Nat.pos_of_ne_zero hn)
    obtain ⟨htake, hdrop⟩ :=
      Text.span_digits (isDigit_toDigits (n := n)) fun c hc => (hr c hc).1
    rw [wholePart?.eq_def]
    split
    · rename_i heq
      rw [hcs] at heq
      cases heq
      exact absurd rfl hc
    · simp only [htake, hdrop, List.isEmpty_iff, Nat.toDigits_ne_nil, if_false]

theorem fraction?_of_ends {r : List Char} (hr : Ends r) : fraction? r = some ([], r) := by
  rw [fraction?.eq_def]
  split
  · exact absurd rfl (hr '.' rfl).2.1
  · rfl

theorem exponentPart?_of_ends {r : List Char} (hr : Ends r) : exponentPart? r = some (none, r) := by
  rw [exponentPart?.eq_def]
  split
  · exact absurd rfl (hr 'e' rfl).2.2.1
  · exact absurd rfl (hr 'E' rfl).2.2.2
  · rfl

theorem ofParts_whole {negative : Bool} {digits : List Char} {n : Int}
    (h : whole? negative digits = some n) (literal : List Char) :
    ofParts negative digits [] none literal = .int n := by
  simp [ofParts, h]

/-- The numbers that are read as whole ones. -/
def InWord (n : Int) : Prop := -9223372036854775808 ≤ n ∧ n < 18446744073709551616

instance (n : Int) : Decidable (InWord n) := inferInstanceAs (Decidable (_ ∧ _))

theorem head_decimalInt (n : Int) :
    ∃ c cs, (decimalInt n).toList = c :: cs ∧ (c.isDigit = true ∨ c = '-') := by
  cases n with
  | ofNat n =>
    obtain ⟨c, cs, hcs⟩ := List.exists_cons_of_ne_nil (Nat.toDigits_ne_nil : Nat.toDigits 10 n ≠ [])
    have hmem : c ∈ Nat.toDigits 10 n := by rw [hcs]; exact List.mem_cons_self
    exact ⟨c, cs, Nat.toList_repr.trans hcs, .inl (isDigit_toDigits c hmem)⟩
  | negSucc n => exact ⟨'-', (Text.decimal (n + 1)).toList, by simp [decimalInt], .inr rfl⟩

/-- **The text of a whole number**, whatever follows it that does not go on with it. -/
theorem number?_decimalInt {n : Int} (hn : InWord n) {r : List Char} (hr : Ends r) :
    number? ((decimalInt n).toList ++ r) = some (.int n, r) := by
  cases n with
  | ofNat n =>
    have htext : (decimalInt (.ofNat n)).toList = Nat.toDigits 10 n := Nat.toList_repr
    have hwhole : whole? false (Nat.toDigits 10 n) = some (n : Int) := by
      have : n < UInt64.size := by
        have := hn.2
        simp only [Int.ofNat_eq_natCast] at this
        simp only [UInt64.size]
        omega
      simp [whole?, Nat.ofDigitChars_toDigits, this]
    have hsign : ∀ r', Nat.toDigits 10 n ++ r ≠ '-' :: r' := by
      intro r' heq
      obtain ⟨c, cs, hcs⟩ :=
        List.exists_cons_of_ne_nil (Nat.toDigits_ne_nil : Nat.toDigits 10 n ≠ [])
      have hmem : c ∈ Nat.toDigits 10 n := by rw [hcs]; exact List.mem_cons_self
      have hc : c.isDigit = true := isDigit_toDigits c hmem
      rw [hcs] at heq
      cases heq
      cases hc
    rw [htext, number?]
    · simp only [wholePart?_toDigits n hr, fraction?_of_ends hr, exponentPart?_of_ends hr,
        Option.bind_eq_bind, Option.bind_some, ofParts_whole hwhole]
      rfl
    · exact hsign
  | negSucc n =>
    have htext : (decimalInt (.negSucc n)).toList = '-' :: Nat.toDigits 10 (n + 1) := by
      have : (Text.decimal (n + 1)).toList = Nat.toDigits 10 (n + 1) := Nat.toList_repr
      simp [decimalInt, this]
    have hwhole : whole? true (Nat.toDigits 10 (n + 1)) = some (.negSucc n) := by
      have : n + 1 ≤ 9223372036854775808 := by
        have := hn.1
        omega
      simp [whole?, Nat.ofDigitChars_toDigits, this]
      omega
    rw [htext, List.cons_append]
    simp only [number?, wholePart?_toDigits (n + 1) hr, fraction?_of_ends hr,
      exponentPart?_of_ends hr, Option.bind_eq_bind, Option.bind_some, ofParts_whole hwhole]

/-! ## Values -/

mutual

/-- The text of the value stands for it, inside `depth` containers. -/
def fits : Json → Nat → Bool
  | .int n, _ => decide (InWord n)
  | .decimal _, _ => false
  | .unreadable, _ => false
  | .array items, depth => depth < maxDepth && fitsItems items (depth + 1)
  | .object fields, depth => depth < maxDepth && fitsFields fields (depth + 1)
  | _, _ => true

/-- Every item fits. -/
def fitsItems : List Json → Nat → Bool
  | [], _ => true
  | j :: rest, depth => fits j depth && fitsItems rest depth

/-- Every field's value fits. -/
def fitsFields : List (String × Json) → Nat → Bool
  | [], _ => true
  | (_, j) :: rest, depth => fits j depth && fitsFields rest depth

end

theorem fits_array {items : List Json} {depth : Nat} (h : (array items).fits depth = true) :
    (∀ j, atDepth depth j = j) ∧ fitsItems items (depth + 1) = true := by
  rw [fits, Bool.and_eq_true, decide_eq_true_eq] at h
  exact ⟨fun _ => if_pos h.1, h.2⟩

theorem fits_object {fields : List (String × Json)} {depth : Nat}
    (h : (object fields).fits depth = true) :
    (∀ j, atDepth depth j = j) ∧ fitsFields fields (depth + 1) = true := by
  rw [fits, Bool.and_eq_true, decide_eq_true_eq] at h
  exact ⟨fun _ => if_pos h.1, h.2⟩

theorem skipSpace_cons {c : Char} (r : List Char) (h : isSpace c = false) :
    skipSpace (c :: r) = c :: r := List.dropWhile_cons_of_neg (by simp [h])

theorem isSpace_of_number {c : Char} (h : c.isDigit = true ∨ c = '-') : isSpace c = false := by
  rcases h with h | rfl
  · by_contra hs
    rw [Bool.not_eq_false] at hs
    simp only [isSpace, Bool.or_eq_true, beq_iff_eq] at hs
    rcases hs with ((rfl | rfl) | rfl) | rfl <;> cases h
  · rfl

theorem value?_of_number {c : Char} (h : c.isDigit = true ∨ c = '-') (fuel depth : Nat)
    (r : List Char) : value? (fuel + 1) depth (c :: r) = number? (c :: r) := by
  rw [value?.eq_def]
  simp only [skipSpace_cons r (isSpace_of_number h)]
  split <;> rename_i heq <;> first | rfl | (cases heq; rcases h with h | h <;> cases h)

/-- A value starts with no blank, and with no closing bracket. -/
theorem head_toChars {j : Json} {depth : Nat} (h : j.fits depth = true) :
    ∃ c cs, j.toChars = c :: cs ∧ isSpace c = false ∧ c ≠ ']' := by
  cases j with
  | null => exact ⟨'n', _, rfl, rfl, by decide⟩
  | bool b => cases b <;> exact ⟨_, _, rfl, rfl, by decide⟩
  | int n =>
    obtain ⟨c, cs, hcs, hc⟩ := head_decimalInt n
    refine ⟨c, cs, by rw [toChars, hcs], isSpace_of_number hc, ?_⟩
    rintro rfl
    rcases hc with hc | hc <;> cases hc
  | decimal literal => cases h
  | string s => exact ⟨'"', _, rfl, rfl, by decide⟩
  | array items => exact ⟨'[', _, rfl, rfl, by decide⟩
  | object fields => exact ⟨'\x7b', _, rfl, rfl, by decide⟩
  | unreadable => cases h

theorem skipSpace_items {items : List Json} {depth : Nat} (h : fitsItems items depth = true)
    (hne : items ≠ []) (r : List Char) :
    skipSpace (itemsToChars items ++ r) = itemsToChars items ++ r ∧
      ∀ r', itemsToChars items ++ r ≠ ']' :: r' := by
  obtain ⟨j, rest, rfl⟩ := List.exists_cons_of_ne_nil hne
  rw [fitsItems, Bool.and_eq_true] at h
  obtain ⟨c, cs, hcs, hspace, hc⟩ := head_toChars h.1
  have hstart : ∃ cs', itemsToChars (j :: rest) ++ r = c :: cs' := by
    cases rest with
    | nil => exact ⟨cs ++ r, by rw [itemsToChars, hcs]; rfl⟩
    | cons k rest =>
      exact ⟨cs ++ ',' :: itemsToChars (k :: rest) ++ r, by rw [itemsToChars, hcs]; simp; simp⟩
  obtain ⟨cs', hcs'⟩ := hstart
  rw [hcs']
  exact ⟨skipSpace_cons cs' hspace, fun r' heq => hc (List.cons.inj heq).1⟩

theorem fields_start (f : String × Json) (rest : List (String × Json)) :
    ∃ cs, fieldsToChars (f :: rest) = '"' :: cs := by
  cases rest with
  | nil => exact ⟨_, rfl⟩
  | cons f' rest => exact ⟨_, rfl⟩

theorem length_toChars_pos {j : Json} {depth : Nat} (h : j.fits depth = true) :
    0 < j.toChars.length := by
  obtain ⟨c, cs, hcs, -⟩ := head_toChars h
  rw [hcs]
  exact Nat.succ_pos _

mutual

/-- **The text of a value reads back**, whatever follows it that does not go on with a number. Every
character of the text pays for two steps. -/
theorem value?_toChars : ∀ (j : Json) (depth fuel : Nat) (r : List Char),
    j.fits depth = true → Ends r → 2 * j.toChars.length ≤ fuel + 1 →
      value? (fuel + 1) depth (j.toChars ++ r) = some (j, r)
  | .null, _, _, _, _, _, _ => rfl
  | .bool true, _, _, _, _, _, _ => rfl
  | .bool false, _, _, _, _, _, _ => rfl
  | .int n, depth, fuel, r, hfit, hr, _ => by
    obtain ⟨c, cs, hcs, hc⟩ := head_decimalInt n
    have hnum := number?_decimalInt (of_decide_eq_true hfit : InWord n) hr
    rw [hcs, List.cons_append] at hnum
    rw [toChars, hcs, List.cons_append, value?_of_number hc, hnum]
  | .decimal _, _, _, _, hfit, _, _ => by cases hfit
  | .string s, depth, fuel, r, _, _, _ => by
    have htext : (Json.string s).toChars ++ r =
        '"' :: (s.toList.flatMap escapeChar ++ '"' :: r) := by
      simp [toChars, quoteChars]
    rw [htext, value?, skipSpace_cons _ rfl]
    simp only [stringBody?_quoted, Option.map_some, ofStringRead, String.ofList_toList]
  | .array [], depth, fuel, r, hfit, _, _ => by
    show some (atDepth depth (.array []), r) = _
    rw [(fits_array hfit).1]
  | .array (j :: rest), depth, fuel, r, hfit, _, hf => by
    obtain ⟨hdepth, hitems⟩ := fits_array hfit
    have htext : (Json.array (j :: rest)).toChars ++ r =
        '[' :: (itemsToChars (j :: rest) ++ ']' :: r) := by
      simp [toChars]
    obtain ⟨hskip, hne⟩ := skipSpace_items hitems (by simp) (']' :: r)
    have hlen : 2 * ((itemsToChars (j :: rest)).length + 2) ≤ fuel + 1 := by
      simpa [toChars] using hf
    obtain ⟨fuel, rfl⟩ : ∃ n, fuel = n + 1 := ⟨fuel - 1, by omega⟩
    have hread := items?_toChars (j :: rest) (depth + 1) fuel r (by simp) hitems (by omega)
    rw [htext, value?, skipSpace_cons _ rfl]
    -- by `hne` this is not the empty array
    simp only [hskip]
    rw [hread, Option.map_some, hdepth]
  | .object [], depth, fuel, r, hfit, _, _ => by
    show some (atDepth depth (.object []), r) = _
    rw [(fits_object hfit).1]
  | .object (f :: rest), depth, fuel, r, hfit, _, hf => by
    obtain ⟨hdepth, hfields⟩ := fits_object hfit
    have htext : (Json.object (f :: rest)).toChars ++ r =
        '\x7b' :: (fieldsToChars (f :: rest) ++ '\x7d' :: r) := by
      simp [toChars]
    have hlen : 2 * ((fieldsToChars (f :: rest)).length + 2) ≤ fuel + 1 := by
      simpa [toChars] using hf
    obtain ⟨fuel, rfl⟩ : ∃ n, fuel = n + 1 := ⟨fuel - 1, by omega⟩
    have hread := fields?_toChars (f :: rest) (depth + 1) fuel r (by simp) hfields (by omega)
    obtain ⟨cs, hcs⟩ := fields_start f rest
    rw [htext, value?, skipSpace_cons _ rfl]
    rw [hcs, List.cons_append] at hread ⊢
    simp only [skipSpace_cons (c := '"') _ rfl]
    show Option.map _ (fields? (fuel + 1) (depth + 1) ('"' :: (cs ++ '\x7d' :: r))) = _
    rw [hread, Option.map_some, ofFieldsRead, hdepth]
  | .unreadable, _, _, _, hfit, _, _ => by cases hfit

theorem items?_toChars : ∀ (items : List Json) (depth fuel : Nat) (r : List Char), items ≠ [] →
    fitsItems items depth = true → 2 * (itemsToChars items).length ≤ fuel →
      items? (fuel + 1) depth (itemsToChars items ++ ']' :: r) = some (items, r)
  | [], _, _, _, hne, _, _ => absurd rfl hne
  | [j], depth, fuel, r, _, hfit, hf => by
    rw [fitsItems, Bool.and_eq_true] at hfit
    have hpos := length_toChars_pos hfit.1
    rw [itemsToChars] at hf ⊢
    obtain ⟨fuel, rfl⟩ : ∃ n, fuel = n + 1 := ⟨fuel - 1, by omega⟩
    have hj := value?_toChars j depth fuel (']' :: r) hfit.1 (ends_cons r (by decide)) hf
    rw [items?, hj]
    rfl
  | j :: k :: rest, depth, fuel, r, _, hfit, hf => by
    rw [fitsItems, Bool.and_eq_true] at hfit
    have hpos := length_toChars_pos hfit.1
    have htext : itemsToChars (j :: k :: rest) ++ ']' :: r =
        j.toChars ++ ',' :: (itemsToChars (k :: rest) ++ ']' :: r) := by
      simp [itemsToChars]
    have hlen : 2 * (j.toChars.length + (itemsToChars (k :: rest)).length + 1) ≤ fuel := by
      rw [itemsToChars, List.length_append, List.length_cons] at hf
      · omega
      · simp
    obtain ⟨fuel, rfl⟩ : ∃ n, fuel = n + 1 := ⟨fuel - 1, by omega⟩
    have hj := value?_toChars j depth fuel (',' :: (itemsToChars (k :: rest) ++ ']' :: r)) hfit.1
      (ends_cons _ (by decide)) (by omega)
    have hrest := items?_toChars (k :: rest) depth fuel r (by simp) hfit.2 (by omega)
    rw [htext, items?, hj]
    simp only [skipSpace_cons (c := ',') _ rfl, hrest, Option.map_some]

theorem fields?_toChars : ∀ (fields : List (String × Json)) (depth fuel : Nat) (r : List Char),
    fields ≠ [] → fitsFields fields depth = true → 2 * (fieldsToChars fields).length ≤ fuel →
      fields? (fuel + 1) depth (fieldsToChars fields ++ '\x7d' :: r) = some (some fields, r)
  | [], _, _, _, hne, _, _ => absurd rfl hne
  | [(k, j)], depth, fuel, r, _, hfit, hf => by
    rw [fitsFields, Bool.and_eq_true] at hfit
    have hpos := length_toChars_pos hfit.1
    have htext : fieldsToChars [(k, j)] ++ '\x7d' :: r =
        '"' :: (k.toList.flatMap escapeChar ++ '"' :: (':' :: (j.toChars ++ '\x7d' :: r))) := by
      simp [fieldsToChars, quoteChars]
    have hlen : 2 * j.toChars.length ≤ fuel := by
      rw [fieldsToChars, List.length_append, List.length_cons] at hf
      omega
    obtain ⟨fuel, rfl⟩ : ∃ n, fuel = n + 1 := ⟨fuel - 1, by omega⟩
    have hj := value?_toChars j depth fuel ('\x7d' :: r) hfit.1 (ends_cons r (by decide)) hlen
    rw [htext, fields?, skipSpace_cons _ rfl]
    simp only [stringBody?_quoted, skipSpace_cons (c := ':') _ rfl, hj,
      skipSpace_cons (c := '\x7d') _ rfl, addField, Option.bind_eq_bind, Option.bind_some,
      String.ofList_toList]
  | (k, j) :: f :: rest, depth, fuel, r, _, hfit, hf => by
    rw [fitsFields, Bool.and_eq_true] at hfit
    have hpos := length_toChars_pos hfit.1
    have htext : fieldsToChars ((k, j) :: f :: rest) ++ '\x7d' :: r =
        '"' :: (k.toList.flatMap escapeChar ++
          '"' :: (':' :: (j.toChars ++ ',' :: (fieldsToChars (f :: rest) ++ '\x7d' :: r)))) := by
      simp [fieldsToChars, quoteChars]
    have hlen : 2 * (j.toChars.length + (fieldsToChars (f :: rest)).length + 1) ≤ fuel := by
      rw [fieldsToChars, List.length_append, List.length_cons, List.length_append,
        List.length_cons] at hf
      · omega
      · simp
    obtain ⟨fuel, rfl⟩ : ∃ n, fuel = n + 1 := ⟨fuel - 1, by omega⟩
    have hj := value?_toChars j depth fuel (',' :: (fieldsToChars (f :: rest) ++ '\x7d' :: r))
      hfit.1 (ends_cons _ (by decide)) (by omega)
    have hrest := fields?_toChars (f :: rest) depth fuel r (by simp) hfit.2 (by omega)
    rw [htext, fields?, skipSpace_cons _ rfl]
    simp only [stringBody?_quoted, skipSpace_cons (c := ':') _ rfl, hj,
      skipSpace_cons (c := ',') _ rfl, hrest, Option.map_some, addField, Option.bind_eq_bind,
      Option.bind_some, String.ofList_toList]

end

/-- **The text of a value stands for the value.** -/
theorem parse?_render {j : Json} (h : j.fits 0 = true) : parse? j.render = some j := by
  have hvalue := value?_toChars j 0 (2 * j.toChars.length + 1) [] h (by rintro c ⟨⟩) (by omega)
  rw [List.append_nil] at hvalue
  rw [parse?, render, String.toList_ofList, parseChars?, hvalue]
  rfl

/-! ## Fields of records -/

theorem inWord_ofNat {n : Nat} (h : n < UInt64.size) : InWord n := by
  unfold UInt64.size at h
  constructor <;> omega

theorem uint32?_ofUInt32 (n : UInt32) : uint32? (ofUInt32 n) = some n := by
  have h : n.toNat < UInt32.size := n.toNat_lt
  show ((if n.toNat < UInt32.size then some n.toNat else none).map UInt32.ofNat) = some n
  rw [if_pos h, Option.map_some, UInt32.ofNat_toNat]

theorem uint64?_ofUInt64 (n : UInt64) : uint64? (ofUInt64 n) = some n := by
  have h : n.toNat < UInt64.size := n.toNat_lt
  show ((if n.toNat < UInt64.size then some n.toNat else none).map UInt64.ofNat) = some n
  rw [if_pos h, Option.map_some, UInt64.ofNat_toNat]

theorem optional_ofOption {α : Type} {read : Json → Option α} {write : α → Json}
    (h : ∀ a, read (write a) = some a) (hnull : ∀ a, write a ≠ .null) (o : Option α) :
    optional read (some (ofOption write o)) = some o := by
  cases o with
  | none => rfl
  | some a =>
    show optional read (some (write a)) = some (some a)
    rw [optional.eq_def]
    split
    · rename_i heq
      cases heq
    · rename_i heq
      exact absurd (Option.some.inj heq) (hnull a)
    · rename_i heq
      cases heq
      rw [h, Option.map_some]

end ListenDeck.Json
