/-!
# Named values

Values kept under names, in the order the names came first.

* `Named.find?`, `Named.put`, `Named.erase`: the value of a name, a new value, no value.
-/

namespace ListenDeck.Named

/-- The value kept under a name. -/
def find? {α : Type} (name : String) (l : List (String × α)) : Option α := l.lookup name

/-- The list with a value under a name, in the place of an older one if there is one. -/
def put {α : Type} (name : String) (a : α) : List (String × α) → List (String × α)
  | [] => [(name, a)]
  | (n, b) :: rest => if n = name then (n, a) :: rest else (n, b) :: put name a rest

/-- The list without what is kept under a name. -/
def erase {α : Type} (name : String) (l : List (String × α)) : List (String × α) :=
  l.filter (·.1 ≠ name)

/-- The list of the last value of each name. -/
def ofPairs {α : Type} (pairs : List (String × α)) : List (String × α) :=
  pairs.foldl (fun l p => put p.1 p.2 l) []

theorem find?_put {α : Type} (name other : String) (a : α) (l : List (String × α)) :
    find? other (put name a l) = if other = name then some a else find? other l := by
  induction l with
  | nil => grind [put, find?]
  | cons p rest ih => grind [put, find?]

theorem find?_erase {α : Type} (name other : String) (l : List (String × α)) :
    find? other (erase name l) = if other = name then none else find? other l := by
  induction l with
  | nil => grind [erase, find?]
  | cons p rest ih => grind [erase, find?]

theorem mem_of_find? {α : Type} {name : String} {a : α} {l : List (String × α)}
    (h : find? name l = some a) : (name, a) ∈ l := by
  induction l with
  | nil => cases h
  | cons p rest ih => grind [find?]

theorem erase_of_none {α : Type} {name : String} {l : List (String × α)}
    (h : find? name l = none) : erase name l = l := by
  induction l with
  | nil => rfl
  | cons p rest ih => grind [find?, erase]

theorem mem_erase {α : Type} {name : String} {p : String × α} {l : List (String × α)} :
    p ∈ erase name l ↔ p ∈ l ∧ p.1 ≠ name := by
  simp [erase]

theorem mem_of_mem_put {α : Type} {name : String} {a : α} {p : String × α}
    {l : List (String × α)} (h : p ∈ put name a l) : p = (name, a) ∨ p ∈ l := by
  induction l with
  | nil => grind [put]
  | cons q rest ih => grind [put]

theorem mem_put {α : Type} {name : String} {a : α} {p : String × α} {l : List (String × α)}
    (hl : (l.map Prod.fst).Nodup) (h : p ∈ put name a l) :
    p = (name, a) ∨ p ∈ l ∧ p.1 ≠ name := by
  induction l with
  | nil => grind [put]
  | cons q rest ih => grind [put]

theorem nodup_put {α : Type} {name : String} {a : α} {l : List (String × α)}
    (hl : (l.map Prod.fst).Nodup) : ((put name a l).map Prod.fst).Nodup := by
  induction l with
  | nil => simp [put]
  | cons q rest ih =>
    obtain ⟨n, b⟩ := q
    rw [List.map_cons, List.nodup_cons] at hl
    rw [put]
    by_cases hn : n = name
    · rw [if_pos hn]
      exact List.nodup_cons.mpr hl
    · rw [if_neg hn]
      refine List.nodup_cons.mpr ⟨fun hm => ?_, ih hl.2⟩
      obtain ⟨p, hp, hpn⟩ := List.mem_map.mp hm
      rcases mem_of_mem_put hp with rfl | hp
      · exact hn hpn.symm
      · exact hl.1 (List.mem_map.mpr ⟨p, hp, hpn⟩)

end ListenDeck.Named
