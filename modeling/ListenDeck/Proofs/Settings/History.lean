import ListenDeck.Proofs.Settings.Stored
import Mathlib.Data.List.Induction
import Mathlib.Data.List.TakeWhile

/-!
# The history of a store

A store that is only prepared, saved to and loaded from is a register: once it was prepared, it
holds the settings of the last save.

* `Store.prepared`, `Store.lastSaved`: what the calls so far amount to.
* `Store.ofHistory`: the store that calls leave behind; one more call extends the history
  (`step_ofHistory`), so a run is its history (`run_calls`).
* `Store.keeps_last_saved`: what the store holds, and what each further call does.
-/

namespace ListenDeck.Store

namespace Operation

/-- The operation is a call; the others happen to the store from outside. -/
def isCall : Operation → Bool
  | .prepare => true
  | .save _ => true
  | .load => true
  | _ => false

/-- The operation makes the table. -/
def isPrepare : Operation → Bool
  | .prepare => true
  | _ => false

/-- The settings that the operation saves. -/
def saved? : Operation → Option Settings
  | .save settings => some settings
  | _ => none

end Operation

/-! ## Histories -/

/-- The store was prepared. -/
def prepared (ops : List Operation) : Bool := ops.any (·.isPrepare)

/-- The settings of the last save since the store was prepared for the first time. -/
def lastSaved (ops : List Operation) : Option Settings :=
  ((ops.dropWhile (!·.isPrepare)).filterMap (·.saved?)).getLast?

section History
variable {ops : List Operation}

theorem prepared_concat (ops : List Operation) (op : Operation) :
    prepared (ops ++ [op]) = (prepared ops || op.isPrepare) := by
  simp [prepared]

theorem dropWhile_eq_nil (h : prepared ops = false) : ops.dropWhile (!·.isPrepare) = [] := by
  rw [List.dropWhile_eq_nil_iff]
  intro op hop
  simpa using List.any_eq_false.mp h op hop

theorem lastSaved_concat_of_unprepared (h : prepared ops = false) (op : Operation) :
    lastSaved (ops ++ [op]) = none := by
  rw [lastSaved, List.dropWhile_append, dropWhile_eq_nil h]
  cases op <;> rfl

theorem lastSaved_concat (h : prepared ops = true) (op : Operation) :
    lastSaved (ops ++ [op]) = op.saved?.or (lastSaved ops) := by
  have hne : ops.dropWhile (!·.isPrepare) ≠ [] := by
    rw [Ne, List.dropWhile_eq_nil_iff]
    intro hall
    obtain ⟨op', hop, hp⟩ := List.any_eq_true.mp h
    simpa [hp] using hall op' hop
  rw [lastSaved, List.dropWhile_append, if_neg (by simpa using hne), List.filterMap_append,
    List.getLast?_append]
  cases op <;> rfl

end History

/-- The store that a history of calls leaves behind. -/
def ofHistory (ops : List Operation) : Store :=
  if prepared ops then .directory (.table ((lastSaved ops).map (·.normal.render))) else fresh

theorem ofHistory_of_unprepared {ops : List Operation} (h : prepared ops = false) :
    ofHistory ops = fresh := by
  rw [ofHistory, h]
  rfl

theorem ofHistory_of_prepared {ops : List Operation} (h : prepared ops = true) :
    ofHistory ops = .directory (.table ((lastSaved ops).map (·.normal.render))) := by
  rw [ofHistory, h]
  rfl

/-! ## Calls -/

/-- **A call extends the history.** -/
theorem step_ofHistory (ops : List Operation) {op : Operation} (h : op.isCall = true) :
    ((ofHistory ops).step op).1 = ofHistory (ops ++ [op]) := by
  cases hp : prepared ops with
  | false =>
    rw [ofHistory_of_unprepared hp]
    have hsaved := lastSaved_concat_of_unprepared hp op
    cases op with
    | prepare =>
      rw [ofHistory_of_prepared (by rw [prepared_concat, hp]; rfl), hsaved]
      rfl
    | save settings =>
      rw [ofHistory_of_unprepared (by rw [prepared_concat, hp]; rfl)]
      rfl
    | load =>
      rw [ofHistory_of_unprepared (by rw [prepared_concat, hp]; rfl)]
      rfl
    | putText | removeAll | blockHome | blockDatabase => cases h
  | true =>
    have hp' : prepared (ops ++ [op]) = true := by rw [prepared_concat, hp, Bool.true_or]
    rw [ofHistory_of_prepared hp, ofHistory_of_prepared hp', lastSaved_concat hp]
    cases op with
    | prepare | save | load => rfl
    | putText | removeAll | blockHome | blockDatabase => cases h

theorem run_concat (s : Store) (ops : List Operation) (op : Operation) :
    (s.run (ops ++ [op])).1 = ((s.run ops).1.step op).1 := by
  induction ops generalizing s with
  | nil => rfl
  | cons op' ops ih => exact ih (s.step op').1

/-- **A run of calls is its history.** -/
theorem run_calls {ops : List Operation} (h : ∀ op ∈ ops, op.isCall = true) :
    (fresh.run ops).1 = ofHistory ops := by
  induction ops using List.reverseRecOn with
  | nil => rfl
  | append_singleton ops op ih =>
    rw [run_concat, ih fun op' hop => h op' (List.mem_append_left _ hop)]
    exact step_ofHistory ops (h op (by simp))

/-! ## What is kept -/

/-- **A store keeps exactly what was saved last.** Before it is prepared, loading and saving fail
and nothing is stored. From then on preparing again changes nothing and saving succeeds; as long as
nothing was saved, the defaults are loaded; after that the text that is stored stands for the normal
form of the settings saved last, and what is loaded is the normal form of that. Loading never
changes the store. -/
theorem keeps_last_saved {ops : List Operation} (h : ∀ op ∈ ops, op.isCall = true) :
    let s := (fresh.run ops).1
    (s.step .prepare).2 = .done ∧
    (prepared ops = false → s = fresh ∧ s.step .load = (s, .failed .noTable) ∧
      ∀ settings, s.step (.save settings) = (s, .failed .noTable)) ∧
    (prepared ops = true →
      s.step .prepare = (s, .done) ∧ (∀ settings, (s.step (.save settings)).2 = .done) ∧
      (lastSaved ops = none → s.row = .ok none ∧ s.step .load = (s, .loaded {})) ∧
      ∀ settings, lastSaved ops = some settings →
        (∃ text, s.row = .ok (some text) ∧ Settings.read? text = some settings.normal) ∧
          s.step .load = (s, .loaded settings.normal.normal)) := by
  rw [run_calls h]
  intro s
  cases hp : prepared ops with
  | false =>
    have hs : s = fresh := ofHistory_of_unprepared hp
    rw [hs]
    exact ⟨rfl, fun _ => ⟨rfl, rfl, fun _ => rfl⟩, by simp⟩
  | true =>
    have hs : s = .directory (.table ((lastSaved ops).map (·.normal.render))) :=
      ofHistory_of_prepared hp
    rw [hs]
    refine ⟨rfl, by simp, fun _ => ⟨rfl, fun _ => rfl, fun hnone => ?_, fun settings hsome => ?_⟩⟩
    · rw [hnone]
      exact ⟨rfl, rfl⟩
    · rw [hsome]
      refine ⟨⟨_, rfl, Settings.read?_render settings.normal⟩, ?_⟩
      simp only [step, load, row, opened, Option.map_some, Settings.read?_render]

/-- Something is saved before the store is prepared, and twice after that, the second time with a
quote, a line break and a character beyond ASCII in its texts and with the greatest numbers. -/
theorem keeps_last_saved_of_two_saves :
    let rob : Settings := { user := some ⟨"rob", "token"⟩ }
    let eve : Settings :=
      { apiUrl := "https://lb.example/1/", pageSize := 4294967295
        removalGraceMs := 18446744073709551615, user := some ⟨"e\"v\ne", " t\\k "⟩
        lastPlaylist := some "é" }
    let ops : List Operation :=
      [.load, .save rob, .prepare, .save rob, .prepare, .load, .save eve, .load]
    (∀ op ∈ ops, op.isCall = true) ∧ prepared ops = true ∧ lastSaved ops = some eve ∧
      (∃ text, (fresh.run ops).1.row = .ok (some text) ∧
        Settings.read? text = some eve.normal) ∧
      eve.normal.pageSize = 100 ∧ eve.normal.user = some ⟨"e\"v\ne", "t\\k"⟩ ∧
      (fresh.run ops).1.step .load = ((fresh.run ops).1, .loaded eve.normal.normal) := by
  intro rob eve ops
  have hcalls : ∀ op ∈ ops, op.isCall = true := by simp [ops, Operation.isCall]
  have hlast : lastSaved ops = some eve := rfl
  obtain ⟨-, -, hprepared⟩ := keeps_last_saved hcalls
  obtain ⟨-, -, -, hsaved⟩ := hprepared rfl
  obtain ⟨htext, hload⟩ := hsaved eve hlast
  exact ⟨hcalls, rfl, hlast, htext, rfl, by decide, hload⟩

end ListenDeck.Store
