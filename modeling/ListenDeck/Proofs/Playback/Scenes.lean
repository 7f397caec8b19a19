import ListenDeck.Proofs.Playback.Agreement
import Mathlib.Logic.Function.Iterate

/-!
# A run scene by scene

A run of the deck in small steps, one after the other, so that one can say what comes before what:
also in the middle of a delivery, at any depth, and in a delivery that never comes to its end.

* `Deck.Task`, `Deck.Scene`: what is still to be done, the innermost delivery first, and the deck as
  it is meanwhile. `Deck.Scene.next` is the next scene, `Deck.scene` the one of a number.
* `Deck.Scene.history`: all that happened so far.
* `Deck.Scene.Goes`: what can happen from a scene to the next one (`Deck.Scene.next_goes`).
* `Deck.reaches_of_played`, `Deck.courses`: the scenes come to the end of a task exactly if
  there is a course for it, and then to the same deck; so they do for every run
  (`Deck.scene_of_run`, `Deck.scene_ends_iff`).
-/

namespace ListenDeck.Deck

/-- Something that is still to be done. -/
inductive Task where
  /-- Steps by hand. -/
  | steps (steps : List Step)
  /-- The turns of handlers in the delivery of an event. -/
  | turns (event : PlaybackEvent) (handlers : List (Nat × Handler))
  /-- The reactions of a handler to an event, from a place on. -/
  | reactions (id : Nat) (event : PlaybackEvent) (place : Nat) (reactions : List Reaction)

/-- The delivery of an event that was published, if one was. -/
def Task.delivery (handlers : List (Nat × Handler)) : Option PlaybackEvent → List Task
  | none => []
  | some e => [.turns e handlers]

/-- The handlers that are to have their turn. -/
def Task.waiting : Task → List (Nat × Handler)
  | .turns _ handlers => handlers
  | _ => []

/-- A moment of a run: the deck, what is still to be done, the innermost first, and what happened in
the steps by hand before this one. -/
structure Scene where
  deck : Deck
  tasks : List Task
  past : List Happening := []

namespace Scene

/-- All that happened so far, in order. -/
def history (s : Scene) : List Happening := s.past ++ s.deck.log

/-- The handlers that are to have their turn, those of the innermost delivery first. -/
def waiting (s : Scene) : List (Nat × Handler) := s.tasks.flatMap Task.waiting

/-- The turn that comes next: the number of the handler, the event and the handler. -/
def turn? (s : Scene) : Option (Nat × PlaybackEvent × Handler) :=
  match s.tasks with
  | .turns e ((id, h) :: _) :: _ => if s.deck.bus.isRegistered id then some (id, e, h) else none
  | _ => none

/-- The next scene. Where an event is published, its delivery comes before everything else. -/
def next (s : Scene) : Scene :=
  match s.tasks with
  | [] => s
  | .steps [] :: rest => { s with tasks := rest }
  | .steps (step :: later) :: rest =>
    let d := { s.deck with log := [] }
    { deck := (settled none d step).1
      tasks := Task.delivery d.bus.handlers (published? none d step) ++ .steps later :: rest
      past := s.history }
  | .turns _ [] :: rest => { s with tasks := rest }
  | .turns e ((id, h) :: later) :: rest =>
    if s.deck.bus.isRegistered id then
      { s with
        deck := (s.deck.opening id e h).1
        tasks := .reactions id e 0 (s.deck.opening id e h).2 :: .turns e later :: rest }
    else { s with tasks := .turns e later :: rest }
  | .reactions _ _ _ [] :: rest => { s with tasks := rest }
  | .reactions id e place (r :: later) :: rest =>
    if s.deck.runs id e place r then
      let d := s.deck.use id place
      { s with
        deck := (settled (some e) d r.step).1
        tasks := Task.delivery d.bus.handlers (published? (some e) d r.step) ++
          .reactions id e (place + 1) later :: rest }
    else { s with tasks := .reactions id e (place + 1) later :: rest }

/-- One scene comes some time after another one, or is the same. -/
def Reaches (s s' : Scene) : Prop := ∃ n, next^[n] s = s'

section Reaches
variable {s s' s'' : Scene}

theorem Reaches.trans (h : s.Reaches s') (h' : s'.Reaches s'') : s.Reaches s'' := by
  obtain ⟨m, rfl⟩ := h
  obtain ⟨n, rfl⟩ := h'
  exact ⟨n + m, Function.iterate_add_apply next n m s⟩

theorem reaches_next (h : s.next = s') : s.Reaches s' := ⟨1, h⟩

end Reaches

/-! ## The next scene, task by task -/

section Next
variable {d : Deck} {rest : List Task} {past : List Happening}

theorem next_turns_passed {e : PlaybackEvent} {id : Nat} {h : Handler}
    {later : List (Nat × Handler)} (hr : d.bus.isRegistered id = false) :
    (Scene.mk d (.turns e ((id, h) :: later) :: rest) past).next =
      ⟨d, .turns e later :: rest, past⟩ := by
  have hne : ¬ d.bus.isRegistered id = true := by simp [hr]
  exact if_neg hne

theorem next_turns_reached {e : PlaybackEvent} {id : Nat} {h : Handler}
    {later : List (Nat × Handler)} (hr : d.bus.isRegistered id = true) :
    (Scene.mk d (.turns e ((id, h) :: later) :: rest) past).next =
      ⟨(d.opening id e h).1,
        .reactions id e 0 (d.opening id e h).2 :: .turns e later :: rest, past⟩ := if_pos hr

theorem next_reactions_idle {id : Nat} {e : PlaybackEvent} {place : Nat} {r : Reaction}
    {later : List Reaction} (hr : d.runs id e place r = false) :
    (Scene.mk d (.reactions id e place (r :: later) :: rest) past).next =
      ⟨d, .reactions id e (place + 1) later :: rest, past⟩ := by
  have hne : ¬ d.runs id e place r = true := by simp [hr]
  exact if_neg hne

theorem next_reactions_quiet {id : Nat} {e : PlaybackEvent} {place : Nat} {r : Reaction}
    {later : List Reaction} {d₁ : Deck} (hr : d.runs id e place r = true)
    (hp : published? (some e) (d.use id place) r.step = none)
    (hs : (settled (some e) (d.use id place) r.step).1 = d₁) :
    (Scene.mk d (.reactions id e place (r :: later) :: rest) past).next =
      ⟨d₁, .reactions id e (place + 1) later :: rest, past⟩ := by
  simp only [next, hr, hp, hs, if_true, Task.delivery, List.nil_append]

theorem next_reactions_round {id : Nat} {e e' : PlaybackEvent} {place : Nat} {r : Reaction}
    {later : List Reaction} (hr : d.runs id e place r = true)
    (hp : published? (some e) (d.use id place) r.step = some e') :
    (Scene.mk d (.reactions id e place (r :: later) :: rest) past).next =
      ⟨d.use id place, .turns e' d.bus.handlers :: .reactions id e (place + 1) later :: rest,
        past⟩ := by
  have hs := settled_of_published hp
  simp only [next, hr, hp, hs, if_true, Task.delivery, List.singleton_append]
  rfl

theorem next_steps_quiet {s : Step} {later : List Step} {d₁ : Deck}
    (hp : published? none { d with log := [] } s = none)
    (hs : (settled none { d with log := [] } s).1 = d₁) :
    (Scene.mk d (.steps (s :: later) :: rest) past).next =
      ⟨d₁, .steps later :: rest, past ++ d.log⟩ := by
  simp only [next, hp, hs, Task.delivery, history, List.nil_append]

theorem next_steps_round {s : Step} {later : List Step} {e : PlaybackEvent}
    (hp : published? none { d with log := [] } s = some e) :
    (Scene.mk d (.steps (s :: later) :: rest) past).next =
      ⟨{ d with log := [] }, .turns e d.bus.handlers :: .steps later :: rest, past ++ d.log⟩ := by
  have hs := settled_of_published hp
  simp only [next, hp, hs, Task.delivery, history, List.singleton_append]

end Next

/-! ## What can happen -/

/-- Whoever is to have his turn in the tasks was to have it before, or is registered. -/
def Onward (s : Scene) (tasks : List Task) : Prop :=
  ∀ p ∈ tasks.flatMap Task.waiting, p ∈ s.waiting ∨ p ∈ s.deck.bus.handlers

/-- **What can happen from one scene to the next one.** -/
inductive Goes (s : Scene) : Scene → Prop where
  /-- Something is done with, or is not to be done. -/
  | waits {tasks : List Task} (hw : s.Onward tasks) : Goes s { s with tasks }
  /-- A step by hand; the log begins anew. -/
  | byHand {tasks : List Task} {d : Deck} (hw : s.Onward tasks)
      (hd : { s.deck with log := [] }.Alters d) : Goes s ⟨d, tasks, s.history⟩
  /-- A reaction of a handler. -/
  | reacts {tasks : List Task} {d : Deck} {id place : Nat} (hw : s.Onward tasks)
      (hd : (s.deck.use id place).Alters d) : Goes s { s with deck := d, tasks }
  /-- A handler's turn begins. -/
  | turn {tasks : List Task} {id : Nat} {e : PlaybackEvent} {handler : Handler}
      (hw : s.Onward tasks) (ht : s.turn? = some (id, e, handler))
      (hn : tasks.head? = some (.reactions id e 0 (s.deck.opening id e handler).2)) :
      Goes s { s with deck := (s.deck.opening id e handler).1, tasks }

section Goes
variable {s : Scene}

theorem onward_of_subset {tasks : List Task}
    (h : tasks.flatMap Task.waiting ⊆ s.waiting) : s.Onward tasks :=
  fun _ hp => Or.inl (h hp)

theorem onward_delivery {tasks : List Task} (h : tasks.flatMap Task.waiting ⊆ s.waiting)
    (published : Option PlaybackEvent) :
    s.Onward (Task.delivery s.deck.bus.handlers published ++ tasks) := by
  intro p hp
  rw [List.flatMap_append, List.mem_append] at hp
  rcases hp with hp | hp
  · cases published with
    | none => cases hp
    | some e =>
      right
      simpa [Task.delivery, Task.waiting] using hp
  · exact Or.inl (h hp)

theorem turn?_eq_some {id : Nat} {e : PlaybackEvent} {handler : Handler}
    (h : s.turn? = some (id, e, handler)) :
    (id, handler) ∈ s.waiting ∧ s.deck.bus.isRegistered id = true := by
  obtain ⟨d, tasks, past⟩ := s
  unfold turn? at h
  split at h
  next e' id' handler' later rest htasks =>
    simp only at htasks
    subst htasks
    split_ifs at h with hr
    cases h
    exact ⟨List.mem_cons_self, hr⟩
  next => cases h

theorem next_goes (s : Scene) : s.Goes s.next := by
  obtain ⟨d, tasks, past⟩ := s
  cases tasks with
  | nil => exact .waits fun _ => Or.inl
  | cons task rest =>
    cases task with
    | steps steps =>
      cases steps with
      | nil => exact .waits (onward_of_subset fun _ hp => hp)
      | cons step later =>
        have hlater : (Task.steps later :: rest).flatMap Task.waiting ⊆
            Scene.waiting ⟨d, .steps (step :: later) :: rest, past⟩ := fun _ hp => hp
        exact .byHand (onward_delivery hlater _) (settled_alters rfl)
    | turns e handlers =>
      have hrest : rest.flatMap Task.waiting ⊆
          Scene.waiting ⟨d, .turns e handlers :: rest, past⟩ :=
        fun _ hp => List.mem_append_right handlers hp
      cases handlers with
      | nil => exact .waits (onward_of_subset hrest)
      | cons p later =>
        obtain ⟨id, handler⟩ := p
        have hlater : (Task.turns e later :: rest).flatMap Task.waiting ⊆
            Scene.waiting ⟨d, .turns e ((id, handler) :: later) :: rest, past⟩ :=
          fun _ hp => List.mem_cons_of_mem _ hp
        by_cases hr : d.bus.isRegistered id = true
        · rw [next_turns_reached hr]
          exact .turn (onward_of_subset hlater) (if_pos hr) rfl
        · rw [Bool.not_eq_true] at hr
          rw [next_turns_passed hr]
          exact .waits (onward_of_subset hlater)
    | reactions id e place reactions =>
      cases reactions with
      | nil => exact .waits (onward_of_subset fun _ hp => hp)
      | cons r later =>
        by_cases hr : d.runs id e place r = true
        · have hnext : (Scene.mk d (.reactions id e place (r :: later) :: rest) past).next =
              ⟨_, _, past⟩ := if_pos hr
          have hlater : (Task.reactions id e (place + 1) later :: rest).flatMap Task.waiting ⊆
              Scene.waiting ⟨d, .reactions id e place (r :: later) :: rest, past⟩ :=
            fun _ hp => hp
          rw [hnext]
          exact .reacts (onward_delivery hlater _) (settled_alters rfl)
        · rw [Bool.not_eq_true] at hr
          rw [next_reactions_idle hr]
          exact .waits (onward_of_subset fun _ hp => hp)

end Goes

end Scene

open Scene

/-! ## Every course is a run of scenes -/

mutual

theorem reaches_of_delivered {e : PlaybackEvent} {handlers : List (Nat × Handler)} {d d' : Deck}
    {slots : Slots} {rest : List Task} {past : List Happening} :
    Delivered e handlers d slots d' →
      Reaches ⟨d, .turns e handlers :: rest, past⟩ ⟨d', rest, past⟩
  | .done => reaches_next rfl
  | .passed hr ht => (reaches_next (next_turns_passed hr)).trans (reaches_of_delivered ht)
  | .reached hr hd ht =>
    (reaches_next (next_turns_reached hr)).trans
      ((reaches_of_reacted hd).trans (reaches_of_delivered ht))

theorem reaches_of_reacted {id : Nat} {e : PlaybackEvent} {place : Nat} {reactions : List Reaction}
    {d d' : Deck} {deeds : Deeds} {rest : List Task} {past : List Happening} :
    Reacted id e place reactions d deeds d' →
      Reaches ⟨d, .reactions id e place reactions :: rest, past⟩ ⟨d', rest, past⟩
  | .nil => reaches_next rfl
  | .idle hr ht => (reaches_next (next_reactions_idle hr)).trans (reaches_of_reacted ht)
  | .quiet hr hp hs ht =>
    (reaches_next (next_reactions_quiet hr hp hs)).trans (reaches_of_reacted ht)
  | .round hr hp hd ht =>
    (reaches_next (next_reactions_round hr hp)).trans
      ((reaches_of_delivered hd).trans (reaches_of_reacted ht))

end

theorem reaches_of_played {steps : List Step} {d d' : Deck} {deeds : Deeds}
    (h : Played steps d deeds d') (rest : List Task) (past : List Happening) :
    ∃ past', Reaches ⟨d, .steps steps :: rest, past⟩ ⟨d', rest, past'⟩ := by
  induction h generalizing past with
  | nil => exact ⟨past, reaches_next rfl⟩
  | quiet hp hs _ ih =>
    obtain ⟨past', hlater⟩ := ih _
    exact ⟨past', (reaches_next (next_steps_quiet hp hs)).trans hlater⟩
  | round hp hd _ ih =>
    obtain ⟨past', hlater⟩ := ih _
    exact ⟨past', (reaches_next (next_steps_round hp)).trans
      ((reaches_of_delivered hd).trans hlater)⟩

/-! ## Every run of scenes that comes to its end is a course -/

/-- There is a course for the task, and it leads from the one deck to the other. -/
def Task.Course (d d' : Deck) : Task → Prop
  | .steps later => ∃ deeds, Played later d deeds d'
  | .turns e handlers => ∃ slots, Delivered e handlers d slots d'
  | .reactions id e place later => ∃ deeds, Reacted id e place later d deeds d'

/-- Scenes that come to their end within a number of steps first come to the end of the innermost
task, by a course for it. -/
def Courses (n : Nat) : Prop :=
  ∀ task rest d past, (next^[n] ⟨d, task :: rest, past⟩).tasks = [] →
    ∃ m d' past', m < n ∧ task.Course d d' ∧ (next^[m] ⟨d', rest, past'⟩).tasks = []

section Courses
variable {k : Nat} (ih : ∀ m ≤ k, Courses m) {rest : List Task} {d : Deck} {past : List Happening}
include ih

theorem courses_steps {steps : List Step}
    (h : (next^[k + 1] ⟨d, .steps steps :: rest, past⟩).tasks = []) :
    ∃ m d' past', m < k + 1 ∧ (Task.steps steps).Course d d' ∧
      (next^[m] ⟨d', rest, past'⟩).tasks = [] := by
  rw [Function.iterate_succ_apply] at h
  cases steps with
  | nil => exact ⟨k, d, past, Nat.lt_succ_self k, ⟨.nil, .nil⟩, h⟩
  | cons s later =>
    cases hp : published? none { d with log := [] } s with
    | none =>
      rw [next_steps_quiet hp rfl] at h
      obtain ⟨m, d', past', hm, ⟨deeds, hc⟩, hend⟩ := ih k (Nat.le_refl k) _ _ _ _ h
      exact ⟨m, d', past', by omega, ⟨_, .quiet hp rfl hc⟩, hend⟩
    | some e =>
      rw [next_steps_round hp] at h
      obtain ⟨m₁, d₁, past₁, hm₁, ⟨slots, hd⟩, hend₁⟩ := ih k (Nat.le_refl k) _ _ _ _ h
      obtain ⟨m, d', past', hm, ⟨deeds, hc⟩, hend⟩ := ih m₁ (by omega) _ _ _ _ hend₁
      exact ⟨m, d', past', by omega, ⟨_, .round hp hd hc⟩, hend⟩

theorem courses_turns {e : PlaybackEvent} {handlers : List (Nat × Handler)}
    (h : (next^[k + 1] ⟨d, .turns e handlers :: rest, past⟩).tasks = []) :
    ∃ m d' past', m < k + 1 ∧ (Task.turns e handlers).Course d d' ∧
      (next^[m] ⟨d', rest, past'⟩).tasks = [] := by
  rw [Function.iterate_succ_apply] at h
  cases handlers with
  | nil => exact ⟨k, d, past, Nat.lt_succ_self k, ⟨.nil, .done⟩, h⟩
  | cons p later =>
    obtain ⟨id, handler⟩ := p
    by_cases hr : d.bus.isRegistered id = true
    · rw [next_turns_reached hr] at h
      obtain ⟨m₁, d₁, past₁, hm₁, ⟨deeds, hd⟩, hend₁⟩ := ih k (Nat.le_refl k) _ _ _ _ h
      obtain ⟨m, d', past', hm, ⟨slots, hc⟩, hend⟩ := ih m₁ (by omega) _ _ _ _ hend₁
      exact ⟨m, d', past', by omega, ⟨_, .reached hr hd hc⟩, hend⟩
    · rw [Bool.not_eq_true] at hr
      rw [next_turns_passed hr] at h
      obtain ⟨m, d', past', hm, ⟨slots, hc⟩, hend⟩ := ih k (Nat.le_refl k) _ _ _ _ h
      exact ⟨m, d', past', by omega, ⟨_, .passed hr hc⟩, hend⟩

theorem courses_reactions {id : Nat} {e : PlaybackEvent} {place : Nat} {reactions : List Reaction}
    (h : (next^[k + 1] ⟨d, .reactions id e place reactions :: rest, past⟩).tasks = []) :
    ∃ m d' past', m < k + 1 ∧ (Task.reactions id e place reactions).Course d d' ∧
      (next^[m] ⟨d', rest, past'⟩).tasks = [] := by
  rw [Function.iterate_succ_apply] at h
  cases reactions with
  | nil => exact ⟨k, d, past, Nat.lt_succ_self k, ⟨.nil, .nil⟩, h⟩
  | cons r later =>
    by_cases hr : d.runs id e place r = true
    · cases hp : published? (some e) (d.use id place) r.step with
      | none =>
        rw [next_reactions_quiet hr hp rfl] at h
        obtain ⟨m, d', past', hm, ⟨deeds, hc⟩, hend⟩ := ih k (Nat.le_refl k) _ _ _ _ h
        exact ⟨m, d', past', by omega, ⟨_, .quiet hr hp rfl hc⟩, hend⟩
      | some e' =>
        rw [next_reactions_round hr hp] at h
        obtain ⟨m₁, d₁, past₁, hm₁, ⟨slots, hd⟩, hend₁⟩ := ih k (Nat.le_refl k) _ _ _ _ h
        obtain ⟨m, d', past', hm, ⟨deeds, hc⟩, hend⟩ := ih m₁ (by omega) _ _ _ _ hend₁
        exact ⟨m, d', past', by omega, ⟨_, .round hr hp hd hc⟩, hend⟩
    · rw [Bool.not_eq_true] at hr
      rw [next_reactions_idle hr] at h
      obtain ⟨m, d', past', hm, ⟨deeds, hc⟩, hend⟩ := ih k (Nat.le_refl k) _ _ _ _ h
      exact ⟨m, d', past', by omega, ⟨_, .idle hr hc⟩, hend⟩

end Courses

/-- **The scenes that come to their end** first come to the end of the innermost task, by a course
for it. -/
theorem courses (n : Nat) : Courses n := by
  induction n using Nat.strongRecOn with
  | ind n ih =>
    intro task rest d past h
    -- one step at least is taken, since the task is still to be done
    cases n with
    | zero => cases h
    | succ k =>
      have ih' : ∀ m ≤ k, Courses m := fun m hm => ih m (by omega)
      cases task with
      | steps steps => exact courses_steps ih' h
      | turns e handlers => exact courses_turns ih' h
      | reactions id e place reactions => exact courses_reactions ih' h

/-! ## The scenes of a run -/

/-- The scene of a number, of a run of steps by hand on a deck with nothing on it. -/
def scene (origin : String) (steps : List Step) (n : Nat) : Scene :=
  next^[n] { deck := start origin, tasks := [.steps steps] }

theorem scene_succ (origin : String) (steps : List Step) (n : Nat) :
    scene origin steps (n + 1) = (scene origin steps n).next :=
  Function.iterate_succ_apply' next n _

/-- **A run that comes to its end** is one of scenes, and so is every run of scenes that does. -/
theorem scene_ends_iff (origin : String) (steps : List Step) :
    (∃ n, (scene origin steps n).tasks = []) ↔
      ∃ deeds d, Played steps (start origin) deeds d := by
  constructor
  · rintro ⟨n, h⟩
    obtain ⟨m, d, past, -, ⟨deeds, hc⟩, -⟩ := courses n _ _ _ _ h
    exact ⟨deeds, d, hc⟩
  · rintro ⟨deeds, d, h⟩
    obtain ⟨past, n, hn⟩ := reaches_of_played h [] []
    exact ⟨n, congrArg tasks hn⟩

/-- **What a run of the deck leads to** is the deck of a scene with nothing left to be done. -/
theorem scene_of_run {origin : String} {steps : List Step} {d : Deck} {answers : List Answer}
    (h : (start origin).run steps = some (d, answers)) :
    ∃ n past, scene origin steps n = ⟨d, [], past⟩ := by
  obtain ⟨deeds, hplayed⟩ := played_of_run h
  obtain ⟨past, n, hn⟩ := reaches_of_played hplayed [] []
  exact ⟨n, past, hn⟩

end ListenDeck.Deck
