import Mathlib.Logic.Function.Basic
import PmiExitModule.Generic.Program

/-!
# Programs side by side

Any number of programs act on one store, one event at a time and in any order. What a program does is
fixed by the state its first event finds, which loses nothing for a program that reads the store there
and nowhere else. If every program works on a key of its own, which was not in use when it started, then
no program can tell that the others are there: the store is at all times what it was at first, with the
key of every program as the program alone would have left it.
-/

namespace Generic

/-- A program that was started: the state it was started in, what it has done and what is left. -/
structure Progress (ε σ : Type) where
  origin : σ
  done : List ε
  rest : List ε

structure Concurrent (ι ε σ : Type) where
  state : σ
  programs : ι → Option (Progress ε σ)

section Run

variable {ι ε σ : Type} [DecidableEq ι] [Replay ε σ] (script : ι → σ → List ε)

/-- The turn of a program, which starts it if need be: its next event is carried out. All its events are
fixed at its first turn, as for a script that `ReadsFirst`. -/
def Concurrent.turn (system : Concurrent ι ε σ) (i : ι) : Concurrent ι ε σ :=
  let program := (system.programs i).getD ⟨system.state, [], script i system.state⟩
  match program.rest with
  | [] => { system with programs := Function.update system.programs i (some program) }
  | event :: rest =>
      { state := Replay.apply system.state event
        programs := Function.update system.programs i
          (some { program with done := program.done ++ [event], rest := rest }) }

def Concurrent.runFrom (system : Concurrent ι ε σ) (schedule : List ι) : Concurrent ι ε σ :=
  schedule.foldl (Concurrent.turn script) system

/-- The programs on a schedule, from a state in which none of them has started. -/
def interleaved (state : σ) (schedule : List ι) : Concurrent ι ε σ :=
  Concurrent.runFrom script ⟨state, fun _ => none⟩ schedule

theorem interleaved_append (state : σ) (first second : List ι) :
    interleaved script state (first ++ second)
      = (interleaved script state first).runFrom script second :=
  List.foldl_append

/-- A program that was started goes on from where it is, and does what it has left in order. -/
theorem runFrom_programs {system : Concurrent ι ε σ} {i : ι} {program : Progress ε σ}
    (h : system.programs i = some program) (schedule : List ι) :
    ∃ done rest, program.rest = done ++ rest ∧ (system.runFrom script schedule).programs i
      = some { program with done := program.done ++ done, rest := rest } := by
  induction schedule generalizing system program with
  | nil =>
      refine ⟨[], program.rest, rfl, ?_⟩
      rw [List.append_nil]
      exact h
  | cons j schedule ih =>
      by_cases hj : j = i
      · subst hj
        cases hrest : program.rest with
        | nil =>
            have hturn : (system.turn script j).programs j = some program := by
              simp only [Concurrent.turn, h, Option.getD_some, hrest, Function.update_self]
            obtain ⟨done, rest, hsplit, hrun⟩ := ih hturn
            exact ⟨done, rest, hrest.symm.trans hsplit, hrun⟩
        | cons event left =>
            have hturn : (system.turn script j).programs j
                = some { program with done := program.done ++ [event], rest := left } := by
              simp only [Concurrent.turn, h, Option.getD_some, hrest, Function.update_self]
            obtain ⟨done, rest, hsplit, hrun⟩ := ih hturn
            refine ⟨event :: done, rest, congrArg (event :: ·) hsplit, ?_⟩
            rw [List.append_cons]
            exact hrun
      · have hturn : (system.turn script j).programs i = some program := by
          rw [← h]
          simp only [Concurrent.turn]
          split
          · exact Function.update_of_ne (Ne.symm hj) _ _
          · exact Function.update_of_ne (Ne.symm hj) _ _
        exact ih hturn

/-- A script looks at the state in front of its first event at most: that event settles the others. -/
def ReadsFirst (script : σ → List ε) : Prop :=
  ∀ state state', (script state).head? = (script state').head? → script state = script state'

variable {script}

omit [DecidableEq ι] [Replay ε σ] in
/-- What a program that has begun has left to do is the same on every state on which it begins so. -/
theorem ReadsFirst.goesOn {i : ι} {program : Progress ε σ} (h : ReadsFirst (script i))
    (hwhole : script i program.origin = program.done ++ program.rest) (hdone : program.done ≠ []) (now : σ)
    (hfirst : (script i now).head? = program.done.head?) :
    script i now = program.done ++ program.rest := by
  rw [← hwhole]
  apply h
  rw [hfirst, hwhole, List.head?_append_of_ne_nil _ hdone]

end Run

section Store

variable {ι ε κ ν : Type} [DecidableEq ι] [Replay ε (κ → Option ν)] (touches : ε → Option κ)

/-- An event changes the value of the one key it touches, whatever the other values are. -/
structure ActsLocally : Prop where
  frame : ∀ (store : κ → Option ν) (event : ε) (key : κ), touches event ≠ some key →
    Replay.apply store event key = store key
  congr : ∀ (store store' : κ → Option ν) (event : ε) (key : κ), store key = store' key →
    Replay.apply store event key = Replay.apply store' event key

/-- The events work on a key of their own: no key they touch is in use in `store`, and from the second
event on a key is touched only while it is in use. -/
structure Private (store : κ → Option ν) (events : List ε) : Prop where
  fresh : ∀ event ∈ events, ∀ key, touches event = some key → store key = none
  inUse : ∀ before event after key, events = before ++ event :: after → before ≠ [] →
    touches event = some key → (replay store before key).isSome

namespace Progress

variable {touches}

def view (program : Progress ε (κ → Option ν)) (key : κ) : Option ν :=
  replay program.origin program.done key

def Touched (touches : ε → Option κ) (program : Progress ε (κ → Option ν)) (key : κ) : Prop :=
  ∃ event ∈ program.done, touches event = some key

end Progress

variable {touches}

theorem ActsLocally.replay_frame (hlocal : ActsLocally (ν := ν) touches) {events : List ε} {key : κ}
    (h : ∀ event ∈ events, touches event ≠ some key) (store : κ → Option ν) :
    replay store events key = store key := by
  refine replay_preserves (fun state : κ → Option ν => state key = store key) ?_ rfl
  intro event hmem state hstate
  exact (hlocal.frame state event key (h event hmem)).trans hstate

namespace Progress

/-- The program once it has done its next event. -/
def advance (program : Progress ε (κ → Option ν)) (event : ε) (rest : List ε) :
    Progress ε (κ → Option ν) :=
  { program with done := program.done ++ [event], rest := rest }

omit [Replay ε (κ → Option ν)] in
theorem touched_advance_iff (program : Progress ε (κ → Option ν)) (event : ε) (rest : List ε)
    (key : κ) : (program.advance event rest).Touched touches key
      ↔ program.Touched touches key ∨ touches event = some key := by
  simp only [Touched, advance, List.mem_append, List.mem_singleton, or_and_right, exists_or,
    exists_eq_left]

theorem view_advance (program : Progress ε (κ → Option ν)) (event : ε) (rest : List ε) :
    (program.advance event rest).view = Replay.apply program.view event := by
  funext key
  change replay program.origin (program.done ++ [event]) key = _
  rw [replay_append]
  rfl

end Progress

theorem update_eq_some_iff {ι α : Type} [DecidableEq ι] {programs : ι → Option α} {i j : ι}
    {program other : α} : Function.update programs i (some program) j = some other
      ↔ (j = i ∧ other = program) ∨ (j ≠ i ∧ programs j = some other) := by
  by_cases hj : j = i
  · subst hj
    simp [eq_comm]
  · simp [hj]

/-- The state of programs that do not notice each other. -/
structure Isolated (touches : ε → Option κ) (script : ι → (κ → Option ν) → List ε)
    (store : κ → Option ν) (system : Concurrent ι ε (κ → Option ν)) : Prop where
  whole : ∀ i program, system.programs i = some program →
    script i program.origin = program.done ++ program.rest
  begun : ∀ i program, system.programs i = some program → program.done = [] → program.rest = []
  unused : ∀ i program key, system.programs i = some program → program.Touched touches key →
    store key = none
  view : ∀ i program key value, system.programs i = some program → program.Touched touches key →
    program.view key = some value → system.state key = some value
  apart : ∀ i j program other key, i ≠ j → system.programs i = some program →
    system.programs j = some other → program.Touched touches key → other.Touched touches key →
    program.view key = none ∨ other.view key = none
  others : ∀ key, (∀ i program, system.programs i = some program → program.Touched touches key →
    program.view key = none) → system.state key = store key

namespace Isolated

variable {script : ι → (κ → Option ν) → List ε} {store : κ → Option ν}
  {system : Concurrent ι ε (κ → Option ν)} {i : ι} {program : Progress ε (κ → Option ν)}

omit [DecidableEq ι] in
theorem start : Isolated touches script store ⟨store, fun _ => none⟩ where
  whole _ _ h := by cases h
  begun _ _ h := by cases h
  unused _ _ _ h := by cases h
  view _ _ _ _ h := by cases h
  apart _ _ _ _ _ _ h := by cases h
  others _ _ := rfl

/-- A program that has nothing left to do takes its turn. -/
theorem idle (h : Isolated touches script store system) (hrest : program.rest = [])
    (hwhole : script i program.origin = program.done ++ program.rest)
    (hprogram : ∀ current, system.programs i = some current → current = program)
    (hold : program.done ≠ [] → system.programs i = some program) :
    Isolated touches script store
      { system with programs := Function.update system.programs i (some program) } := by
  have hsame : ∀ {j other key},
      Function.update system.programs i (some program) j = some other →
      other.Touched touches key → system.programs j = some other := by
    rintro j other key hother ⟨event, hmem, -⟩
    rcases update_eq_some_iff.mp hother with ⟨rfl, rfl⟩ | ⟨-, hother⟩
    · exact hold (List.ne_nil_of_mem hmem)
    · exact hother
  constructor
  · intro j other hother
    rcases update_eq_some_iff.mp hother with ⟨rfl, rfl⟩ | ⟨-, hother⟩
    · exact hwhole
    · exact h.whole j other hother
  · intro j other hother hdone
    rcases update_eq_some_iff.mp hother with ⟨rfl, rfl⟩ | ⟨-, hother⟩
    · exact hrest
    · exact h.begun j other hother hdone
  · intro j other key hother htouched
    exact h.unused j other key (hsame hother htouched) htouched
  · intro j other key value hother htouched
    exact h.view j other key value (hsame hother htouched) htouched
  · intro j k other another key hne hother hanother htouched htouched'
    exact h.apart j k other another key hne (hsame hother htouched) (hsame hanother htouched')
      htouched htouched'
  · intro key hnone
    apply h.others
    intro j other hother
    apply hnone j other
    by_cases hj : j = i
    · subst hj
      exact update_eq_some_iff.mpr (Or.inl ⟨rfl, hprogram other hother⟩)
    · exact update_eq_some_iff.mpr (Or.inr ⟨hj, hother⟩)

/-- A program does an event on a key that holds what the program left there, and that is in use by no
other program. -/
theorem act (hlocal : ActsLocally (ν := ν) touches) (h : Isolated touches script store system)
    {event : ε} {rest : List ε} (hwhole : script i program.origin = program.done ++ event :: rest)
    (hprogram : ∀ current, system.programs i = some current → current = program)
    (hold : program.done ≠ [] → system.programs i = some program)
    (hkey : ∀ key, touches event = some key → store key = none
      ∧ system.state key = program.view key
      ∧ ∀ j other, j ≠ i → system.programs j = some other → other.Touched touches key →
        other.view key = none) :
    Isolated touches script store
      { state := Replay.apply system.state event
        programs := Function.update system.programs i (some (program.advance event rest)) } := by
  have hcurrent : ∀ {key}, program.Touched touches key → system.programs i = some program := by
    rintro key ⟨event, hmem, -⟩
    exact hold (List.ne_nil_of_mem hmem)
  have hframe : ∀ {key}, touches event ≠ some key →
      (program.advance event rest).view key = program.view key := by
    intro key hne
    rw [Progress.view_advance, hlocal.frame _ _ _ hne]
  have hbefore : ∀ {key}, touches event ≠ some key →
      (program.advance event rest).Touched touches key → program.Touched touches key := by
    intro key hne htouched
    exact ((program.touched_advance_iff event rest key).mp htouched).resolve_right hne
  -- the step against one other program: the key of the event is not that program's
  have hapart : ∀ {j other key}, j ≠ i → system.programs j = some other →
      other.Touched touches key → (program.advance event rest).Touched touches key →
      other.view key = none ∨ (program.advance event rest).view key = none := by
    intro j other key hj hother htouched hadvanced
    by_cases hevent : touches event = some key
    · exact Or.inl ((hkey key hevent).2.2 j other hj hother htouched)
    · rw [hframe hevent]
      exact h.apart j i other program key hj hother (hcurrent (hbefore hevent hadvanced)) htouched
        (hbefore hevent hadvanced)
  constructor
  · intro j other hother
    rcases update_eq_some_iff.mp hother with ⟨rfl, rfl⟩ | ⟨-, hother⟩
    · change script j program.origin = (program.done ++ [event]) ++ rest
      rw [hwhole, List.append_assoc]
      rfl
    · exact h.whole j other hother
  · intro j other hother hdone
    rcases update_eq_some_iff.mp hother with ⟨rfl, rfl⟩ | ⟨-, hother⟩
    · exact absurd (List.append_eq_nil_iff.mp hdone).2 (List.cons_ne_nil _ _)
    · exact h.begun j other hother hdone
  · intro j other key hother htouched
    rcases update_eq_some_iff.mp hother with ⟨rfl, rfl⟩ | ⟨-, hother⟩
    · by_cases hevent : touches event = some key
      · exact (hkey key hevent).1
      · exact h.unused j program key (hcurrent (hbefore hevent htouched)) (hbefore hevent htouched)
    · exact h.unused j other key hother htouched
  · intro j other key value hother htouched hview
    change Replay.apply system.state event key = some value
    rcases update_eq_some_iff.mp hother with ⟨rfl, rfl⟩ | ⟨hj, hother⟩
    · by_cases hevent : touches event = some key
      · rw [← hview, Progress.view_advance]
        exact hlocal.congr _ _ event key (hkey key hevent).2.1
      · rw [hframe hevent] at hview
        rw [hlocal.frame _ _ _ hevent]
        exact h.view j program key value (hcurrent (hbefore hevent htouched)) (hbefore hevent htouched)
          hview
    · by_cases hevent : touches event = some key
      · rw [(hkey key hevent).2.2 j other hj hother htouched] at hview
        cases hview
      · rw [hlocal.frame _ _ _ hevent]
        exact h.view j other key value hother htouched hview
  · intro j k other another key hne hother hanother htouched htouched'
    rcases update_eq_some_iff.mp hother with ⟨rfl, rfl⟩ | ⟨hj, hfound⟩
    · rcases update_eq_some_iff.mp hanother with ⟨rfl, -⟩ | ⟨hk, hfound⟩
      · exact absurd rfl hne
      · exact (hapart hk hfound htouched' htouched).symm
    · rcases update_eq_some_iff.mp hanother with ⟨rfl, rfl⟩ | ⟨-, hfound'⟩
      · exact hapart hj hfound htouched htouched'
      · exact h.apart j k other another key hne hfound hfound' htouched htouched'
  · intro key hnone
    change Replay.apply system.state event key = store key
    by_cases hevent : touches event = some key
    · have hview := hnone i (program.advance event rest) (Function.update_self _ _ _)
        ((program.touched_advance_iff event rest key).mpr (Or.inr hevent))
      rw [(hkey key hevent).1, ← hview, Progress.view_advance]
      exact hlocal.congr _ _ event key (hkey key hevent).2.1
    · rw [hlocal.frame _ _ _ hevent]
      apply h.others
      intro j other hother htouched
      by_cases hj : j = i
      · subst hj
        obtain rfl := hprogram other hother
        rw [← hframe hevent]
        exact hnone j (other.advance event rest) (Function.update_self _ _ _)
          ((other.touched_advance_iff event rest key).mpr (Or.inl htouched))
      · exact hnone j other (update_eq_some_iff.mpr (Or.inr ⟨hj, hother⟩)) htouched

/-- **The step lemma.** -/
theorem turn (hlocal : ActsLocally (ν := ν) touches)
    (hprivate : ∀ i state, Private touches state (script i state))
    (h : Isolated touches script store system) (i : ι) :
    Isolated touches script store (system.turn script i) := by
  cases hi : system.programs i with
  | none =>
      have hnew : ∀ current, system.programs i = some current →
          current = ⟨system.state, [], script i system.state⟩ := by
        intro current hcurrent
        rw [hi] at hcurrent
        cases hcurrent
      cases hscript : script i system.state with
      | nil =>
          rw [hscript] at hnew
          simp only [Concurrent.turn, hi, Option.getD_none, hscript]
          exact h.idle rfl hscript hnew (absurd rfl)
      | cons event rest =>
          rw [hscript] at hnew
          simp only [Concurrent.turn, hi, Option.getD_none, hscript]
          change Isolated touches script store
            { state := Replay.apply system.state event
              programs := Function.update system.programs i
                (some (Progress.advance ⟨system.state, [], event :: rest⟩ event rest)) }
          apply h.act hlocal hscript hnew (absurd rfl)
          intro key hevent
          -- the first event finds a key that is not in use, so no program holds it
          have hfree : system.state key = none :=
            (hprivate i system.state).fresh event (hscript ▸ List.mem_cons_self) key hevent
          have hnone : ∀ j other, system.programs j = some other → other.Touched touches key →
              other.view key = none := by
            intro j other hother htouched
            by_contra hview
            obtain ⟨value, hview⟩ := Option.ne_none_iff_exists'.mp hview
            rw [h.view j other key value hother htouched hview] at hfree
            cases hfree
          exact ⟨(h.others key hnone).symm.trans hfree, rfl, fun j other _ => hnone j other⟩
  | some program =>
      have hsame : ∀ current, system.programs i = some current → current = program := by
        intro current hcurrent
        exact Option.some.inj (hcurrent.symm.trans hi)
      have hwhole := h.whole i program hi
      cases hrest : program.rest with
      | nil =>
          simp only [Concurrent.turn, hi, Option.getD_some, hrest]
          exact h.idle hrest hwhole hsame fun _ => hi
      | cons event rest =>
          simp only [Concurrent.turn, hi, Option.getD_some, hrest]
          rw [hrest] at hwhole
          apply h.act hlocal hwhole hsame fun _ => hi
          intro key hevent
          have hown := hprivate i program.origin
          have hdone : program.done ≠ [] := by
            intro hdone
            rw [h.begun i program hi hdone] at hrest
            cases hrest
          -- the key is in use when it is touched again, so the program has touched it before
          obtain ⟨value, hvalue⟩ := Option.isSome_iff_exists.mp
            (hown.inUse program.done event rest key hwhole hdone hevent)
          have htouched : program.Touched touches key := by
            by_contra hnot
            have hfree : program.origin key = none :=
              hown.fresh event (hwhole ▸ List.mem_append_right _ List.mem_cons_self) key hevent
            rw [hlocal.replay_frame (fun e hmem htouches => hnot ⟨e, hmem, htouches⟩), hfree] at hvalue
            cases hvalue
          have hview : program.view key = some value := hvalue
          refine ⟨h.unused i program key hi htouched, ?_, ?_⟩
          · rw [hview]
            exact h.view i program key value hi htouched hview
          · intro j other hj hother hothers
            have hcases := h.apart j i other program key hj hother hi hothers htouched
            exact hcases.resolve_right (by rw [hview]; exact Option.some_ne_none value)

/-- **The run lemma.** Programs that work on keys of their own do not notice each other. -/
theorem run (hlocal : ActsLocally (ν := ν) touches)
    (hprivate : ∀ i state, Private touches state (script i state))
    (h : Isolated touches script store system) (schedule : List ι) :
    Isolated touches script store (system.runFrom script schedule) := by
  induction schedule generalizing system with
  | nil => exact h
  | cons i schedule ih => exact ih (h.turn hlocal hprivate i)

/-- A program that does not touch its key any more leaves the value there for good. -/
theorem persists (hlocal : ActsLocally (ν := ν) touches)
    (hprivate : ∀ i state, Private touches state (script i state))
    (h : Isolated touches script store system) (hi : system.programs i = some program) {key : κ}
    {value : ν} (htouched : program.Touched touches key) (hview : program.view key = some value)
    (hrest : ∀ event ∈ program.rest, touches event ≠ some key) (schedule : List ι) :
    (system.runFrom script schedule).state key = some value := by
  obtain ⟨done, rest, hsplit, hlater⟩ := runFrom_programs script hi schedule
  apply (h.run hlocal hprivate schedule).view i _ key value hlater
  · obtain ⟨event, hmem, hevent⟩ := htouched
    exact ⟨event, List.mem_append_left _ hmem, hevent⟩
  · have huntouched : ∀ event ∈ done, touches event ≠ some key := by
      intro event hmem
      exact hrest event (hsplit ▸ List.mem_append_left _ hmem)
    change replay program.origin (program.done ++ done) key = some value
    rw [replay_append, hlocal.replay_frame huntouched]
    exact hview

end Isolated

theorem isolated_interleaved (hlocal : ActsLocally (ν := ν) touches)
    {script : ι → (κ → Option ν) → List ε} (hprivate : ∀ i state, Private touches state (script i state))
    (store : κ → Option ν) (schedule : List ι) :
    Isolated touches script store (interleaved script store schedule) :=
  Isolated.start.run hlocal hprivate schedule

end Store

end Generic
