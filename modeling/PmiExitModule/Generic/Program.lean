import Mathlib.Data.List.Basic

/-!
# Programs that act on a replayed state

A program reads a state and answers with the list of events it caused, so its effect on the state is
the replay of that list and nothing else. It ends in one of three ways: it returned, it faulted with
the events caused so far, or it is still running on the outcomes it was supplied with. Histories of
calls are folds of this, and an invariant of one call is an invariant of every history.
-/

namespace Generic

/-- How a program ends on the outcomes it was supplied with. -/
inductive Ending (φ α : Type) where
  | returned (value : α)
  | faulted (fault : φ)
  | running
  deriving DecidableEq, Repr

def Ending.map {φ α β : Type} (f : α → β) : Ending φ α → Ending φ β
  | returned value => returned (f value)
  | faulted fault => faulted fault
  | running => running

def Ending.ofExcept {φ α : Type} : Except φ α → Ending φ α
  | .ok value => returned value
  | .error fault => faulted fault

/-- A computation that came out right came out right at every step. -/
theorem exists_of_bind_eq_ok {φ α β : Type} {first : Except φ α} {next : α → Except φ β} {result : β}
    (h : first >>= next = .ok result) : ∃ value, first = .ok value ∧ next value = .ok result := by
  cases first with
  | error fault => cases h
  | ok value => exact ⟨value, rfl, h⟩

/-- A state that is changed by replaying events on it. -/
class Replay (ε σ : Type) where
  apply : σ → ε → σ

def replay {ε σ : Type} [Replay ε σ] (state : σ) (events : List ε) : σ :=
  events.foldl Replay.apply state

section Replay

variable {ε σ : Type} [Replay ε σ]

@[simp]
theorem replay_nil (state : σ) : replay state ([] : List ε) = state := rfl

@[simp]
theorem replay_cons (state : σ) (event : ε) (events : List ε) :
    replay state (event :: events) = replay (Replay.apply state event) events := rfl

theorem replay_append (state : σ) (first second : List ε) :
    replay state (first ++ second) = replay (replay state first) second :=
  List.foldl_append

/-- What every event of a list keeps, the replay of the list keeps. -/
theorem replay_preserves (inv : σ → Prop) {events : List ε}
    (hstep : ∀ event ∈ events, ∀ state, inv state → inv (Replay.apply state event))
    {state : σ} (hinv : inv state) : inv (replay state events) := by
  induction events generalizing state with
  | nil => exact hinv
  | cons event events ih =>
      apply ih
      · intro e he
        exact hstep e (List.mem_cons_of_mem _ he)
      · exact hstep event List.mem_cons_self state hinv

end Replay

/-- A program over events `ε` on a state `σ`, faulting with `φ`. -/
def Program (φ ε σ α : Type) : Type := σ → Ending φ α × List ε

namespace Program

variable {φ ε σ α β : Type}

def emit (event : ε) : Program φ ε σ Unit := fun _ => (.returned (), [event])

def read : Program φ ε σ σ := fun state => (.returned state, [])

/-- Stop here: the outcomes supplied are used up. -/
def wait : Program φ ε σ α := fun _ => (.running, [])

/-- A computation without events, which may fault. -/
def lift : Except φ α → Program φ ε σ α
  | .ok value => fun _ => (.returned value, [])
  | .error fault => fun _ => (.faulted fault, [])

@[simp]
theorem emit_apply (event : ε) (state : σ) :
    (emit event : Program φ ε σ Unit) state = (.returned (), [event]) := rfl

@[simp]
theorem read_apply (state : σ) : (read : Program φ ε σ σ) state = (.returned state, []) := rfl

@[simp]
theorem wait_apply (state : σ) : (wait : Program φ ε σ α) state = (.running, []) := rfl

@[simp]
theorem lift_ok_apply (value : α) (state : σ) :
    (lift (.ok value) : Program φ ε σ α) state = (.returned value, []) := rfl

@[simp]
theorem lift_error_apply (fault : φ) (state : σ) :
    (lift (.error fault) : Program φ ε σ α) state = (.faulted fault, []) := rfl

variable [Replay ε σ]

def bind (first : Program φ ε σ α) (next : α → Program φ ε σ β) : Program φ ε σ β := fun state =>
  match first state with
  | (.returned value, events) =>
      let rest := next value (replay state events)
      (rest.1, events ++ rest.2)
  | (.faulted fault, events) => (.faulted fault, events)
  | (.running, events) => (.running, events)

instance : Monad (Program φ ε σ) where
  pure value := fun _ => (.returned value, [])
  bind := bind

@[simp]
theorem pure_apply (value : α) (state : σ) :
    (pure value : Program φ ε σ α) state = (.returned value, []) := rfl

section Bind

variable {first : Program φ ε σ α} {next : α → Program φ ε σ β} {state : σ} {events : List ε}

theorem bind_of_returned {value : α} (h : first state = (.returned value, events)) :
    (first >>= next) state
      = ((next value (replay state events)).1, events ++ (next value (replay state events)).2) := by
  change bind first next state = _
  simp only [bind, h]

theorem bind_chain {value : α} {ending : Ending φ β} {rest : List ε}
    (h : first state = (.returned value, events))
    (hnext : next value (replay state events) = (ending, rest)) :
    (first >>= next) state = (ending, events ++ rest) := by
  rw [bind_of_returned h, hnext]

theorem bind_of_faulted {fault : φ} (h : first state = (.faulted fault, events)) :
    (first >>= next) state = (.faulted fault, events) := by
  change bind first next state = _
  simp only [bind, h]

theorem bind_of_running (h : first state = (.running, events)) :
    (first >>= next) state = (.running, events) := by
  change bind first next state = _
  simp only [bind, h]

/-- What a program does comes first, whatever follows. -/
theorem isPrefix_bind (first : Program φ ε σ α) (next : α → Program φ ε σ β) (state : σ) :
    (first state).2 <+: ((first >>= next) state).2 := by
  rcases hrun : first state with ⟨ending, events⟩
  cases ending with
  | returned value =>
      rw [bind_of_returned hrun]
      exact List.prefix_append _ _
  | faulted fault => simp only [bind_of_faulted hrun, List.prefix_refl]
  | running => simp only [bind_of_running hrun, List.prefix_refl]

theorem exists_of_bind_eq_returned {result : β} (h : (first >>= next) state = (.returned result, events)) :
    ∃ value before after, first state = (.returned value, before)
      ∧ next value (replay state before) = (.returned result, after) ∧ events = before ++ after := by
  rcases hfirst : first state with ⟨ending, before⟩
  cases ending with
  | returned value =>
      rw [bind_of_returned hfirst] at h
      obtain ⟨hending, rfl⟩ := Prod.mk.inj h
      exact ⟨value, before, _, rfl, Prod.ext hending rfl, rfl⟩
  | faulted fault =>
      rw [bind_of_faulted hfirst] at h
      cases h
  | running =>
      rw [bind_of_running hfirst] at h
      cases h

variable (next state)

@[simp]
theorem pure_bind_apply (value : α) :
    ((pure value : Program φ ε σ α) >>= next) state = next value state :=
  bind_of_returned (pure_apply value state)

@[simp]
theorem lift_ok_bind_apply (value : α) :
    ((lift (.ok value) : Program φ ε σ α) >>= next) state = next value state :=
  bind_of_returned (lift_ok_apply value state)

@[simp]
theorem lift_error_bind_apply (fault : φ) :
    ((lift (.error fault) : Program φ ε σ α) >>= next) state = (.faulted fault, []) :=
  bind_of_faulted (lift_error_apply fault state)

@[simp]
theorem emit_bind_apply (event : ε) (next : Unit → Program φ ε σ β) :
    ((emit event : Program φ ε σ Unit) >>= next) state
      = ((next () (Replay.apply state event)).1,
          event :: (next () (Replay.apply state event)).2) :=
  bind_of_returned (emit_apply event state)

@[simp]
theorem read_bind_apply (next : σ → Program φ ε σ β) :
    ((read : Program φ ε σ σ) >>= next) state = next state state :=
  bind_of_returned (read_apply state)

/-- Giving another value changes how a program ends and nothing else. -/
theorem bind_pure_apply (first : Program φ ε σ α) (f : α → β) :
    (first >>= fun value => pure (f value)) state = ((first state).1.map f, (first state).2) := by
  rcases hrun : first state with ⟨ending, events⟩
  cases ending with
  | returned value =>
      rw [bind_of_returned hrun]
      exact Prod.ext rfl (List.append_nil _)
  | faulted fault => exact bind_of_faulted hrun
  | running => exact bind_of_running hrun

end Bind

theorem bind_assoc {γ : Type} (first : Program φ ε σ α) (next : α → Program φ ε σ β)
    (last : β → Program φ ε σ γ) :
    first >>= next >>= last = first >>= fun value => next value >>= last := by
  funext state
  rcases hfirst : first state with ⟨ending, events⟩
  cases ending with
  | returned value =>
      rw [bind_of_returned hfirst]
      rcases hnext : next value (replay state events) with ⟨ending, events'⟩
      have hboth : (first >>= next) state = (ending, events ++ events') := bind_chain hfirst hnext
      cases ending with
      | returned value' =>
          rw [bind_of_returned hboth, bind_of_returned hnext, replay_append, List.append_assoc]
      | faulted fault => rw [bind_of_faulted hboth, bind_of_faulted hnext]
      | running => rw [bind_of_running hboth, bind_of_running hnext]
  | faulted fault => rw [bind_of_faulted (bind_of_faulted hfirst), bind_of_faulted hfirst]
  | running => rw [bind_of_running (bind_of_running hfirst), bind_of_running hfirst]

theorem pure_bind (value : α) (next : α → Program φ ε σ β) :
    (pure value : Program φ ε σ α) >>= next = next value := by
  funext state
  exact pure_bind_apply next state value

theorem lift_bind (first : Except φ α) (next : α → Except φ β) :
    (lift (first >>= next) : Program φ ε σ β) = lift first >>= fun value => lift (next value) := by
  cases first with
  | error fault =>
      funext state
      rw [lift_error_bind_apply]
      rfl
  | ok value =>
      funext state
      rw [lift_ok_bind_apply]
      rfl

theorem lift_pure (value : α) : (lift (pure value) : Program φ ε σ α) = pure value := rfl

/-! ### Two ways to look at a program -/

/-- Apart from its events the program is this computation. -/
def Computes (program : Program φ ε σ α) (result : Except φ α) : Prop :=
  ∀ state, (program state).1 = Ending.ofExcept result

theorem computes_pure (value : α) : (pure value : Program φ ε σ α).Computes (pure value) :=
  fun _ => rfl

omit [Replay ε σ] in
theorem computes_lift (result : Except φ α) : (lift result : Program φ ε σ α).Computes result := by
  intro state
  cases result with
  | ok value => rfl
  | error fault => rfl

theorem Computes.bind {first : Program φ ε σ α} {next : α → Program φ ε σ β} {result : Except φ α}
    {rest : α → Except φ β} (hfirst : first.Computes result)
    (hnext : ∀ value, (next value).Computes (rest value)) :
    (first >>= next).Computes (result >>= rest) := by
  intro state
  rcases hrun : first state with ⟨ending, events⟩
  have hending : ending = Ending.ofExcept result := by
    rw [← hfirst state, hrun]
  cases result with
  | ok value =>
      rw [bind_of_returned (hrun.trans (Prod.ext hending rfl))]
      exact hnext value _
  | error fault =>
      rw [bind_of_faulted (hrun.trans (Prod.ext hending rfl))]
      rfl

omit [Replay ε σ] in
theorem Computes.ite {c : Prop} [Decidable c] {first second : Program φ ε σ α}
    {result result' : Except φ α} (hfirst : first.Computes result) (hsecond : second.Computes result') :
    (if c then first else second).Computes (if c then result else result') := by
  split
  · exact hfirst
  · exact hsecond

/-- The program does not look at the state. -/
def Blind (program : Program φ ε σ α) : Prop := ∀ state state', program state = program state'

theorem blind_pure (value : α) : (pure value : Program φ ε σ α).Blind := fun _ _ => rfl

omit [Replay ε σ] in
theorem blind_emit (event : ε) : (emit event : Program φ ε σ Unit).Blind := fun _ _ => rfl

omit [Replay ε σ] in
theorem blind_wait : (wait : Program φ ε σ α).Blind := fun _ _ => rfl

omit [Replay ε σ] in
theorem blind_lift (result : Except φ α) : (lift result : Program φ ε σ α).Blind := by
  cases result with
  | ok value => exact fun _ _ => rfl
  | error fault => exact fun _ _ => rfl

omit [Replay ε σ] in
theorem Blind.ite {c : Prop} [Decidable c] {first second : Program φ ε σ α} (hfirst : first.Blind)
    (hsecond : second.Blind) : (if c then first else second).Blind := by
  split
  · exact hfirst
  · exact hsecond

/-- What follows does not look, so the whole sees of the state what the beginning saw of it. -/
theorem bind_congr_of_blind {first : Program φ ε σ α} {next : α → Program φ ε σ β} {state state' : σ}
    (hfirst : first state = first state') (hnext : ∀ value, (next value).Blind) :
    (first >>= next) state = (first >>= next) state' := by
  rcases hrun : first state' with ⟨ending, events⟩
  rw [hrun] at hfirst
  cases ending with
  | returned value => rw [bind_of_returned hfirst, bind_of_returned hrun, hnext value]
  | faulted fault => rw [bind_of_faulted hfirst, bind_of_faulted hrun]
  | running => rw [bind_of_running hfirst, bind_of_running hrun]

theorem Blind.bind {first : Program φ ε σ α} {next : α → Program φ ε σ β} (hfirst : first.Blind)
    (hnext : ∀ value, (next value).Blind) : (first >>= next).Blind :=
  fun state state' => bind_congr_of_blind (hfirst state state') hnext

/-- Every event the program causes is good, and every value it returns meets the postcondition. -/
def Emits (program : Program φ ε σ α) (good : ε → Prop) (post : α → Prop) : Prop :=
  ∀ state, (∀ event ∈ (program state).2, good event) ∧
    ∀ value, (program state).1 = .returned value → post value

variable {good : ε → Prop} {post : α → Prop}

theorem emits_pure {value : α} (h : post value) : (pure value : Program φ ε σ α).Emits good post := by
  intro state
  constructor
  · exact List.forall_mem_nil _
  · rintro _ ⟨rfl⟩
    exact h

omit [Replay ε σ] in
theorem emits_lift {result : Except φ α} (h : ∀ value, result = .ok value → post value) :
    (lift result : Program φ ε σ α).Emits good post := by
  intro state
  cases result with
  | ok value =>
      constructor
      · exact List.forall_mem_nil _
      · rintro _ ⟨rfl⟩
        exact h value rfl
  | error fault =>
      constructor
      · exact List.forall_mem_nil _
      · rintro _ ⟨⟩

omit [Replay ε σ] in
theorem emits_emit {event : ε} (h : good event) :
    (emit event : Program φ ε σ Unit).Emits good fun _ => True := by
  intro state
  constructor
  · exact List.forall_mem_singleton.mpr h
  · intro _ _
    trivial

omit [Replay ε σ] in
theorem Emits.ite {c : Prop} [Decidable c] {first second : Program φ ε σ α}
    (hfirst : first.Emits good post) (hsecond : second.Emits good post) :
    (if c then first else second).Emits good post := by
  split
  · exact hfirst
  · exact hsecond

theorem Emits.bind {first : Program φ ε σ α} {next : α → Program φ ε σ β} {post' : β → Prop}
    (hfirst : first.Emits good post) (hnext : ∀ value, post value → (next value).Emits good post') :
    (first >>= next).Emits good post' := by
  intro state
  obtain ⟨hevents, hvalue⟩ := hfirst state
  rcases hrun : first state with ⟨ending, events⟩
  rw [hrun] at hevents hvalue
  cases ending with
  | returned value =>
      obtain ⟨hevents', hvalue'⟩ := hnext value (hvalue value rfl) (replay state events)
      rw [bind_of_returned hrun]
      exact ⟨List.forall_mem_append.mpr ⟨hevents, hevents'⟩, hvalue'⟩
  | faulted fault =>
      rw [bind_of_faulted hrun]
      exact ⟨hevents, fun _ h => nomatch h⟩
  | running =>
      rw [bind_of_running hrun]
      exact ⟨hevents, fun _ h => nomatch h⟩

end Program

/-! ### Histories of calls -/

section History

variable {φ ε σ α ι : Type} [Replay ε σ] (call : ι → Program φ ε σ α)

/-- The state after a list of calls made one after the other, whichever way each of them ended. -/
def stateAfter (state : σ) : List ι → σ
  | [] => state
  | i :: rest => stateAfter (replay state (call i state).2) rest

/-- The ending and the events of each call of the list, in order. -/
def history (state : σ) : List ι → List (Ending φ α × List ε)
  | [] => []
  | i :: rest => call i state :: history (replay state (call i state).2) rest

/-- **The run rule.** An invariant every call keeps holds after every list of calls, and each call of
the list was made in a state where it held. -/
theorem history_invariant (inv : σ → Prop) (post : ι → Ending φ α × List ε → Prop)
    {calls : List ι}
    (hstep : ∀ i ∈ calls, ∀ state, inv state →
      inv (replay state (call i state).2) ∧ post i (call i state))
    {state : σ} (hinv : inv state) :
    inv (stateAfter call state calls) ∧
      List.Forall₂ post calls (history call state calls) := by
  induction calls generalizing state with
  | nil => exact ⟨hinv, List.Forall₂.nil⟩
  | cons i rest ih =>
      obtain ⟨hnext, hpost⟩ := hstep i List.mem_cons_self state hinv
      have hrest : ∀ j ∈ rest, ∀ state, inv state →
          inv (replay state (call j state).2) ∧ post j (call j state) := by
        intro j hj
        exact hstep j (List.mem_cons_of_mem _ hj)
      obtain ⟨hlast, hall⟩ := ih hrest hnext
      exact ⟨hlast, List.Forall₂.cons hpost hall⟩

/-- The run rule, for calls whose condition speaks of the state they are made in. -/
theorem history_forall₂ (post : ι → Ending φ α × List ε → Prop) {calls : List ι} {state : σ}
    (hstep : ∀ before i after, calls = before ++ i :: after →
      post i (call i (stateAfter call state before))) :
    List.Forall₂ post calls (history call state calls) := by
  induction calls generalizing state with
  | nil => exact List.Forall₂.nil
  | cons i rest ih =>
      refine List.Forall₂.cons (hstep [] i rest rfl) (ih ?_)
      intro before j after heq
      exact hstep (i :: before) j after (by rw [heq]; rfl)

theorem forall_mem_of_forall₂ {β : Type} {post : β → Prop} {calls : List ι} {runs : List β}
    (h : List.Forall₂ (fun _ run => post run) calls runs) : ∀ run ∈ runs, post run := by
  induction h with
  | nil => simp
  | cons hpost _ ih => exact List.forall_mem_cons.mpr ⟨hpost, ih⟩

/-- The run rule, for what is said of the calls of a history whatever they were called with. -/
theorem history_forall (inv : σ → Prop) (post : Ending φ α × List ε → Prop) {calls : List ι}
    (hstep : ∀ i ∈ calls, ∀ state, inv state →
      inv (replay state (call i state).2) ∧ post (call i state))
    {state : σ} (hinv : inv state) :
    inv (stateAfter call state calls) ∧ ∀ run ∈ history call state calls, post run := by
  obtain ⟨hlast, hall⟩ := history_invariant call inv (fun _ => post) hstep hinv
  exact ⟨hlast, forall_mem_of_forall₂ hall⟩

end History

end Generic
