import PmiExitModule.Generic.Monitor

/-!
# Two programs side by side

That a program does what another does, on a larger system that is told more, is a statement about two
runs: of the events of the first, those the smaller system has are the events of the second, and they end
alike. It is proved along the text of the programs, one rule for each way to build one, with a relation
between what the two runs have computed so far. On one system it says that a program does not depend on
what its input differs in.
-/

namespace Generic

section Except

variable {φ α β α' β' : Type}

/-- Both fault alike, or both come out with values that are related. -/
def ExceptAlike (related : α → α' → Prop) : Except φ α → Except φ α' → Prop
  | .ok value, .ok value' => related value value'
  | .error fault, .error fault' => fault = fault'
  | _, _ => False

variable {related : α → α' → Prop} {related' : β → β' → Prop} {result : Except φ α}
  {result' : Except φ α'}

theorem exceptAlike_refl {related : α → α → Prop} {result : Except φ α}
    (h : ∀ value, result = .ok value → related value value) : ExceptAlike related result result := by
  cases result with
  | ok value => exact h value rfl
  | error fault => exact rfl

theorem exceptAlike_eq (result : Except φ α) : ExceptAlike (· = ·) result result :=
  exceptAlike_refl fun _ _ => rfl

theorem ExceptAlike.bind (h : ExceptAlike related result result') {next : α → Except φ β}
    {next' : α' → Except φ β'}
    (hnext : ∀ value value', related value value' → ExceptAlike related' (next value) (next' value')) :
    ExceptAlike related' (result >>= next) (result' >>= next') := by
  cases result with
  | ok value =>
      cases result' with
      | ok value' => exact hnext value value' h
      | error fault => exact h.elim
  | error fault =>
      cases result' with
      | ok value' => exact h.elim
      | error fault' => exact h

theorem ExceptAlike.ite {c : Prop} [Decidable c] {other : Except φ α} {other' : Except φ α'}
    (hfirst : c → ExceptAlike related result result') (hsecond : ¬ c → ExceptAlike related other other') :
    ExceptAlike related (if c then result else other) (if c then result' else other') := by
  by_cases hc : c
  · rw [if_pos hc, if_pos hc]
    exact hfirst hc
  · rw [if_neg hc, if_neg hc]
    exact hsecond hc

theorem ExceptAlike.mono {weaker : α → α' → Prop} (h : ExceptAlike related result result')
    (hweaker : ∀ value value', related value value' → weaker value value') :
    ExceptAlike weaker result result' := by
  cases result with
  | ok value =>
      cases result' with
      | ok value' => exact hweaker value value' h
      | error fault => exact h.elim
  | error fault =>
      cases result' with
      | ok value' => exact h.elim
      | error fault' => exact h

end Except

def EndingAlike {φ α α' : Type} (related : α → α' → Prop) : Ending φ α → Ending φ α' → Prop
  | .returned value, .returned value' => related value value'
  | .faulted fault, .faulted fault' => fault = fault'
  | .running, .running => True
  | _, _ => False

theorem EndingAlike.eq {φ α : Type} {ending ending' : Ending φ α} (h : EndingAlike (· = ·) ending ending') :
    ending = ending' := by
  cases ending with
  | returned value =>
      cases ending' with
      | returned value' => exact congrArg _ h
      | _ => exact h.elim
  | faulted fault =>
      cases ending' with
      | faulted fault' => exact congrArg _ h
      | _ => exact h.elim
  | running =>
      cases ending' with
      | running => rfl
      | _ => exact h.elim

/-! ### A program as another sees it -/

/-- A smaller system inside a larger one: a part of the state, and the events that part takes notice of. -/
structure View (ε' σ' ε σ : Type) [Replay ε' σ'] [Replay ε σ] where
  state : σ' → σ
  event : ε' → Option ε
  hidden : ∀ s e, event e = none → state (Replay.apply s e) = state s
  seen : ∀ s e a, event e = some a → state (Replay.apply s e) = Replay.apply (state s) a

namespace View

variable {ε' σ' ε σ : Type} [Replay ε' σ'] [Replay ε σ]

theorem replay (view : View ε' σ' ε σ) (s : σ') (events : List ε') :
    view.state (Generic.replay s events) = Generic.replay (view.state s) (events.filterMap view.event) := by
  induction events generalizing s with
  | nil => rfl
  | cons e events ih =>
      rw [replay_cons, ih]
      cases hevent : view.event e with
      | none => rw [List.filterMap_cons_none hevent, view.hidden s e hevent]
      | some a => rw [List.filterMap_cons_some hevent, replay_cons, view.seen s e a hevent]

/-- The whole system. -/
def whole : View ε σ ε σ where
  state := id
  event := some
  hidden _ _ h := nomatch h
  seen _ e a h := by
    obtain rfl : e = a := Option.some.inj h
    rfl

end View

namespace Program

variable {φ ε' σ' ε σ α β α' β' γ : Type} [Replay ε' σ'] [Replay ε σ]

/-- Run on this state, the first program does like the second what the view takes notice of, and they
end alike. -/
def ShowsAt (view : View ε' σ' ε σ) (related : α' → α → Prop) (fine : Program φ ε' σ' α')
    (coarse : Program φ ε σ α) (s : σ') : Prop :=
  (fine s).2.filterMap view.event = (coarse (view.state s)).2
    ∧ EndingAlike related (fine s).1 (coarse (view.state s)).1

def Shows (view : View ε' σ' ε σ) (related : α' → α → Prop) (fine : Program φ ε' σ' α')
    (coarse : Program φ ε σ α) : Prop :=
  ∀ s, ShowsAt view related fine coarse s

section Shows

variable {view : View ε' σ' ε σ} {related : α' → α → Prop} {related' : β' → β → Prop}
  {fine : Program φ ε' σ' α'} {coarse : Program φ ε σ α}

theorem shows_pure {value : α'} {value' : α} (h : related value value') :
    Shows view related (pure value : Program φ ε' σ' α') (pure value') := fun _ => ⟨rfl, h⟩

theorem shows_lift {result : Except φ α'} {result' : Except φ α} (h : ExceptAlike related result result') :
    Shows view related (lift result : Program φ ε' σ' α') (lift result') := by
  intro s
  cases result with
  | ok value =>
      cases result' with
      | ok value' => exact ⟨rfl, h⟩
      | error fault => exact h.elim
  | error fault =>
      cases result' with
      | ok value' => exact h.elim
      | error fault' => exact ⟨rfl, h⟩

theorem shows_emit {e : ε'} {a : ε} (h : view.event e = some a) :
    Shows view (· = ·) (emit e : Program φ ε' σ' Unit) (emit a) := by
  intro s
  refine ⟨?_, rfl⟩
  rw [emit_apply, emit_apply, List.filterMap_cons_some h]
  rfl

theorem shows_hidden {e : ε'} (h : view.event e = none) :
    Shows view (· = ·) (emit e : Program φ ε' σ' Unit) (pure ()) := by
  intro s
  refine ⟨?_, rfl⟩
  rw [emit_apply, List.filterMap_cons_none h]
  rfl

theorem shows_along {embed : ε → ε'} (h : ∀ a, view.event (embed a) = some a) (program : Program φ ε σ γ) :
    Shows view (· = ·) (program.along view.state embed) program := by
  intro s
  constructor
  · unfold along
    rw [List.filterMap_map]
    calc (program (view.state s)).2.filterMap (view.event ∘ embed)
        = (program (view.state s)).2.filterMap some := by
          congr 1
          funext a
          exact h a
      _ = (program (view.state s)).2 := List.filterMap_some
  · unfold along
    cases (program (view.state s)).1 with
    | returned value => exact rfl
    | faulted fault => exact rfl
    | running => exact trivial

theorem Shows.ite {c : Prop} [Decidable c] {other : Program φ ε' σ' α'} {other' : Program φ ε σ α}
    (hfirst : c → Shows view related fine coarse) (hsecond : ¬ c → Shows view related other other') :
    Shows view related (if c then fine else other) (if c then coarse else other') := by
  by_cases hc : c
  · rw [if_pos hc, if_pos hc]
    exact hfirst hc
  · rw [if_neg hc, if_neg hc]
    exact hsecond hc

/-- What follows is looked at where the first program left the state. -/
theorem ShowsAt.bind {next : α' → Program φ ε' σ' β'} {next' : α → Program φ ε σ β} {s : σ'}
    (h : ShowsAt view related fine coarse s)
    (hnext : ∀ value value', (fine s).1 = .returned value → related value value' →
      ShowsAt view related' (next value) (next' value') (replay s (fine s).2)) :
    ShowsAt view related' (fine >>= next) (coarse >>= next') s := by
  obtain ⟨hevents, hending⟩ := h
  rcases hrun : fine s with ⟨ending, events⟩
  rcases hrun' : coarse (view.state s) with ⟨ending', events'⟩
  rw [hrun, hrun'] at hevents hending
  rw [hrun] at hnext
  obtain rfl : events.filterMap view.event = events' := hevents
  unfold ShowsAt
  cases ending with
  | returned value =>
      cases ending' with
      | returned value' =>
          obtain ⟨hrest, hlast⟩ := hnext value value' rfl hending
          rw [view.replay] at hrest hlast
          rw [bind_of_returned hrun, bind_of_returned hrun']
          refine ⟨?_, hlast⟩
          rw [List.filterMap_append, hrest]
      | faulted fault => exact hending.elim
      | running => exact hending.elim
  | faulted fault =>
      cases ending' with
      | returned value' => exact hending.elim
      | faulted fault' =>
          rw [bind_of_faulted hrun, bind_of_faulted hrun']
          exact ⟨rfl, hending⟩
      | running => exact hending.elim
  | running =>
      cases ending' with
      | returned value' => exact hending.elim
      | faulted fault => exact hending.elim
      | running =>
          rw [bind_of_running hrun, bind_of_running hrun']
          exact ⟨rfl, trivial⟩

theorem ShowsAt.lift_bind {result : Except φ γ} {next : γ → Program φ ε' σ' α'} {next' : γ → Program φ ε σ α}
    {s : σ'} (h : ∀ value, ShowsAt view related (next value) (next' value) s) :
    ShowsAt view related (lift result >>= next) (lift result >>= next') s := by
  unfold ShowsAt
  cases result with
  | ok value =>
      rw [lift_ok_bind_apply, lift_ok_bind_apply]
      exact h value
  | error fault =>
      rw [lift_error_bind_apply, lift_error_bind_apply]
      exact ⟨rfl, rfl⟩

theorem Shows.bind {next : α' → Program φ ε' σ' β'} {next' : α → Program φ ε σ β}
    (h : Shows view related fine coarse)
    (hnext : ∀ value value', related value value' → Shows view related' (next value) (next' value')) :
    Shows view related' (fine >>= next) (coarse >>= next') :=
  fun s => (h s).bind fun value value' _ hvalue => hnext value value' hvalue _

/-- What the view takes no notice of may happen at any time. -/
theorem Shows.hidden_bind {related' : β' → Unit → Prop} {program : Program φ ε' σ' β'}
    {next : β' → Program φ ε' σ' α'} (h : Shows view related' program (pure ()))
    (hnext : ∀ value, related' value () → Shows view related (next value) coarse) :
    Shows view related (program >>= next) coarse := by
  have hpure : (pure () >>= fun _ => coarse : Program φ ε σ α) = coarse := rfl
  rw [← hpure]
  exact h.bind fun value _ hvalue => hnext value hvalue

/-- The first program may do more than the second, as long as the view takes no notice of it. -/
theorem Shows.bind_hidden {next : α' → Program φ ε' σ' β'} (h : Shows view related fine coarse)
    {related' : β' → α → Prop}
    (hnext : ∀ value value', related value value' → Shows view related' (next value) (pure value')) :
    Shows view related' (fine >>= next) coarse := by
  have hpure : (coarse >>= pure) = coarse := by
    funext s
    have hmap : (coarse >>= fun value => pure (id value)) s = _ := bind_pure_apply _ coarse id
    refine hmap.trans (Prod.ext ?_ rfl)
    cases (coarse s).1 <;> rfl
  rw [← hpure]
  exact h.bind hnext

/-- The first program may look at all of its state. -/
theorem ShowsAt.read_bind {next : σ' → Program φ ε' σ' α'} {s : σ'}
    (h : ShowsAt view related (next s) coarse s) : ShowsAt view related (read >>= next) coarse s := by
  unfold ShowsAt
  rw [read_bind_apply]
  exact h

theorem shows_read_bind {next : σ' → Program φ ε' σ' α'} (h : ∀ s, Shows view related (next s) coarse) :
    Shows view related (read >>= next) coarse := fun s => ShowsAt.read_bind (h s s)

end Shows

/-! ### Two programs on one system -/

/-- On every state the two programs cause the same events, and end alike. -/
def Alike (related : α → β → Prop) (program : Program φ ε σ α) (program' : Program φ ε σ β) : Prop :=
  Shows .whole related program program'

section Alike

variable {related : α → α' → Prop} {related' : β → β' → Prop} {program : Program φ ε σ α}
  {program' : Program φ ε σ α'}

theorem eq_of_alike {other : Program φ ε σ α} (h : Alike (· = ·) program other) : program = other := by
  funext s
  obtain ⟨hevents, hending⟩ := h s
  have hsame : (program s).2 = (other s).2 := List.filterMap_some.symm.trans hevents
  exact Prod.ext hending.eq hsame

theorem alike_refl (program : Program φ ε σ α) : Alike (· = ·) program program := by
  intro s
  refine ⟨List.filterMap_some, ?_⟩
  change EndingAlike _ (program s).1 (program s).1
  cases (program s).1 with
  | returned value => exact rfl
  | faulted fault => exact rfl
  | running => exact trivial

theorem alike_pure {value : α} {value' : α'} (h : related value value') :
    Alike related (pure value : Program φ ε σ α) (pure value') := shows_pure h

theorem alike_lift {result : Except φ α} {result' : Except φ α'}
    (h : ExceptAlike related result result') :
    Alike related (lift result : Program φ ε σ α) (lift result') := shows_lift h

theorem Alike.ite {c : Prop} [Decidable c] {other : Program φ ε σ α} {other' : Program φ ε σ α'}
    (hfirst : c → Alike related program program') (hsecond : ¬ c → Alike related other other') :
    Alike related (if c then program else other) (if c then program' else other') :=
  Shows.ite hfirst hsecond

theorem Alike.bind {next : α → Program φ ε σ β} {next' : α' → Program φ ε σ β'}
    (h : Alike related program program')
    (hnext : ∀ value value', related value value' → Alike related' (next value) (next' value')) :
    Alike related' (program >>= next) (program' >>= next') :=
  Shows.bind h hnext

end Alike

end Program

end Generic
