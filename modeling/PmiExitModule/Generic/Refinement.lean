import PmiExitModule.Generic.Monitor

/-!
# Programs that refine computations

An object lives on a state it shares with others, and stands for an abstract value. A call on it refines
a computation on the value if it ends alike, leaves an object that stands for the new value, keeps within
what a monitor allows, and leaves the rest of the state as it was. The rules follow the ways to build a
call; calls made one after the other refine the computations made one after the other.
-/

namespace Generic

/-- What an object stands for in a state, and what its calls leave alone. -/
structure Refinement (ε σ τ α β : Type) [Replay ε σ] where
  monitor : Monitor ε σ τ
  Stands : σ → τ → α → β → Prop
  Keeps : σ → σ → Prop
  keeps_refl : ∀ state, Keeps state state
  keeps_trans : ∀ first second third, Keeps first second → Keeps second third → Keeps first third

namespace Refinement

variable {φ ε σ τ α β γ δ ι : Type} [Replay ε σ]

/-- A run that started in this state of the system and of the monitor did what the result says. -/
structure Does (r : Refinement ε σ τ α β) (state : σ) (t : τ) (run : Ending φ (γ × α) × List ε)
    (result : Except φ (γ × β)) (t' : τ) : Prop where
  allowed : Generic.monitor r.monitor.step t run.2 = some t'
  keeps : r.Keeps state (replay state run.2)
  ends : (∃ answer object value, run.1 = .returned (answer, object) ∧ result = .ok (answer, value)
      ∧ r.Stands (replay state run.2) t' object value) ∨
    ∃ fault, run.1 = .faulted fault ∧ result = .error fault

def Refines (r : Refinement ε σ τ α β) (object : α) (value : β) (program : Program φ ε σ (γ × α))
    (result : Except φ (γ × β)) : Prop :=
  ∀ state t, r.monitor.Knows state t → r.Stands state t object value →
    ∃ t', r.Does state t (program state) result t'

variable {r : Refinement ε σ τ α β} {object : α} {value : β}

theorem refines_pure (answer : γ) :
    r.Refines object value (pure (answer, object) : Program φ ε σ (γ × α)) (.ok (answer, value)) := by
  intro state t _ hstands
  exact ⟨t, rfl, r.keeps_refl state, Or.inl ⟨answer, object, value, rfl, rfl, hstands⟩⟩

theorem refines_lift_bind {result : Except φ δ} {next : δ → Program φ ε σ (γ × α)}
    {next' : δ → Except φ (γ × β)} (h : ∀ d, r.Refines object value (next d) (next' d)) :
    r.Refines object value (Program.lift result >>= next) (result >>= next') := by
  intro state t hknows hstands
  cases result with
  | ok d =>
      rw [Program.lift_ok_bind_apply]
      exact h d state t hknows hstands
  | error fault =>
      rw [Program.lift_error_bind_apply]
      exact ⟨t, rfl, r.keeps_refl state, Or.inr ⟨fault, rfl, rfl⟩⟩

theorem Refines.bind {first : Program φ ε σ (δ × α)} {result : Except φ (δ × β)}
    {next : δ × α → Program φ ε σ (γ × α)} {next' : δ × β → Except φ (γ × β)}
    (hfirst : r.Refines object value first result)
    (hnext : ∀ answer object' value', r.Refines object' value' (next (answer, object'))
      (next' (answer, value'))) :
    r.Refines object value (first >>= next) (result >>= next') := by
  intro state t hknows hstands
  obtain ⟨t', hallowed, hkeeps, hends⟩ := hfirst state t hknows hstands
  rcases hrun : first state with ⟨ending, events⟩
  rw [hrun] at hallowed hkeeps hends
  rcases hends with ⟨answer, object', value', hreturned, hresult, hstands'⟩ |
    ⟨fault, hfaulted, hresult⟩
  · obtain rfl : ending = .returned (answer, object') := hreturned
    have hknows' := r.monitor.tracks_run hknows hallowed
    obtain ⟨t'', hallowed', hkeeps', hends'⟩ := hnext answer object' value' _ t' hknows' hstands'
    rw [Program.bind_of_returned hrun, hresult]
    refine ⟨t'', (monitor_append_of_some hallowed).trans hallowed', ?_, ?_⟩
    · rw [replay_append]
      exact r.keeps_trans _ _ _ hkeeps hkeeps'
    · rw [replay_append]
      exact hends'
  · obtain rfl : ending = .faulted fault := hfaulted
    rw [Program.bind_of_faulted hrun, hresult]
    exact ⟨t', hallowed, hkeeps, Or.inr ⟨fault, rfl, rfl⟩⟩

theorem Refines.map (f : δ → γ) {program : Program φ ε σ (δ × α)} {result : Except φ (δ × β)}
    (h : r.Refines object value program result) :
    r.Refines object value (program >>= fun answer => pure (f answer.1, answer.2))
      (result >>= fun answer => pure (f answer.1, answer.2)) :=
  h.bind fun answer _ _ => refines_pure (f answer)

/-! ### Calls one after the other -/

/-- Calls on an object, with what they answered. -/
def calls (call : α → ι → Program φ ε σ (γ × α)) (object : α) : List ι → Program φ ε σ (List γ × α)
  | [] => pure ([], object)
  | i :: rest => call object i >>= fun answer =>
      calls call answer.2 rest >>= fun answers => pure (answer.1 :: answers.1, answers.2)

/-- The same on a value. -/
def callsAlone (call : β → ι → Except φ (γ × β)) (value : β) : List ι → Except φ (List γ × β)
  | [] => .ok ([], value)
  | i :: rest => call value i >>= fun answer =>
      callsAlone call answer.2 rest >>= fun answers => pure (answer.1 :: answers.1, answers.2)

/-- **The run rule.** -/
theorem refines_calls {call : α → ι → Program φ ε σ (γ × α)} {callAlone : β → ι → Except φ (γ × β)}
    (hcall : ∀ object value i, r.Refines object value (call object i) (callAlone value i))
    (object : α) (value : β) (list : List ι) :
    r.Refines object value (calls call object list) (callsAlone callAlone value list) := by
  induction list generalizing object value with
  | nil => exact refines_pure []
  | cons i rest ih =>
      apply (hcall object value i).bind
      intro answer object' value'
      exact (ih object' value').map (answer :: ·)

end Refinement

end Generic
