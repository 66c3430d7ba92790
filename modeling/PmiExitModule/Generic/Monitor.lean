import PmiExitModule.Generic.Program

/-!
# Monitors

A monitor reads the events of a program one by one and refuses an event that its state does not allow.
That a program never causes such an event is proved along its text: the rules below say from which
state of the monitor a program is safe, and where it leaves the monitor, for each way to build a
program. An object whose every method keeps the monitor in step with the object keeps it in step over
any sequence of calls.
-/

namespace Generic

section Monitor

variable {τ ε : Type} (step : τ → ε → Option τ)

/-- The state of the monitor after these events, if it allows them all. -/
def monitor (t : τ) : List ε → Option τ
  | [] => some t
  | event :: events => (step t event).bind fun t' => monitor t' events

@[simp]
theorem monitor_nil (t : τ) : monitor step t [] = some t := rfl

@[simp]
theorem monitor_cons (t : τ) (event : ε) (events : List ε) :
    monitor step t (event :: events) = (step t event).bind fun t' => monitor step t' events := rfl

theorem monitor_append (t : τ) (first second : List ε) :
    monitor step t (first ++ second)
      = (monitor step t first).bind fun t' => monitor step t' second := by
  induction first generalizing t with
  | nil => rfl
  | cons event first ih =>
      cases hstep : step t event with
      | none => simp [hstep]
      | some t' => simp [hstep, ih]

variable {step}

theorem monitor_append_of_some {t t' : τ} {first second : List ε}
    (hfirst : monitor step t first = some t') :
    monitor step t (first ++ second) = monitor step t' second := by
  rw [monitor_append, hfirst]
  rfl

theorem monitor_of_idle {t : τ} {events : List ε} (h : ∀ event ∈ events, step t event = some t) :
    monitor step t events = some t := by
  induction events with
  | nil => rfl
  | cons event events ih =>
      rw [monitor_cons, h event List.mem_cons_self, Option.bind_some]
      exact ih fun e he => h e (List.mem_cons_of_mem _ he)

theorem monitor_map {ε' : Type} (step : τ → ε' → Option τ) (embed : ε → ε') (t : τ) (events : List ε) :
    monitor step t (events.map embed) = monitor (fun t event => step t (embed event)) t events := by
  induction events generalizing t with
  | nil => rfl
  | cons event events ih =>
      rw [List.map_cons, monitor_cons, monitor_cons]
      congr 1
      funext t'
      exact ih t'

/-- A monitor that allows a trace allows every event of it where it occurs. -/
theorem exists_step_of_monitor {t last : τ} {before after : List ε} {event : ε}
    (h : monitor step t (before ++ event :: after) = some last) :
    ∃ t' t'', monitor step t before = some t' ∧ step t' event = some t''
      ∧ monitor step t'' after = some last := by
  rw [monitor_append] at h
  obtain ⟨t', hbefore, h⟩ := Option.bind_eq_some_iff.mp h
  obtain ⟨t'', hevent, hafter⟩ := Option.bind_eq_some_iff.mp h
  exact ⟨t', t'', hbefore, hevent, hafter⟩

end Monitor

/-- A monitor, with what its state says about the state of the system: where it allows an event, that
stays so. -/
structure Monitor (ε σ τ : Type) [Replay ε σ] where
  step : τ → ε → Option τ
  Knows : σ → τ → Prop
  tracks : ∀ state t event t', Knows state t → step t event = some t' →
    Knows (Replay.apply state event) t'

namespace Monitor

variable {ε σ τ : Type} [Replay ε σ]

/-- A monitor that looks at the events only. -/
def ofStep (step : τ → ε → Option τ) : Monitor ε σ τ where
  step := step
  Knows _ _ := True
  tracks _ _ _ _ _ _ := trivial

@[simp]
theorem ofStep_step (step : τ → ε → Option τ) : (ofStep step : Monitor ε σ τ).step = step := rfl

/-- The monitor that also refuses every event that would lead it out of `ok`. -/
def within (m : Monitor ε σ τ) (ok : τ → Bool) : Monitor ε σ τ where
  step t event := (m.step t event).filter ok
  Knows := m.Knows
  tracks := by
    intro state t event t' hknows hstep
    exact m.tracks state t event t' hknows (Option.filter_eq_some_iff.mp hstep).1

theorem within_step {m : Monitor ε σ τ} {ok : τ → Bool} {event : ε} {t t' : τ}
    (h : m.step t event = some t') (hok : ok t') : (m.within ok).step t event = some t' :=
  Option.filter_eq_some_iff.mpr ⟨h, hok⟩

theorem monitor_of_within {m : Monitor ε σ τ} {ok : τ → Bool} {events : List ε} {t t' : τ} (hok : ok t)
    (h : monitor (m.within ok).step t events = some t') : monitor m.step t events = some t' ∧ ok t' := by
  induction events generalizing t with
  | nil =>
      obtain rfl := Option.some.inj h
      exact ⟨rfl, hok⟩
  | cons event events ih =>
      obtain ⟨next, hnext, hrest⟩ := Option.bind_eq_some_iff.mp h
      obtain ⟨hstep, hok'⟩ := Option.filter_eq_some_iff.mp hnext
      rw [monitor_cons, hstep, Option.bind_some]
      exact ih hok' hrest

/-- Two monitors that read the same events. -/
def both {τ' : Type} (m : Monitor ε σ τ) (m' : Monitor ε σ τ') : Monitor ε σ (τ × τ') where
  step t event := (m.step t.1 event).bind fun t₁ => (m'.step t.2 event).map fun t₂ => (t₁, t₂)
  Knows state t := m.Knows state t.1 ∧ m'.Knows state t.2
  tracks := by
    rintro state t event _ ⟨hknows, hknows'⟩ hstep
    obtain ⟨t₁, hstep₁, hstep⟩ := Option.bind_eq_some_iff.mp hstep
    obtain ⟨t₂, hstep₂, rfl⟩ := Option.map_eq_some_iff.mp hstep
    exact ⟨m.tracks state t.1 event t₁ hknows hstep₁, m'.tracks state t.2 event t₂ hknows' hstep₂⟩

theorem monitor_both_iff {τ' : Type} {m : Monitor ε σ τ} {m' : Monitor ε σ τ'} {events : List ε}
    {t u : τ × τ'} :
    monitor (m.both m').step t events = some u
      ↔ monitor m.step t.1 events = some u.1 ∧ monitor m'.step t.2 events = some u.2 := by
  induction events generalizing t with
  | nil => simp [Prod.ext_iff]
  | cons event events ih =>
      simp only [monitor_cons, both, Option.bind_eq_some_iff, Option.map_eq_some_iff]
      constructor
      · rintro ⟨_, ⟨t₁, hstep₁, t₂, hstep₂, rfl⟩, hrest⟩
        obtain ⟨hrest₁, hrest₂⟩ := ih.mp hrest
        exact ⟨⟨t₁, hstep₁, hrest₁⟩, t₂, hstep₂, hrest₂⟩
      · rintro ⟨⟨t₁, hstep₁, hrest₁⟩, t₂, hstep₂, hrest₂⟩
        exact ⟨(t₁, t₂), ⟨t₁, hstep₁, t₂, hstep₂, rfl⟩, ih.mpr ⟨hrest₁, hrest₂⟩⟩

theorem tracks_run (m : Monitor ε σ τ) {events : List ε} {state : σ} {t t' : τ}
    (hknows : m.Knows state t) (hmonitor : monitor m.step t events = some t') :
    m.Knows (replay state events) t' := by
  induction events generalizing state t with
  | nil =>
      obtain rfl := Option.some.inj hmonitor
      exact hknows
  | cons event events ih =>
      obtain ⟨next, hstep, hrest⟩ := Option.bind_eq_some_iff.mp hmonitor
      exact ih (m.tracks state t event next hknows hstep) hrest

end Monitor

/-- How a run that ended so leaves the monitor: as `post` says where it returned, and as `stop` says
where it stopped on its way. -/
def Ending.Leaves {φ α τ : Type} (ending : Ending φ α) (post : α → τ → Prop) (stop : τ → Prop)
    (t : τ) : Prop :=
  match ending with
  | .returned value => post value t
  | .faulted _ => stop t
  | .running => stop t

namespace Program

variable {φ ε σ α β ι τ : Type}

/-- The monitor allows the events of this run from its state `t` on, and is left so. -/
def Allowed (step : τ → ε → Option τ) (run : Ending φ α × List ε) (t : τ) (post : α → τ → Prop)
    (stop : τ → Prop) : Prop :=
  ∃ t', monitor step t run.2 = some t' ∧ run.1.Leaves post stop t'

variable [Replay ε σ]

/-- From every state the monitor in its state `t` may stand for, the program is allowed. -/
def Meets (m : Monitor ε σ τ) (program : Program φ ε σ α) (t : τ) (post : α → τ → Prop)
    (stop : τ → Prop) : Prop :=
  ∀ state, m.Knows state t → Allowed m.step (program state) t post stop

variable {m : Monitor ε σ τ} {t t' : τ} {post : α → τ → Prop} {post' : β → τ → Prop} {stop : τ → Prop}

theorem Meets.mono {program : Program φ ε σ α} (h : program.Meets m t post stop)
    {weaker : α → τ → Prop} (hpost : ∀ value t', post value t' → weaker value t') :
    program.Meets m t weaker stop := by
  intro state hknows
  obtain ⟨t', hmonitor, hends⟩ := h state hknows
  refine ⟨t', hmonitor, ?_⟩
  cases hending : (program state).1 with
  | returned value =>
      rw [hending] at hends
      exact hpost value t' hends
  | faulted fault =>
      rw [hending] at hends
      exact hends
  | running =>
      rw [hending] at hends
      exact hends

theorem meets_pure {value : α} (h : post value t) :
    (pure value : Program φ ε σ α).Meets m t post stop :=
  fun _ _ => ⟨t, rfl, h⟩

theorem meets_lift {result : Except φ α} (hok : ∀ value, result = .ok value → post value t)
    (hstop : stop t) : (lift result : Program φ ε σ α).Meets m t post stop := by
  intro state _
  cases result with
  | ok value => exact ⟨t, rfl, hok value rfl⟩
  | error fault => exact ⟨t, rfl, hstop⟩

theorem meets_emit {event : ε} {post : Unit → τ → Prop} (hstep : m.step t event = some t')
    (h : post () t') : (emit event : Program φ ε σ Unit).Meets m t post stop := by
  intro state _
  refine ⟨t', ?_, h⟩
  change (m.step t event).bind _ = _
  rw [hstep]
  rfl

theorem meets_read {post : σ → τ → Prop} (h : ∀ state, m.Knows state t → post state t) :
    (read : Program φ ε σ σ).Meets m t post stop :=
  fun state hknows => ⟨t, rfl, h state hknows⟩

theorem Meets.ite {c : Prop} [Decidable c] {first second : Program φ ε σ α}
    (hfirst : c → first.Meets m t post stop) (hsecond : ¬ c → second.Meets m t post stop) :
    (if c then first else second).Meets m t post stop := by
  by_cases hc : c
  · rw [if_pos hc]
    exact hfirst hc
  · rw [if_neg hc]
    exact hsecond hc

theorem Meets.bind {first : Program φ ε σ α} {next : α → Program φ ε σ β}
    (hfirst : first.Meets m t post stop)
    (hnext : ∀ value t', post value t' → (next value).Meets m t' post' stop) :
    (first >>= next).Meets m t post' stop := by
  intro state hknows
  obtain ⟨t', hmonitor, hends⟩ := hfirst state hknows
  rcases hrun : first state with ⟨ending, events⟩
  rw [hrun] at hmonitor hends
  cases ending with
  | returned value =>
      have hknows' := m.tracks_run hknows hmonitor
      obtain ⟨t'', hmonitor', hends'⟩ := hnext value t' hends (replay state events) hknows'
      rw [Allowed, bind_of_returned hrun]
      exact ⟨t'', (monitor_append_of_some hmonitor).trans hmonitor', hends'⟩
  | faulted fault =>
      rw [Allowed, bind_of_faulted hrun]
      exact ⟨t', hmonitor, hends⟩
  | running =>
      rw [Allowed, bind_of_running hrun]
      exact ⟨t', hmonitor, hends⟩

/-! ### A program inside a larger system -/

section Along

variable {ε' σ' : Type} [Replay ε' σ'] (view : σ' → σ) (embed : ε → ε')

/-- The program as a part of a larger system: it sees a part of the state, and its events are events of
the system. -/
def along (program : Program φ ε σ α) : Program φ ε' σ' α := fun state =>
  ((program (view state)).1, (program (view state)).2.map embed)

variable {view embed}

omit [Replay ε σ] in
/-- A monitor of the system that stays where it is at each of the program's events. -/
theorem meets_along {m : Monitor ε' σ' τ} {program : Program φ ε σ α}
    (hidle : ∀ state, m.Knows state t → ∀ event ∈ (program (view state)).2,
      m.step t (embed event) = some t)
    (hpost : ∀ value, post value t) (hstop : stop t) :
    (program.along view embed).Meets m t post stop := by
  intro state hknows
  refine ⟨t, ?_, ?_⟩
  · apply monitor_of_idle
    intro event hmem
    obtain ⟨inner, hinner, rfl⟩ := List.mem_map.mp hmem
    exact hidle state hknows inner hinner
  · unfold along
    cases (program (view state)).1 with
    | returned value => exact hpost value
    | faulted fault => exact hstop
    | running => exact hstop

theorem Meets.along {m : Monitor ε' σ' τ} {program : Program φ ε σ α}
    (h : program.Meets (.ofStep fun t event => m.step t (embed event)) t post stop) :
    (program.along view embed).Meets m t post stop := by
  intro state _
  obtain ⟨t', hmonitor, hends⟩ := h (view state) trivial
  refine ⟨t', ?_, hends⟩
  exact (monitor_map m.step embed t _).trans hmonitor

end Along

/-! ### Calls on an object -/

/-- The calls one after the other on an object, up to the first that does not return. -/
def each (call : α → ι → Program φ ε σ α) (object : α) : List ι → Program φ ε σ α
  | [] => pure object
  | i :: rest => call object i >>= fun object' => each call object' rest

/-- **The run rule.** -/
theorem Meets.each {call : α → ι → Program φ ε σ α}
    (hstep : ∀ object i t, post object t → (call object i).Meets m t post stop) {object : α}
    (h : post object t) (calls : List ι) : (Program.each call object calls).Meets m t post stop := by
  induction calls generalizing object t with
  | nil => exact meets_pure h
  | cons i rest ih => exact (hstep object i t h).bind fun object' t' h' => ih h'

end Program

end Generic
