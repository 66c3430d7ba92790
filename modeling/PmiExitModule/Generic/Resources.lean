import Mathlib.Data.Finset.Basic
import Mathlib.Data.Finset.Image
import Mathlib.Data.Finset.Lattice.Lemmas
import PmiExitModule.Generic.Monitor

/-!
# Resources

A resource is handed out, worked on and taken back. An owner holds some of the resources in use; the
others are those of the others. The monitor of an owner refuses to hand out a resource that is in use,
and to work on one or take one back that is not the owner's. In a trace it accepts every resource is
taken back as often as it was handed out, up to what the owner holds before and after, and the others
keep what they had.
-/

namespace Generic

/-- What a call does with a resource. -/
inductive Use (κ : Type) where
  | acquire (r : κ)
  | employ (r : κ)
  | release (r : κ)
  deriving DecidableEq

namespace Use

variable {κ : Type} [DecidableEq κ]

def apply (live : Finset κ) : Use κ → Finset κ
  | acquire r => insert r live
  | employ _ => live
  | release r => live.erase r

def Proper (others own : Finset κ) : Use κ → Prop
  | acquire r => r ∉ others ∧ r ∉ own
  | employ r => r ∈ own
  | release r => r ∈ own

instance (others own : Finset κ) (use : Use κ) : Decidable (use.Proper others own) := by
  cases use <;> unfold Proper <;> infer_instance

def next (others own : Finset κ) (use : Use κ) : Option (Finset κ) :=
  if use.Proper others own then some (use.apply own) else none

variable {others own own' : Finset κ} {r : κ}

theorem next_eq_some_iff {use : Use κ} :
    next others own use = some own' ↔ use.Proper others own ∧ use.apply own = own' := by
  unfold next
  by_cases hproper : use.Proper others own
  · simp [hproper]
  · simp [hproper]

theorem next_acquire (hothers : r ∉ others) (hown : r ∉ own) :
    next others own (acquire r) = some (insert r own) := if_pos ⟨hothers, hown⟩

theorem next_employ (hown : r ∈ own) : next others own (employ r) = some own := if_pos hown

theorem next_release (hown : r ∈ own) : next others own (release r) = some (own.erase r) := if_pos hown

/-- What a proper use does to the owner's resources, it does to all that are in use. -/
theorem apply_union {use : Use κ} (hdisjoint : Disjoint others own) (hproper : use.Proper others own) :
    use.apply (others ∪ own) = others ∪ use.apply own ∧ Disjoint others (use.apply own) := by
  cases use with
  | acquire r =>
      obtain ⟨hothers, -⟩ := hproper
      exact ⟨(Finset.union_insert r others own).symm,
        Finset.disjoint_insert_right.mpr ⟨hothers, hdisjoint⟩⟩
  | employ r => exact ⟨rfl, hdisjoint⟩
  | release r =>
      have hothers : r ∉ others := Finset.disjoint_right.mp hdisjoint hproper
      constructor
      · change (others ∪ own).erase r = others ∪ own.erase r
        rw [Finset.erase_union_distrib, Finset.erase_eq_of_notMem hothers]
      · exact Finset.disjoint_of_subset_right (Finset.erase_subset r own) hdisjoint

/-- What an owner may do among others, it may do as a part of a larger owner. -/
theorem next_frame {rest : Finset κ} {use : Use κ} (hrest : Disjoint rest own)
    (h : next (others ∪ rest) own use = some own') :
    next others (rest ∪ own) use = some (rest ∪ own') ∧ Disjoint rest own' := by
  obtain ⟨hproper, rfl⟩ := next_eq_some_iff.mp h
  have hproper' : use.Proper rest own ∧ use.Proper others (rest ∪ own) := by
    cases use with
    | acquire r =>
        obtain ⟨hunion, hown⟩ := hproper
        rw [Finset.mem_union, not_or] at hunion
        obtain ⟨hothers, hr⟩ := hunion
        exact ⟨⟨hr, hown⟩, hothers, Finset.notMem_union.mpr ⟨hr, hown⟩⟩
    | employ r => exact ⟨hproper, Finset.mem_union_right _ hproper⟩
    | release r => exact ⟨hproper, Finset.mem_union_right _ hproper⟩
  obtain ⟨hunion, hdisjoint⟩ := apply_union hrest hproper'.1
  exact ⟨next_eq_some_iff.mpr ⟨hproper'.2, hunion⟩, hdisjoint⟩

variable {uses : List (Use κ)}

theorem monitor_frame {rest : Finset κ} (hrest : Disjoint rest own)
    (h : monitor (next (others ∪ rest)) own uses = some own') :
    monitor (next others) (rest ∪ own) uses = some (rest ∪ own') ∧ Disjoint rest own' := by
  induction uses generalizing own with
  | nil =>
      obtain rfl := Option.some.inj h
      exact ⟨rfl, hrest⟩
  | cons use uses ih =>
      obtain ⟨mid, hnext, hlast⟩ := Option.bind_eq_some_iff.mp h
      obtain ⟨hnext', hmid⟩ := next_frame hrest hnext
      rw [monitor_cons, hnext', Option.bind_some]
      exact ih hmid hlast

theorem foldl_apply_of_monitor (hdisjoint : Disjoint others own)
    (h : monitor (next others) own uses = some own') :
    uses.foldl apply (others ∪ own) = others ∪ own' ∧ Disjoint others own' := by
  induction uses generalizing own with
  | nil =>
      obtain rfl := Option.some.inj h
      exact ⟨rfl, hdisjoint⟩
  | cons use uses ih =>
      obtain ⟨mid, hnext, hrest⟩ := Option.bind_eq_some_iff.mp h
      obtain ⟨hproper, rfl⟩ := next_eq_some_iff.mp hnext
      obtain ⟨hunion, hdisjoint'⟩ := apply_union hdisjoint hproper
      rw [List.foldl_cons, hunion]
      exact ih hdisjoint' hrest

/-! ### Resources under other names -/

section Rename

variable {κ' : Type} [DecidableEq κ']

def map (f : κ → κ') : Use κ → Use κ'
  | acquire r => acquire (f r)
  | employ r => employ (f r)
  | release r => release (f r)

variable {f : κ → κ'} (hf : Function.Injective f) {others' : Finset κ'}
  (hothers : ∀ r, f r ∈ others' → r ∈ others)

include hf hothers

theorem next_map {use : Use κ} (h : next others own use = some own') :
    next others' (own.image f) (use.map f) = some (own'.image f) := by
  have hmem : ∀ r, f r ∈ own.image f ↔ r ∈ own := fun r => hf.mem_finset_image
  obtain ⟨hproper, rfl⟩ := next_eq_some_iff.mp h
  cases use with
  | acquire r =>
      obtain ⟨hr, hown⟩ := hproper
      have happly : (acquire r).apply own = insert r own := rfl
      rw [happly, Finset.image_insert]
      exact next_acquire (fun h => hr (hothers r h)) fun h => hown ((hmem r).mp h)
  | employ r => exact next_employ ((hmem r).mpr hproper)
  | release r =>
      have happly : (release r).apply own = own.erase r := rfl
      rw [happly, Finset.image_erase hf]
      exact next_release ((hmem r).mpr hproper)

theorem monitor_map (h : monitor (next others) own uses = some own') :
    monitor (next others') (own.image f) (uses.map (map f)) = some (own'.image f) := by
  induction uses generalizing own with
  | nil =>
      obtain rfl := Option.some.inj h
      rfl
  | cons use uses ih =>
      obtain ⟨mid, hnext, hlast⟩ := Option.bind_eq_some_iff.mp h
      rw [List.map_cons, monitor_cons, next_map hf hothers hnext, Option.bind_some]
      exact ih hlast

end Rename

/-- Whether the owner holds the resource, as a number. -/
def held (own : Finset κ) (r : κ) : Nat := if r ∈ own then 1 else 0

theorem held_next {use : Use κ} (h : next others own use = some own') (r : κ) :
    held own r + [use].count (acquire r) = held own' r + [use].count (release r) := by
  obtain ⟨hproper, rfl⟩ := next_eq_some_iff.mp h
  cases use with
  | acquire r' =>
      obtain ⟨-, hown⟩ := hproper
      by_cases hr : r = r'
      · subst hr
        simp [held, apply, hown]
      · have hr' : r' ≠ r := fun h => hr h.symm
        simp [held, apply, hr, hr']
  | employ r' =>
      have hsame : (employ r').apply own = own := rfl
      rw [hsame]
      simp
  | release r' =>
      have hown : r' ∈ own := hproper
      by_cases hr : r = r'
      · subst hr
        simp [held, apply, hown]
      · have hr' : r' ≠ r := fun h => hr h.symm
        simp [held, apply, hr, hr']

/-- **The balance of a trace.** -/
theorem held_monitor (h : monitor (next others) own uses = some own') (r : κ) :
    held own r + uses.count (acquire r) = held own' r + uses.count (release r) := by
  induction uses generalizing own with
  | nil =>
      obtain rfl := Option.some.inj h
      rfl
  | cons use uses ih =>
      obtain ⟨mid, hnext, hrest⟩ := Option.bind_eq_some_iff.mp h
      have hfirst := held_next hnext r
      have hlast := ih hrest
      rw [← List.singleton_append, List.count_append, List.count_append]
      omega

end Use

/-! ### Events that use resources -/

section Uses

variable {κ ε σ : Type} [DecidableEq κ] (uses : ε → List (Use κ)) (others : Finset κ)

def usesStep (own : Finset κ) (event : ε) : Option (Finset κ) :=
  monitor (Use.next others) own (uses event)

theorem monitor_usesStep (own : Finset κ) (events : List ε) :
    monitor (usesStep uses others) own events = monitor (Use.next others) own (events.flatMap uses) := by
  induction events generalizing own with
  | nil => rfl
  | cons event events ih =>
      rw [List.flatMap_cons, monitor_append, monitor_cons]
      congr 1
      funext own'
      exact ih own'

variable [Replay ε σ]

/-- The monitor of an owner in a system that has these resources in use. -/
def Monitor.ofUses (inUse : σ → Finset κ)
    (happly : ∀ state event,
      inUse (Replay.apply state event) = (uses event).foldl Use.apply (inUse state)) :
    Monitor ε σ (Finset κ) where
  step := usesStep uses others
  Knows state own := inUse state = others ∪ own ∧ Disjoint others own
  tracks := by
    rintro state own event own' ⟨hinUse, hdisjoint⟩ hstep
    rw [happly, hinUse]
    exact Use.foldl_apply_of_monitor hdisjoint hstep

variable {uses others} {inUse : σ → Finset κ} {happly : ∀ state event,
    inUse (Replay.apply state event) = (uses event).foldl Use.apply (inUse state)}

/-- What an owner that starts with nothing holds at every point of a trace that its monitor accepts. -/
theorem Monitor.holds_of_within {ok : Finset κ → Bool} (hok : ok ∅) {state : σ} {events before : List ε}
    {last : Finset κ} (hothers : inUse state = others)
    (h : monitor ((ofUses uses others inUse happly).within ok).step ∅ events = some last)
    (hbefore : before <+: events) :
    ∃ own, monitor (usesStep uses others) ∅ before = some own ∧ ok own
      ∧ inUse (replay state before) = others ∪ own ∧ Disjoint others own := by
  obtain ⟨after, rfl⟩ := hbefore
  rw [monitor_append] at h
  obtain ⟨own, hown, -⟩ := Option.bind_eq_some_iff.mp h
  obtain ⟨hmonitor, hok'⟩ := monitor_of_within hok hown
  have hstart : (ofUses uses others inUse happly).Knows state ∅ :=
    ⟨hothers.trans (Finset.union_empty others).symm, Finset.disjoint_empty_right others⟩
  exact ⟨own, hmonitor, hok', (ofUses uses others inUse happly).tracks_run hstart hmonitor⟩

omit [Replay ε σ] in
/-- An owner that ends with nothing has given back everything. -/
theorem count_acquire_eq_count_release {events : List ε}
    (h : monitor (usesStep uses others) ∅ events = some ∅) (r : κ) :
    (events.flatMap uses).count (.acquire r) = (events.flatMap uses).count (.release r) :=
  Nat.add_left_cancel (Use.held_monitor ((monitor_usesStep _ _ _ _).symm.trans h) r)

end Uses

end Generic
