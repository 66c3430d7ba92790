import Mathlib.Data.List.TakeWhile

/-!
# Lists of terminated segments

A list of values is stored one after the other, each followed by a separator, and a further separator
ends the list. What a reader takes out of a block is its leading run: the segments between separators
up to the first empty one. A block that ends in a separator, and in two when it has room for two, is
walked over segment by segment without ever reaching its end, and that walk is an induction principle.
-/

namespace Generic

variable {α : Type}

/-- The segments up to the first empty one. -/
def leadingRun [DecidableEq α] (sep : α) (data : List α) : List (List α) :=
  (data.splitOn sep).takeWhile (· ≠ [])

/-- The last element is the separator, and so is the one before it when there is one. -/
structure EndsTerminated (sep : α) (data : List α) : Prop where
  last : data.getLast? = some sep
  lastTwo : 1 < data.length → data[data.length - 2]? = some sep

def encodeSegments (sep : α) (segments : List (List α)) : List α :=
  segments.flatMap (· ++ [sep]) ++ [sep]

variable {sep : α}

section LeadingRun

variable [DecidableEq α]

@[simp]
theorem leadingRun_sep_cons (rest : List α) : leadingRun sep (sep :: rest) = [] := by
  rw [leadingRun, ← List.nil_append (sep :: rest), List.splitOn_append_cons_self_of_not_mem (by simp)]
  rfl

theorem leadingRun_append {segment : List α} (hne : segment ≠ []) (hsep : sep ∉ segment)
    (rest : List α) :
    leadingRun sep (segment ++ sep :: rest) = segment :: leadingRun sep rest := by
  rw [leadingRun, List.splitOn_append_cons_self_of_not_mem hsep, List.takeWhile_cons_of_pos (by simpa)]
  rfl

theorem leadingRun_encodeSegments {segments : List (List α)}
    (h : ∀ segment ∈ segments, segment ≠ [] ∧ sep ∉ segment) :
    leadingRun sep (encodeSegments sep segments) = segments := by
  induction segments with
  | nil => exact leadingRun_sep_cons []
  | cons segment segments ih =>
      obtain ⟨hne, hsep⟩ := h segment List.mem_cons_self
      have hrest : leadingRun sep (encodeSegments sep segments) = segments := by
        apply ih
        intro s hs
        exact h s (List.mem_cons_of_mem _ hs)
      have hsplit : encodeSegments sep (segment :: segments)
          = segment ++ sep :: encodeSegments sep segments := by
        simp [encodeSegments]
      rw [hsplit, leadingRun_append hne hsep, hrest]

end LeadingRun

/-- What follows the first segment ends as the block does: the separators at its end cannot both
belong to a segment that is not empty. -/
theorem EndsTerminated.rest {segment rest : List α} (h : EndsTerminated sep (segment ++ sep :: rest))
    (hne : segment ≠ []) (hsep : sep ∉ segment) : EndsTerminated sep rest := by
  have hrest : rest ≠ [] := by
    rintro rfl
    have hpos : 0 < segment.length := List.length_pos_iff.mpr hne
    have hlast := h.lastTwo (by simp; omega)
    rw [List.length_append, List.length_singleton, List.getElem?_append_left (by omega)] at hlast
    exact hsep (List.mem_of_getElem? hlast)
  obtain ⟨last, hlast⟩ := List.getLast?_isSome.mpr hrest |> Option.isSome_iff_exists.mp
  constructor
  · have hwhole := h.last
    rw [List.getLast?_append, List.getLast?_cons, hlast] at hwhole
    simpa [hlast] using hwhole
  · intro hlong
    have hwhole := h.lastTwo (by simp; omega)
    rw [List.length_append, List.length_cons] at hwhole
    have hindex : segment.length + (rest.length + 1) - 2 = segment.length + (rest.length - 2 + 1) := by
      omega
    rw [hindex, List.getElem?_append_right (by omega), Nat.add_sub_cancel_left,
      List.getElem?_cons_succ] at hwhole
    exact hwhole

/-- **The walk.** A statement about blocks holds of every one that ends terminated if it holds where
the walk stops, and where it goes on if it holds of what is left. -/
@[elab_as_elim]
theorem EndsTerminated.walk {motive : ∀ data : List α, EndsTerminated sep data → Prop}
    (stop : ∀ rest h, motive (sep :: rest) h)
    (step : ∀ segment rest, segment ≠ [] → sep ∉ segment → ∀ h hrest, motive rest hrest →
      motive (segment ++ sep :: rest) h) {data : List α} (h : EndsTerminated sep data) :
    motive data h := by
  induction hlength : data.length using Nat.strong_induction_on generalizing data with
  | _ length ih =>
    have hmem : sep ∈ data := List.mem_of_getLast? h.last
    obtain ⟨segment, rest, rfl, hsep⟩ := List.eq_append_cons_of_mem hmem
    by_cases hne : segment = []
    · subst hne
      exact stop rest h
    · have hrest := h.rest hne hsep
      refine step segment rest hne hsep h hrest (ih rest.length ?_ hrest rfl)
      simp only [← hlength, List.length_append, List.length_cons]
      omega

theorem EndsTerminated.leadingRun_length_lt [DecidableEq α] {data : List α}
    (h : EndsTerminated sep data) : (leadingRun sep data).length < data.length := by
  induction h using EndsTerminated.walk with
  | stop rest _ =>
      rw [leadingRun_sep_cons]
      exact Nat.zero_lt_succ _
  | step segment rest hne hsep _ _ ih =>
      rw [leadingRun_append hne hsep, List.length_append, List.length_cons, List.length_cons]
      omega

end Generic
