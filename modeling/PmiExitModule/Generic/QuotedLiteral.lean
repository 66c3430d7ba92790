import Mathlib.Data.List.Basic

/-!
# Quoted literals with a doubled terminator

A literal is opened by a quote, closed by the next quote that is not doubled, and two quotes inside
it stand for one. The reader of such literals and the encoder that doubles every quote determine each
other: a text reads as a value and a rest exactly when it is the encoding of the value followed by
that rest and the rest does not go on with a quote. Wrapping a value without doubling is therefore
right for the values without a quote, and for no others.
-/

namespace Generic

variable {α : Type} [DecidableEq α] (q : α)

/-- What follows the opening quote, up to the closing one: the value and the rest behind it. -/
def readBody : List α → Option (List α × List α)
  | [] => none
  | [c] => if c = q then some ([], []) else none
  | c :: d :: rest =>
      if c = q then
        if d = q then (readBody rest).map fun r => (q :: r.1, r.2) else some ([], d :: rest)
      else (readBody (d :: rest)).map fun r => (c :: r.1, r.2)

def readLiteral : List α → Option (List α × List α)
  | [] => none
  | c :: rest => if c = q then readBody q rest else none

def doubled (value : List α) : List α := value.flatMap fun c => if c = q then [q, q] else [c]

def literal (value : List α) : List α := q :: doubled q value ++ [q]

@[simp]
theorem doubled_nil : doubled q [] = [] := rfl

theorem doubled_cons_quote (value : List α) : doubled q (q :: value) = q :: q :: doubled q value := by
  simp [doubled]

theorem doubled_cons_of_ne {c : α} (hc : c ≠ q) (value : List α) :
    doubled q (c :: value) = c :: doubled q value := by
  simp [doubled, hc]

theorem length_le_doubled (value : List α) : value.length ≤ (doubled q value).length := by
  induction value with
  | nil => exact Nat.le_refl _
  | cons c value ih =>
      by_cases hc : c = q
      · rw [hc, doubled_cons_quote]
        simp only [List.length_cons]
        omega
      · rw [doubled_cons_of_ne q hc]
        simpa using ih

theorem doubled_eq_self_iff {value : List α} : doubled q value = value ↔ q ∉ value := by
  induction value with
  | nil => simp
  | cons c value ih =>
      by_cases hc : c = q
      · refine iff_of_false ?_ (by simp [hc])
        intro heq
        have hle := length_le_doubled q value
        have heqLength := congrArg List.length heq
        rw [hc, doubled_cons_quote] at heqLength
        simp only [List.length_cons] at heqLength
        omega
      · rw [doubled_cons_of_ne q hc, List.cons_inj_right, List.mem_cons, not_or]
        exact ih.trans (and_iff_right (Ne.symm hc)).symm

theorem readBody_eq_some_iff {text value rest : List α} :
    readBody q text = some (value, rest)
      ↔ text = doubled q value ++ q :: rest ∧ rest.head? ≠ some q := by
  fun_induction readBody q text generalizing value with
  | case1 => simp
  | case2 =>
      -- a lone quote closes the literal at the end of the text
      cases value with
      | nil =>
          simp only [Option.some.injEq, Prod.mk.injEq, true_and, doubled_nil, List.nil_append,
            List.cons.injEq]
          constructor
          · rintro rfl
            exact ⟨rfl, by simp⟩
          · rintro ⟨h, -⟩
            exact h
      | cons c value =>
          by_cases hc : c = q
          · simp [hc, doubled_cons_quote]
          · simp [doubled_cons_of_ne q hc]
  | case3 c hc =>
      cases value with
      | nil => simp [hc]
      | cons d value =>
          by_cases hd : d = q
          · simp [hd, doubled_cons_quote]
          · simp [doubled_cons_of_ne q hd]
  | case4 text ih =>
      -- two quotes stand for one
      cases value with
      | nil =>
          refine iff_of_false (by simp) ?_
          rintro ⟨heq, hrest⟩
          simp only [doubled_nil, List.nil_append, List.cons.injEq, true_and] at heq
          exact hrest (by simp [← heq])
      | cons c value =>
          by_cases hc : c = q
          · simp [hc, doubled_cons_quote, ← ih]
          · simp [doubled_cons_of_ne q hc, Ne.symm hc]
  | case5 d text hd =>
      cases value with
      | nil =>
          simp only [Option.some.injEq, Prod.mk.injEq, true_and, doubled_nil, List.nil_append,
            List.cons.injEq]
          constructor
          · rintro rfl
            exact ⟨rfl, by simpa using hd⟩
          · rintro ⟨h, -⟩
            exact h
      | cons c value =>
          by_cases hc : c = q
          · simp [hc, doubled_cons_quote, hd]
          · simp [doubled_cons_of_ne q hc, Ne.symm hc]
  | case6 c d text hc ih =>
      cases value with
      | nil => simp [hc]
      | cons e value =>
          by_cases he : e = q
          · simp [he, doubled_cons_quote, hc]
          · rw [doubled_cons_of_ne q he, Option.map_eq_some_iff]
            constructor
            · rintro ⟨⟨value', rest'⟩, hread, heq⟩
              simp only [Prod.mk.injEq, List.cons.injEq] at heq
              obtain ⟨⟨rfl, rfl⟩, rfl⟩ := heq
              obtain ⟨htext, hrest⟩ := ih.mp hread
              exact ⟨by rw [htext, List.cons_append], hrest⟩
            · rintro ⟨heq, hrest⟩
              rw [List.cons_append, List.cons.injEq] at heq
              obtain ⟨rfl, htext⟩ := heq
              exact ⟨(value, rest), ih.mpr ⟨htext, hrest⟩, rfl⟩

/-- **Reading and encoding determine each other.** -/
theorem readLiteral_eq_some_iff {text value rest : List α} :
    readLiteral q text = some (value, rest)
      ↔ text = literal q value ++ rest ∧ rest.head? ≠ some q := by
  cases text with
  | nil => simp [readLiteral, literal]
  | cons c text =>
      rw [readLiteral]
      by_cases hc : c = q
      · rw [if_pos hc, readBody_eq_some_iff, hc]
        simp [literal]
      · simp [hc, literal]

/-- Wrapping without doubling reads back exactly for the values that hold no quote. -/
theorem readLiteral_wrapped_iff {value rest : List α} (hrest : rest.head? ≠ some q) :
    readLiteral q (q :: value ++ [q] ++ rest) = some (value, rest) ↔ q ∉ value := by
  rw [readLiteral_eq_some_iff, ← doubled_eq_self_iff, literal]
  simp [hrest, eq_comm]

end Generic
