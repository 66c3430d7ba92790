import Mathlib.Data.Nat.Digits.Lemmas

/-!
# Reading back what was written

A list that was written piece by piece is read piece by piece, if each piece says itself where it ends. A
number that was written in digits is read digit by digit.
-/

namespace Generic

section Pieces

variable {α β : Type} (next : List β → Option (α × List β))

variable {next}

end Pieces

section Numerals

variable {α : Type}

def readNumeral (digit : α → Option Nat) (base : Nat) (text : List α) : Option Nat :=
  (text.mapM digit).map fun digits => Nat.ofDigits base digits.reverse

variable {digit : α → Option Nat} {char : Nat → α} {base : Nat}

theorem mapM_eq_some {β γ : Type} {f : β → Option γ} {l : List β} {l' : List γ}
    (h : List.Forall₂ (fun b c => f b = some c) l l') : l.mapM f = some l' := by
  induction h with
  | nil => rfl
  | cons hfirst _ ih =>
      rw [List.mapM_cons, hfirst, ih]
      rfl

theorem readNumeral_map (hdigit : ∀ d < base, digit (char d) = some d) {digits : List Nat}
    (hdigits : ∀ d ∈ digits, d < base) :
    readNumeral digit base (digits.reverse.map char) = some (Nat.ofDigits base digits) := by
  have hread : (digits.reverse.map char).mapM digit = some digits.reverse := by
    apply mapM_eq_some
    rw [List.forall₂_map_left_iff, List.forall₂_same]
    intro d hmem
    exact hdigit d (hdigits d (List.mem_reverse.mp hmem))
  rw [readNumeral, hread, Option.map_some, List.reverse_reverse]

end Numerals

end Generic
