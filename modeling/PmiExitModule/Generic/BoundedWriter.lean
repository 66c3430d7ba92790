import Mathlib.Data.List.Basic

/-!
# Writing pieces into bounded room

A writer holds what it has written and how much room is left. Pushing a piece writes as much of it as
the room takes and reports whether that was all of it; pushing a list of pieces stops at the first
one that was cut. Whatever the pieces, what has been written is the longest prefix of their
concatenation that the capacity takes, and the push succeeds exactly when all of it does.
-/

namespace Generic

structure BoundedWriter (α : Type) where
  capacity : Nat
  written : List α
  fits : written.length ≤ capacity

namespace BoundedWriter

variable {α : Type}

def room (w : BoundedWriter α) : Nat := w.capacity - w.written.length

def push (w : BoundedWriter α) (piece : List α) : BoundedWriter α where
  capacity := w.capacity
  written := w.written ++ piece.take w.room
  fits := by
    have hfits := w.fits
    simp only [List.length_append, List.length_take, room]
    omega

/-- Push pieces until one is cut, and report whether none was. -/
def pushAll (w : BoundedWriter α) : List (List α) → Bool × BoundedWriter α
  | [] => (true, w)
  | piece :: rest =>
      if piece.length ≤ w.room then (w.push piece).pushAll rest else (false, w.push piece)

variable {w : BoundedWriter α} {piece : List α}

@[simp]
theorem push_capacity : (w.push piece).capacity = w.capacity := rfl

theorem push_written : (w.push piece).written = w.written ++ piece.take w.room := rfl

theorem push_written_of_le (h : piece.length ≤ w.room) :
    (w.push piece).written = w.written ++ piece := by
  rw [push_written, List.take_of_length_le h]

theorem push_room_of_le (h : piece.length ≤ w.room) :
    (w.push piece).room = w.room - piece.length := by
  rw [room, push_written_of_le h, push_capacity, room, List.length_append, Nat.sub_add_eq]

theorem pushAll_fst (w : BoundedWriter α) (pieces : List (List α)) :
    (w.pushAll pieces).1 = true ↔ pieces.flatten.length ≤ w.room := by
  induction pieces generalizing w with
  | nil => simp [pushAll]
  | cons piece rest ih =>
      rw [pushAll, List.flatten_cons, List.length_append]
      by_cases hle : piece.length ≤ w.room
      · rw [if_pos hle, ih, push_room_of_le hle]
        omega
      · rw [if_neg hle]
        simp only [Bool.false_eq_true, false_iff]
        omega

/-- **Exact truncation.** Whether or not a piece was cut, what has been written is what was there
before and then as much of the concatenation as there is room for. -/
theorem pushAll_written (w : BoundedWriter α) (pieces : List (List α)) :
    (w.pushAll pieces).2.written = w.written ++ pieces.flatten.take w.room := by
  induction pieces generalizing w with
  | nil => simp [pushAll]
  | cons piece rest ih =>
      rw [pushAll, List.flatten_cons, List.take_append]
      by_cases hle : piece.length ≤ w.room
      · rw [if_pos hle]
        calc ((w.push piece).pushAll rest).2.written
            = (w.push piece).written ++ rest.flatten.take (w.push piece).room := ih _
          _ = w.written ++ piece ++ rest.flatten.take (w.room - piece.length) := by
              rw [push_written_of_le hle, push_room_of_le hle]
          _ = w.written ++ (piece.take w.room ++ rest.flatten.take (w.room - piece.length)) := by
              rw [List.take_of_length_le hle, List.append_assoc]
      · have hnone : w.room - piece.length = 0 := by omega
        rw [if_neg hle, hnone, List.take_zero, List.append_nil]
        rfl

theorem pushAll_singleton_snd (w : BoundedWriter α) (piece : List α) :
    (w.pushAll [piece]).2 = w.push piece := by
  unfold pushAll
  split <;> rfl

theorem pushAll_append (w : BoundedWriter α) (first second : List (List α)) :
    w.pushAll (first ++ second)
      = if (w.pushAll first).1 then (w.pushAll first).2.pushAll second else w.pushAll first := by
  induction first generalizing w with
  | nil => simp [pushAll]
  | cons piece rest ih =>
      rw [List.cons_append, pushAll, pushAll]
      by_cases hle : piece.length ≤ w.room
      · rw [if_pos hle, if_pos hle, ih]
      · rw [if_neg hle, if_neg hle]
        simp

@[simp]
theorem pushAll_capacity (w : BoundedWriter α) (pieces : List (List α)) :
    (w.pushAll pieces).2.capacity = w.capacity := by
  induction pieces generalizing w with
  | nil => rfl
  | cons piece rest ih =>
      unfold pushAll
      split
      · rw [ih, push_capacity]
      · rfl

end BoundedWriter

end Generic
