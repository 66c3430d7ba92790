import PmiExitModule.Generic.BoundedWriter
import PmiExitModule.Win32.Types

/-!
# The strsafe functions

`StringCchCopyExW`, `StringCchCopyW` and `StringCchLengthW` as they are documented: on insufficient
space a copy stores what fits, terminates it and answers a failure code. The destination of a copy is
a block together with the cursor the caller keeps into it, the end pointer and the remaining count
that the calls of this program pass by reference. A copy in the block is one push of a bounded
writer whose capacity leaves room for the terminator.
-/

namespace PmiExitModule

open Generic

def STRSAFE_MAX_CCH : Nat := 2147483647

/-- A block, the position the end pointer is at, and the count of characters that remain. -/
structure Cursor where
  cells : List WCHAR
  pos : Nat
  cchMax : Nat
  deriving DecidableEq

def store (cells : List WCHAR) (pos : Nat) (units : List WCHAR) : Except Fault (List WCHAR) :=
  if pos + units.length ≤ cells.length then
    .ok (cells.take pos ++ units ++ cells.drop (pos + units.length))
  else
    .error .outOfBounds

/-- `StringCchCopyExW(p, cch, src, &p, &cch, STRSAFE_IGNORE_NULLS)`. -/
def stringCchCopyExW (dest : Cursor) (src : LPCWSTR) : Except Fault (HRESULT × Cursor) :=
  if dest.cchMax = 0 ∨ STRSAFE_MAX_CCH < dest.cchMax then
    .ok (STRSAFE_E_INVALID_PARAMETER, dest)
  else do
    let text ← src.read dest.cchMax
    let copied := text.take (dest.cchMax - 1)
    let cells ← store dest.cells dest.pos (copied ++ [NUL])
    let hr := if text.length < dest.cchMax then S_OK else STRSAFE_E_INSUFFICIENT_BUFFER
    return (hr, ⟨cells, dest.pos + copied.length, dest.cchMax - copied.length⟩)

/-- `StringCchCopyW(p, cch, src)` into a block of its own. -/
def stringCchCopyW (cells : List WCHAR) (src : LPCWSTR) : Except Fault (HRESULT × List WCHAR) := do
  let (hr, dest) ← stringCchCopyExW ⟨cells, 0, cells.length⟩ src
  return (hr, dest.cells)

/-- The scan of `StringCchLengthW` from a position of a block: `none` when no NUL comes within the
count, a fault when the block ends first. -/
def scanLength (cells : List WCHAR) (pos : Nat) : Nat → Except Fault (Option Nat)
  | 0 => .ok none
  | cchMax + 1 =>
      match cells[pos]? with
      | none => .error .outOfBounds
      | some c =>
          if c = NUL then .ok (some 0)
          else (scanLength cells (pos + 1) cchMax).map fun length => length.map (· + 1)

/-- `StringCchLengthW(p, cchMax, &cch)`; on failure the count is set to 0. -/
def stringCchLengthW (cells : List WCHAR) (pos cchMax : Nat) : Except Fault (HRESULT × Nat) :=
  if STRSAFE_MAX_CCH < cchMax then
    .ok (STRSAFE_E_INVALID_PARAMETER, 0)
  else do
    match ← scanLength cells pos cchMax with
    | none => return (STRSAFE_E_INVALID_PARAMETER, 0)
    | some cch => return (S_OK, cch)

/-! ### The length of a terminated string -/

theorem getElem?_of_drop_eq {cells : List WCHAR} {pos : Nat} {c : WCHAR} {rest : List WCHAR}
    (h : cells.drop pos = c :: rest) : cells[pos]? = some c := by
  rw [← List.head?_drop, h]
  rfl

theorem scanLength_of_drop_eq {cells segment rest : List WCHAR} {pos cchMax : Nat}
    (h : cells.drop pos = segment ++ NUL :: rest) (hnul : NUL ∉ segment)
    (hlength : segment.length < cchMax) :
    scanLength cells pos cchMax = .ok (some segment.length) := by
  obtain ⟨cchMax, rfl⟩ : ∃ n, cchMax = n + 1 := ⟨cchMax - 1, by omega⟩
  induction segment generalizing pos cchMax with
  | nil =>
      rw [scanLength, getElem?_of_drop_eq h]
      rfl
  | cons c segment ih =>
      obtain ⟨hc, hsegment⟩ := List.ne_and_not_mem_of_not_mem_cons hnul
      have hdrop : cells.drop (pos + 1) = segment ++ NUL :: rest := by
        rw [← List.tail_drop, h]
        rfl
      obtain ⟨n, rfl⟩ : ∃ n, cchMax = n + 1 := ⟨cchMax - 1, by
        rw [List.length_cons] at hlength
        omega⟩
      have hscan := ih hdrop hsegment n (by simpa using hlength)
      rw [scanLength, getElem?_of_drop_eq h]
      simp only [Ne.symm hc, if_false, hscan]
      rfl

theorem scanLength_of_long {cells segment rest : List WCHAR} {pos cchMax : Nat}
    (h : cells.drop pos = segment ++ rest) (hnul : NUL ∉ segment) (hlength : cchMax ≤ segment.length) :
    scanLength cells pos cchMax = .ok none := by
  induction cchMax generalizing segment pos with
  | zero => rfl
  | succ cchMax ih =>
      obtain ⟨c, segment, rfl⟩ := List.exists_cons_of_length_pos (Nat.zero_lt_of_lt hlength)
      obtain ⟨hc, hsegment⟩ := List.ne_and_not_mem_of_not_mem_cons hnul
      have hdrop : cells.drop (pos + 1) = segment ++ rest := by
        rw [← List.tail_drop, h]
        rfl
      have hscan := ih hdrop hsegment (Nat.le_of_succ_le_succ hlength)
      rw [scanLength, getElem?_of_drop_eq h]
      simp only [Ne.symm hc, if_false, hscan]
      rfl

theorem stringCchLengthW_of_long {cells : List WCHAR} (segment rest : List WCHAR) {pos cchMax : Nat}
    (h : cells.drop pos = segment ++ rest) (hnul : NUL ∉ segment) (hlength : cchMax ≤ segment.length)
    (hmax : cchMax ≤ STRSAFE_MAX_CCH) :
    stringCchLengthW cells pos cchMax = .ok (STRSAFE_E_INVALID_PARAMETER, 0) := by
  rw [stringCchLengthW, if_neg (Nat.not_lt.mpr hmax), scanLength_of_long h hnul hlength]
  rfl

theorem stringCchLengthW_of_drop_eq {cells : List WCHAR} (segment rest : List WCHAR) {pos cchMax : Nat}
    (h : cells.drop pos = segment ++ NUL :: rest) (hnul : NUL ∉ segment)
    (hlength : segment.length < cchMax) (hmax : cchMax ≤ STRSAFE_MAX_CCH) :
    stringCchLengthW cells pos cchMax = .ok (S_OK, segment.length) := by
  rw [stringCchLengthW, if_neg (Nat.not_lt.mpr hmax), scanLength_of_drop_eq h hnul hlength]
  rfl

/-! ### A copy is a push -/

namespace Cursor

/-- The cursor stands where the writer is: what lies before it is what was written, and the count
leaves room for the terminator. -/
structure Refines (c : Cursor) (w : BoundedWriter WCHAR) : Prop where
  length : c.cells.length = w.capacity + 1
  pos : c.pos = w.written.length
  cchMax : c.cchMax = w.room + 1
  before : c.cells.take c.pos = w.written

def Terminated (c : Cursor) : Prop := c.cells[c.pos]? = some NUL

def fresh (n : Nat) : BoundedWriter WCHAR := ⟨n - 1, [], Nat.zero_le _⟩

theorem refines_fresh {cells : List WCHAR} (hpos : cells ≠ []) :
    Refines ⟨cells, 0, cells.length⟩ (fresh cells.length) := by
  have hlength : 0 < cells.length := List.length_pos_iff.mpr hpos
  constructor
  · simp only [fresh]
    omega
  · rfl
  · simp only [fresh, BoundedWriter.room, List.length_nil]
    omega
  · rfl

/-- What was written is the string of the block, once a terminator stands behind it. -/
theorem Refines.ofCells {c : Cursor} {w : BoundedWriter WCHAR} (hrefines : c.Refines w)
    (hterm : c.Terminated) (s : WStr) (hs : s.units = w.written) :
    LPCWSTR.ofCells c.cells = .str s := by
  obtain ⟨hlt, hcell⟩ := List.getElem?_eq_some_iff.mp hterm
  have hsplit : c.cells = s.units ++ NUL :: c.cells.drop (c.pos + 1) := by
    calc c.cells = c.cells.take c.pos ++ c.cells.drop c.pos := (List.take_append_drop _ _).symm
      _ = c.cells.take c.pos ++ NUL :: c.cells.drop (c.pos + 1) := by
          rw [← hcell, List.getElem_cons_drop]
      _ = s.units ++ NUL :: c.cells.drop (c.pos + 1) := by rw [hs, hrefines.before]
  have hmem : NUL ∈ c.cells := by
    rw [hsplit]
    simp
  rw [LPCWSTR.ofCells, if_pos hmem, hsplit, untilNul_append_nul]

end Cursor

theorem store_eq {cells units : List WCHAR} {pos : Nat} (h : pos + units.length ≤ cells.length) :
    store cells pos units
      = .ok (cells.take pos ++ units ++ cells.drop (pos + units.length)) :=
  if_pos h

theorem store_string (cells : List WCHAR) (s : WStr) (h : s.length < cells.length) :
    ∃ cells', store cells 0 (s.units ++ [NUL]) = .ok cells'
      ∧ LPCWSTR.ofCells cells' = .str s := by
  have hfits : 0 + (s.units ++ [NUL]).length ≤ cells.length := by
    unfold WStr.length at h
    rw [List.length_append, List.length_singleton]
    omega
  refine ⟨_, store_eq hfits, ?_⟩
  rw [List.take_zero, List.nil_append, List.append_assoc]
  exact LPCWSTR.ofCells_append_nul s _

/-- **One copy is one push.** With a count the function accepts, a copy of a string stores what fits
behind what was written, terminates it, and succeeds exactly when the string fits. -/
theorem stringCchCopyExW_refines {c : Cursor} {w : BoundedWriter WCHAR} (hrefines : c.Refines w)
    (hmax : c.cells.length ≤ STRSAFE_MAX_CCH) (s : WStr) :
    ∃ c', stringCchCopyExW c (.str s)
        = .ok (if s.length ≤ w.room then S_OK else STRSAFE_E_INSUFFICIENT_BUFFER, c')
      ∧ c'.Refines (w.push s.units) ∧ c'.Terminated ∧ c'.cells.length = c.cells.length := by
  obtain ⟨hlength, hpos, hcch, hbefore⟩ := hrefines
  have hfits := w.fits
  have hroom : w.room + w.written.length = w.capacity := by
    unfold BoundedWriter.room
    omega
  have hvalid : ¬ (c.cchMax = 0 ∨ STRSAFE_MAX_CCH < c.cchMax) := by omega
  set copied := s.units.take w.room with hcopied
  have hcopy : (s.units.take c.cchMax).take (c.cchMax - 1) = copied := by
    rw [List.take_take, hcopied]
    congr 1
    omega
  have hcopiedLength : copied.length ≤ w.room := by simp [hcopied]
  have hstore : c.pos + (copied ++ [NUL]).length ≤ c.cells.length := by
    simp only [List.length_append, List.length_singleton]
    omega
  have hhr : (if (s.units.take c.cchMax).length < c.cchMax then S_OK
        else STRSAFE_E_INSUFFICIENT_BUFFER)
      = if s.length ≤ w.room then S_OK else STRSAFE_E_INSUFFICIENT_BUFFER := by
    refine if_congr ?_ rfl rfl
    rw [List.length_take, WStr.length]
    omega
  have hbeforeLength : (w.written ++ copied).length = c.pos + copied.length := by
    rw [List.length_append, hpos]
  set after := c.cells.drop (c.pos + (copied ++ [NUL]).length) with hafter
  have hafterLength : after.length = c.cells.length - (c.pos + copied.length + 1) := by
    rw [hafter, List.length_drop, List.length_append, List.length_singleton, ← Nat.add_assoc]
  have hcells : c.cells.take c.pos ++ (copied ++ [NUL]) ++ after
      = (w.written ++ copied) ++ NUL :: after := by
    rw [hbefore]
    simp
  have hcellsLength : ((w.written ++ copied) ++ NUL :: after).length = c.cells.length := by
    simp only [List.length_append, List.length_cons, List.length_nil, hafterLength] at hstore ⊢
    omega
  refine ⟨⟨(w.written ++ copied) ++ NUL :: after, c.pos + copied.length,
    c.cchMax - copied.length⟩, ?_, ⟨?_, ?_, ?_, ?_⟩, ?_, hcellsLength⟩
  · rw [stringCchCopyExW, if_neg hvalid]
    simp only [LPCWSTR.read, hcopy, store_eq hstore, ← hafter, hcells, hhr, bind, Except.bind, pure,
      Except.pure]
  · exact hcellsLength.trans hlength
  · exact hbeforeLength.symm
  · have hpush : (w.push s.units).room = w.capacity - (w.written ++ copied).length := rfl
    rw [hpush, hbeforeLength]
    change c.cchMax - copied.length = _
    omega
  · exact List.take_left' hbeforeLength
  · rw [Cursor.Terminated, ← hbeforeLength, List.getElem?_append_right le_rfl, Nat.sub_self]
    rfl

/-! ### Sequences of copies -/

/-- Copies made from a cursor push these pieces: they stop at the first one that is cut, answer
`S_OK` when none is, and leave the cursor where the writer is. -/
def Pushes (copies : Cursor → Except Fault (HRESULT × Cursor)) (pieces : List (List WCHAR)) : Prop :=
  ∀ (c : Cursor) (w : BoundedWriter WCHAR), c.Refines w → c.cells.length ≤ STRSAFE_MAX_CCH →
    ∃ c', copies c
        = .ok (if (w.pushAll pieces).1 then S_OK else STRSAFE_E_INSUFFICIENT_BUFFER, c')
      ∧ c'.Refines (w.pushAll pieces).2 ∧ (pieces ≠ [] ∨ c.Terminated → c'.Terminated)

theorem pushes_nothing : Pushes (fun c => .ok (S_OK, c)) [] := by
  intro c w hrefines _
  refine ⟨c, rfl, hrefines, ?_⟩
  intro h
  exact h.resolve_left (not_not.mpr rfl)

theorem pushes_copy (s : WStr) : Pushes (fun c => stringCchCopyExW c (.str s)) [s.units] := by
  intro c w hrefines hmax
  obtain ⟨c', hcopy, hrefines', hterm, -⟩ := stringCchCopyExW_refines hrefines hmax s
  have hall : (w.pushAll [s.units]).1 = true ↔ s.length ≤ w.room := by
    simpa [WStr.length] using w.pushAll_fst [s.units]
  refine ⟨c', hcopy.trans (by simp only [hall]), ?_, fun _ => hterm⟩
  rwa [BoundedWriter.pushAll_singleton_snd]

/-- The idiom of the source: copy, leave on failure, go on with the next copies. -/
theorem Pushes.andThen {first second : Cursor → Except Fault (HRESULT × Cursor)}
    {pieces pieces' : List (List WCHAR)} (hfirst : Pushes first pieces)
    (hsecond : Pushes second pieces') :
    Pushes (fun c => do
      let (hr, c) ← first c
      if FAILED hr then return (hr, c)
      second c) (pieces ++ pieces') := by
  intro c w hrefines hmax
  obtain ⟨c₁, hrun₁, hrefines₁, hterm₁⟩ := hfirst c w hrefines hmax
  have hmax₁ : c₁.cells.length ≤ STRSAFE_MAX_CCH := by
    rw [hrefines₁.length, BoundedWriter.pushAll_capacity, ← hrefines.length]
    exact hmax
  rw [BoundedWriter.pushAll_append]
  cases hall : (w.pushAll pieces).1 with
  | true =>
      obtain ⟨c₂, hrun₂, hrefines₂, hterm₂⟩ := hsecond c₁ _ hrefines₁ hmax₁
      refine ⟨c₂, ?_, by simpa using hrefines₂, ?_⟩
      · simp [hrun₁, hall, bind, Except.bind, hrun₂]
      · intro h
        by_cases hpieces' : pieces' = []
        · apply hterm₂
          apply Or.inr
          apply hterm₁
          simpa [hpieces'] using h
        · exact hterm₂ (Or.inl hpieces')
  | false =>
      have hne : pieces ≠ [] := by
        rintro rfl
        simp [BoundedWriter.pushAll] at hall
      refine ⟨c₁, ?_, by simpa [hall] using hrefines₁, fun _ => hterm₁ (Or.inl hne)⟩
      simp [hrun₁, hall, bind, Except.bind, pure, Except.pure]

end PmiExitModule
