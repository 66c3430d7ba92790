import PmiExitModule.Proof.CommandLine

/-!
# The cursor of the command-line writer

The functions that write the command line again, with every cursor they pass recorded as an event.
The end pointer and the remaining count are changed by copies only, so the cursor a function starts
from and the cursor behind each copy are the ones it has at any point.
-/

namespace PmiExitModule

open Generic

/-- The last cursor recorded. -/
instance : Replay Cursor Cursor := ⟨fun _ current => current⟩

/-- A program that records cursors. -/
abbrev CursorProg (α : Type) := Program Fault Cursor Cursor α

/-- The cursor of a block of `n` characters: the end pointer lies in the block, the count is what
remains of it, and it leaves room for a terminator. -/
structure Cursor.Inside (c : Cursor) (n : Nat) : Prop where
  length : c.cells.length = n
  inside : c.pos < n
  count : c.pos + c.cchMax = n
  room : 1 ≤ c.cchMax

theorem Cursor.Refines.inside {c : Cursor} {w : BoundedWriter WCHAR} (h : c.Refines w) :
    c.Inside (w.capacity + 1) := by
  obtain ⟨hlength, hpos, hcch, -⟩ := h
  have hfits := w.fits
  unfold BoundedWriter.room at hcch
  constructor
  · exact hlength
  · omega
  · omega
  · omega

theorem Cursor.Inside.refines {c : Cursor} {n : Nat} (h : c.Inside n) :
    ∃ w : BoundedWriter WCHAR, w.capacity + 1 = n ∧ c.Refines w := by
  obtain ⟨hlength, hinside, hcount, hroom⟩ := h
  have hbefore : (c.cells.take c.pos).length = c.pos := by
    rw [List.length_take, hlength]
    omega
  refine ⟨⟨n - 1, c.cells.take c.pos, by omega⟩, Nat.sub_add_cancel (by omega), ?_, hbefore.symm,
    ?_, rfl⟩
  · change c.cells.length = n - 1 + 1
    omega
  · change c.cchMax = n - 1 - (c.cells.take c.pos).length + 1
    omega

namespace CProcess

/-! ### The functions with their cursors recorded -/

def traceCopy (dest : Cursor) (src : LPCWSTR) : CursorProg (HRESULT × Cursor) := do
  let (hr, dest) ← Program.lift (stringCchCopyExW dest src)
  Program.emit dest
  return (hr, dest)

def traceWriteArgument (current : Cursor) (pwszArg : LPCWSTR) : CursorProg (HRESULT × Cursor) := do
  let fEscape ← Program.lift (hasWhiteSpace pwszArg)
  let (hr, current) ← if fEscape then traceCopy current (.str wszQuote) else pure (S_OK, current)
  if FAILED hr then return (hr, current)
  let (hr, current) ← traceCopy current pwszArg
  if FAILED hr then return (hr, current)
  if fEscape then traceCopy current (.str wszQuote) else return (hr, current)

def traceWriteArguments (current : Cursor) : List LPCWSTR → CursorProg (HRESULT × Cursor)
  | [] => return (S_OK, current)
  | pwszArg :: rest => do
      let (hr, current) ← traceCopy current (.str wszSpace)
      if FAILED hr then return (hr, current)
      let (hr, current) ← traceWriteArgument current pwszArg
      if FAILED hr then return (hr, current)
      traceWriteArguments current rest

def traceFormatCommandLine (pwszApplicationName : LPCWSTR) (bufArgs : List LPCWSTR)
    (bufResult : List WCHAR) : CursorProg (HRESULT × List WCHAR) := do
  let (hr, current) ← traceWriteArgument ⟨bufResult, 0, bufResult.length⟩ pwszApplicationName
  if FAILED hr then return (hr, current.cells)
  let (_, current) ← traceWriteArguments current bufArgs
  return (S_OK, current.cells)

/-! ### Recording changes nothing -/

theorem computes_traceCopy (dest : Cursor) (src : LPCWSTR) :
    (traceCopy dest src).Computes (stringCchCopyExW dest src) := by
  intro state
  cases hcopy : stringCchCopyExW dest src with
  | ok result => simp [traceCopy, hcopy, Ending.ofExcept]
  | error fault => simp [traceCopy, hcopy, Ending.ofExcept]

theorem computes_traceWriteArgument (current : Cursor) (pwszArg : LPCWSTR) :
    (traceWriteArgument current pwszArg).Computes (writeArgument current pwszArg) := by
  unfold traceWriteArgument writeArgument
  refine (Program.computes_lift _).bind ?_
  intro fEscape
  refine .ite ((computes_traceCopy _ _).bind ?_) ((Program.computes_pure _).bind ?_)
  -- with or without the opening quote, the rest is the same
  all_goals
    rintro ⟨hr, current⟩
    refine .ite (Program.computes_pure _) ((computes_traceCopy _ _).bind ?_)
    rintro ⟨hr, current⟩
    exact .ite (Program.computes_pure _) (.ite (computes_traceCopy _ _) (Program.computes_pure _))

theorem computes_traceWriteArguments (current : Cursor) (bufArgs : List LPCWSTR) :
    (traceWriteArguments current bufArgs).Computes (writeArguments current bufArgs) := by
  induction bufArgs generalizing current with
  | nil => exact Program.computes_pure _
  | cons pwszArg rest ih =>
      unfold traceWriteArguments writeArguments
      refine (computes_traceCopy _ _).bind ?_
      rintro ⟨hr, current⟩
      refine .ite (Program.computes_pure _) ((computes_traceWriteArgument _ _).bind ?_)
      rintro ⟨hr, current⟩
      exact .ite (Program.computes_pure _) (ih current)

theorem computes_traceFormatCommandLine (pwszApplicationName : LPCWSTR) (bufArgs : List LPCWSTR)
    (bufResult : List WCHAR) :
    (traceFormatCommandLine pwszApplicationName bufArgs bufResult).Computes
      (formatCommandLine pwszApplicationName bufArgs bufResult) := by
  unfold traceFormatCommandLine formatCommandLine
  refine (computes_traceWriteArgument _ _).bind ?_
  rintro ⟨hr, current⟩
  refine .ite (Program.computes_pure _) ((computes_traceWriteArguments _ _).bind ?_)
  rintro ⟨hr, current⟩
  exact Program.computes_pure _

/-! ### The invariant of the cursor -/

section Inside

variable {c : Cursor} {n : Nat}

/-- What is said of a cursor behind a copy. -/
def Sound (n : Nat) (c : Cursor) : Prop := c.Inside n ∧ c.Terminated

theorem emits_traceCopy (h : c.Inside n) (hmax : n ≤ STRSAFE_MAX_CCH) (s : WStr) :
    (traceCopy c (.str s)).Emits (Sound n) fun result => result.2.Inside n := by
  obtain ⟨w, rfl, hrefines⟩ := h.refines
  obtain ⟨c', hcopy, hrefines', hterm, -⟩ :=
    stringCchCopyExW_refines hrefines (h.length.trans_le hmax) s
  have hinside : c'.Inside (w.capacity + 1) := hrefines'.inside
  have hlift : (Program.lift (stringCchCopyExW c (.str s)) : CursorProg _).Emits
      (Sound (w.capacity + 1)) fun result => Sound (w.capacity + 1) result.2 := by
    apply Program.emits_lift
    intro result hresult
    rw [hcopy] at hresult
    obtain rfl := Except.ok.inj hresult
    exact ⟨hinside, hterm⟩
  refine hlift.bind ?_
  rintro ⟨hr, dest⟩ hsound
  refine (Program.emits_emit hsound).bind ?_
  intro _ _
  exact Program.emits_pure hsound.1

theorem emits_traceWriteArgument (h : c.Inside n) (hmax : n ≤ STRSAFE_MAX_CCH) (s : WStr) :
    (traceWriteArgument c (.str s)).Emits (Sound n) fun result => result.2.Inside n := by
  have hscan : (Program.lift (hasWhiteSpace (.str s)) : CursorProg _).Emits (Sound n) fun _ => True :=
    Program.emits_lift fun _ _ => trivial
  have hstart : (pure (S_OK, c) : CursorProg (HRESULT × Cursor)).Emits (Sound n)
      fun result => result.2.Inside n := Program.emits_pure h
  unfold traceWriteArgument
  refine hscan.bind ?_
  intro fEscape _
  refine .ite ((emits_traceCopy h hmax wszQuote).bind ?_) (hstart.bind ?_)
  all_goals
    rintro ⟨hr, current⟩ hcurrent
    refine .ite (Program.emits_pure hcurrent) ((emits_traceCopy hcurrent hmax s).bind ?_)
    rintro ⟨hr, current⟩ hcurrent
    exact .ite (Program.emits_pure hcurrent)
      (.ite (emits_traceCopy hcurrent hmax wszQuote) (Program.emits_pure hcurrent))

/-- The loop keeps the invariant, by induction over the arguments. -/
theorem emits_traceWriteArguments (h : c.Inside n) (hmax : n ≤ STRSAFE_MAX_CCH) (args : List WStr) :
    (traceWriteArguments c (args.map .str)).Emits (Sound n) fun result => result.2.Inside n := by
  induction args generalizing c with
  | nil => exact Program.emits_pure h
  | cons a args ih =>
      rw [List.map_cons, traceWriteArguments]
      refine (emits_traceCopy h hmax wszSpace).bind ?_
      rintro ⟨hr, current⟩ hcurrent
      refine .ite (Program.emits_pure hcurrent) ((emits_traceWriteArgument hcurrent hmax a).bind ?_)
      rintro ⟨hr, current⟩ hcurrent
      exact .ite (Program.emits_pure hcurrent) (ih hcurrent)

theorem inside_start {cells : List WCHAR} (hne : cells ≠ []) :
    Cursor.Inside ⟨cells, 0, cells.length⟩ cells.length := by
  have hlength : 0 < cells.length := List.length_pos_iff.mpr hne
  exact ⟨rfl, hlength, Nat.zero_add _, hlength⟩

theorem emits_traceFormatCommandLine {cells : List WCHAR} (hne : cells ≠ [])
    (hmax : cells.length ≤ STRSAFE_MAX_CCH) (exe : WStr) (args : List WStr) :
    (traceFormatCommandLine (.str exe) (args.map .str) cells).Emits (Sound cells.length)
      fun result => result.2.length = cells.length := by
  unfold traceFormatCommandLine
  refine (emits_traceWriteArgument (inside_start hne) hmax exe).bind ?_
  rintro ⟨hr, current⟩ hcurrent
  refine .ite (Program.emits_pure hcurrent.length)
    ((emits_traceWriteArguments hcurrent hmax args).bind ?_)
  rintro ⟨hr, current⟩ hcurrent
  exact Program.emits_pure hcurrent.length

end Inside

/-- **The cursor and the text.** The function starts from a cursor inside the buffer, every copy leaves
one that is inside it and stands at a terminator, and no copy writes outside. Whatever it answers, the
buffer then holds the longest prefix of the rendering that it takes. -/
theorem formatCommandLine_cursors (exe : WStr) (args : List WStr) (cells : List WCHAR)
    (hne : cells ≠ []) (hmax : cells.length ≤ STRSAFE_MAX_CCH) :
    Cursor.Inside ⟨cells, 0, cells.length⟩ cells.length ∧
      ∃ hr cells' cursors text,
        traceFormatCommandLine (.str exe) (args.map .str) cells ⟨cells, 0, cells.length⟩
            = (.returned (hr, cells'), cursors) ∧
          formatCommandLine (.str exe) (args.map .str) cells = .ok (hr, cells') ∧
          (∀ c ∈ cursors, c.Inside cells.length ∧ c.Terminated) ∧
          cells'.length = cells.length ∧ LPCWSTR.ofCells cells' = .str text ∧
          text.units
            = (rendering exe args).take (min (cells.length - 1) (rendering exe args).length) := by
  obtain ⟨cells', hformat, htext⟩ := formatCommandLine_spec exe args cells hne hmax
  have hending := computes_traceFormatCommandLine (.str exe) (args.map .str) cells
    ⟨cells, 0, cells.length⟩
  rw [hformat] at hending
  obtain ⟨hcursors, hlength⟩ :=
    emits_traceFormatCommandLine hne hmax exe args ⟨cells, 0, cells.length⟩
  refine ⟨inside_start hne, _, cells', _, _, Prod.ext hending rfl, hformat, hcursors,
    hlength _ hending, htext, ?_⟩
  rw [← List.take_eq_take_min]
  rfl

theorem formatCommandLine_cursors_example :
    Cursor.Inside ⟨[1, 2, 3], 0, 3⟩ 3 ∧
      ∃ hr cells' cursors text,
        traceFormatCommandLine (.str (.ofLiteral "a")) [.str (.ofLiteral "b")] [1, 2, 3]
            ⟨[1, 2, 3], 0, 3⟩ = (.returned (hr, cells'), cursors) ∧
          formatCommandLine (.str (.ofLiteral "a")) [.str (.ofLiteral "b")] [1, 2, 3]
            = .ok (hr, cells') ∧
          (∀ c ∈ cursors, c.Inside 3 ∧ c.Terminated) ∧
          cells'.length = 3 ∧ LPCWSTR.ofCells cells' = .str text ∧
          text.units = wide "a " :=
  formatCommandLine_cursors (.ofLiteral "a") [.ofLiteral "b"] [1, 2, 3] (by decide) (by decide)

end CProcess

end PmiExitModule
