import PmiExitModule.Generic.Relational
import PmiExitModule.PMICertExit
import PmiExitModule.Proof.MultiString

/-!
# Copies into fresh blocks

Every buffer of the module starts out uninitialised, and the strings in it are read up to their
terminators. Two runs on blocks that hold different garbage are followed side by side: a copy leaves
the same text in both and a terminator behind it, whether or not it was cut, so temp files and
processes made from them behave alike.
-/

namespace PmiExitModule

open Generic

/-- The same answer of the heap, with other garbage in the fresh block. -/
def refill {T : Type} (heap : HeapOutcome T) (garbage : Nat → T) : HeapOutcome T :=
  heap.map fun _ => garbage

@[simp]
theorem refill_none {T : Type} (garbage : Nat → T) : refill none garbage = none := rfl

@[simp]
theorem refill_some {T : Type} (old garbage : Nat → T) :
    refill (some old) garbage = some garbage := rfl

namespace MultiString

variable (value : MultiString)

theorem getElem?_data_append (rest : List WCHAR) {i : Nat} (hi : i < value.cch) :
    (value.data ++ rest)[i]? = value.buf[i]? := by
  rw [List.getElem?_append_left (value.data_length.symm ▸ hi)]
  exact List.getElem?_take_of_lt hi

theorem length_data_append (rest : List WCHAR) :
    (value.data ++ rest).length = value.cch + rest.length := by
  rw [List.length_append, value.data_length]

theorem length_refilled (garbage : Nat → WCHAR) :
    (value.data ++ ((List.range g_cbRegValueBuffer).map garbage).drop value.cch).length
      = g_cbRegValueBuffer := by
  rw [value.length_data_append]
  simp [value.cch_le]

/-- The same data in a block that held other garbage before. -/
def refill (garbage : Nat → WCHAR) : MultiString where
  buf := value.data ++ ((List.range g_cbRegValueBuffer).map garbage).drop value.cch
  cch := value.cch
  length := value.length_refilled garbage
  pos := value.pos
  le := (value.length_data_append _).ge.trans' (Nat.le_add_right _ _)
  last := (value.getElem?_data_append _ (Nat.sub_lt value.pos Nat.one_pos)).trans value.last
  lastTwo hlong := (value.getElem?_data_append _ (Nat.sub_lt value.pos Nat.two_pos)).trans
    (value.lastTwo hlong)

end MultiString

/-- What the fresh blocks of one notification hold. -/
structure Garbage where
  string : PropertyName → Nat → WCHAR
  exePath : Nat → BYTE
  argData : Nat → WCHAR
  tempFile : Nat → WCHAR
  path : Nat → WCHAR
  escSubjectKeyIdentifier : Nat → WCHAR
  escTempFile : Nat → WCHAR
  cmdLine : Nat → WCHAR

section Refill

variable (garbage : Garbage)

def ServerOutcomes.refill (o : ServerOutcomes) : ServerOutcomes :=
  { o with allocString := fun name => PmiExitModule.refill (o.allocString name) (garbage.string name) }

def RegistryOutcomes.refill (o : RegistryOutcomes) : RegistryOutcomes :=
  { o with
    allocExePath := PmiExitModule.refill o.allocExePath garbage.exePath
    queryArguments := o.queryArguments.map fun value => value.refill garbage.argData }

def CreateFileOutcomes.refill (o : CreateFileOutcomes) : CreateFileOutcomes :=
  { o with allocPath := PmiExitModule.refill o.allocPath garbage.path }

def ProcessOutcomes.refill (o : ProcessOutcomes) : ProcessOutcomes :=
  { o with allocCmdLine := PmiExitModule.refill o.allocCmdLine garbage.cmdLine }

def ProcessorOutcomes.refill (o : ProcessorOutcomes) : ProcessorOutcomes :=
  { o with
    allocTempFile := PmiExitModule.refill o.allocTempFile garbage.tempFile
    tempFile := o.tempFile.refill garbage
    allocEscSubjectKeyIdentifier :=
      PmiExitModule.refill o.allocEscSubjectKeyIdentifier garbage.escSubjectKeyIdentifier
    allocEscTempFile := PmiExitModule.refill o.allocEscTempFile garbage.escTempFile
    process := o.process.refill garbage }

def NotifyOutcomes.refill (o : NotifyOutcomes) : NotifyOutcomes where
  server := o.server.refill garbage
  registry := o.registry.refill garbage
  processor := o.processor.refill garbage

end Refill

/-- Two calls that answer the same code, and on success values that look the same. -/
def Agree {α β : Type} (view : α → β) (result result' : HRESULT × α) : Prop :=
  result.1 = result'.1 ∧ (¬ FAILED result.1 → view result.2 = view result'.2)

theorem agree_of_failed {α β : Type} {view : α → β} {hr : HRESULT} (hfailed : FAILED hr)
    (value value' : α) : Agree view (hr, value) (hr, value') := by
  constructor
  · rfl
  · intro hok
    exact absurd hfailed hok

/-! ### Blocks -/

/-- The string of a block is decided by the cells up to its terminator. -/
theorem ofCells_eq_of_take {cells cells' : List WCHAR} {n : Nat} (htake : cells.take n = cells'.take n)
    (hnul : NUL ∈ cells.take n) : LPCWSTR.ofCells cells = LPCWSTR.ofCells cells' := by
  obtain ⟨before, after, hsplit⟩ := List.append_of_mem hnul
  have huntil : ∀ rest,
      untilNul (before ++ NUL :: after ++ rest) = untilNul (before ++ NUL :: after) := by
    intro rest
    ext1
    simp [untilNul, List.takeWhile_append]
  have hcells : cells = before ++ NUL :: after ++ cells.drop n := by
    rw [← hsplit, List.take_append_drop]
  have hcells' : cells' = before ++ NUL :: after ++ cells'.drop n := by
    rw [← hsplit, htake, List.take_append_drop]
  have hmem : NUL ∈ cells := List.mem_of_mem_take hnul
  have hmem' : NUL ∈ cells' := by
    rw [htake] at hnul
    exact List.mem_of_mem_take hnul
  rw [LPCWSTR.ofCells, LPCWSTR.ofCells, if_pos hmem, if_pos hmem', hcells, hcells', huntil, huntil]

theorem store_cases {cells : List WCHAR} {pos : Nat} (units : List WCHAR)
    (hpos : pos ≤ cells.length) :
    (cells.length < pos + units.length ∧ store cells pos units = .error .outOfBounds) ∨
    ∃ cells', store cells pos units = .ok cells' ∧ cells'.length = cells.length
      ∧ cells'.take (pos + units.length) = cells.take pos ++ units := by
  by_cases hfits : pos + units.length ≤ cells.length
  · right
    refine ⟨_, store_eq hfits, ?_, ?_⟩
    · simp only [List.length_append, List.length_take, List.length_drop]
      omega
    · apply List.take_left'
      rw [List.length_append, List.length_take_of_le hpos]
  · exact Or.inl ⟨Nat.lt_of_not_le hfits, if_neg hfits⟩

namespace Cursor

/-- Two cursors at the same place of two blocks of the same size, behind the same text. -/
structure Alike (c c' : Cursor) : Prop where
  pos : c.pos = c'.pos
  cchMax : c.cchMax = c'.cchMax
  length : c.cells.length = c'.cells.length
  before : c.cells.take c.pos = c'.cells.take c'.pos
  within : c.pos ≤ c.cells.length
  accepted : 0 < c.cchMax ∧ c.cchMax ≤ STRSAFE_MAX_CCH

/-- The text before the place is terminated in both. -/
structure Written (c c' : Cursor) : Prop extends Alike c c' where
  text : c.cells.take (c.pos + 1) = c'.cells.take (c.pos + 1)
  terminated : NUL ∈ c.cells.take (c.pos + 1)

theorem Written.ofCells {c c' : Cursor} (h : Written c c') :
    LPCWSTR.ofCells c.cells = LPCWSTR.ofCells c'.cells :=
  ofCells_eq_of_take h.text h.terminated

theorem alike_start {cells cells' : List WCHAR} (hlength : cells.length = cells'.length)
    (hpos : 0 < cells.length) (hmax : cells.length ≤ STRSAFE_MAX_CCH) :
    Alike ⟨cells, 0, cells.length⟩ ⟨cells', 0, cells'.length⟩ :=
  ⟨rfl, hlength, hlength, rfl, Nat.zero_le _, hpos, hmax⟩

end Cursor

/-! ### Copies -/

/-- The calls answer the same and leave the same text. -/
def SameText (result result' : HRESULT × Cursor) : Prop :=
  result.1 = result'.1 ∧ Cursor.Written result.2 result'.2

def Copies (copies : Cursor → Except Fault (HRESULT × Cursor)) : Prop :=
  ∀ c c', Cursor.Alike c c' → ExceptAlike SameText (copies c) (copies c')

theorem copies_stringCchCopyExW (src : LPCWSTR) : Copies fun c => stringCchCopyExW c src := by
  rintro ⟨cells, pos, cchMax⟩ ⟨cells', pos', cchMax'⟩
    ⟨hpos, hcch, hlength, hbefore, hwithin, haccepted⟩
  obtain rfl : pos = pos' := hpos
  obtain rfl : cchMax = cchMax' := hcch
  dsimp only at hlength hbefore hwithin haccepted
  have hvalid : ¬ (cchMax = 0 ∨ STRSAFE_MAX_CCH < cchMax) := by omega
  simp only [stringCchCopyExW, if_neg hvalid]
  refine (exceptAlike_eq _).bind ?_
  rintro text _ rfl
  set copied := text.take (cchMax - 1) with hcopied
  have hcopiedLength : copied.length ≤ cchMax - 1 := by
    rw [hcopied]
    exact List.length_take_le _ _
  have hunits : (copied ++ [NUL]).length = copied.length + 1 := by simp
  rcases store_cases (copied ++ [NUL]) hwithin with
    ⟨hlong, hstore⟩ | ⟨block, hstore, hblock, htake⟩
  · have hlong' : ¬ pos + (copied ++ [NUL]).length ≤ cells'.length := by omega
    rw [hstore, show store cells' pos (copied ++ [NUL]) = .error .outOfBounds from if_neg hlong']
    exact rfl
  rcases store_cases (copied ++ [NUL]) (hlength ▸ hwithin) with
    ⟨hlong', hstore'⟩ | ⟨block', hstore', hblock', htake'⟩
  · have hfits : ¬ pos + (copied ++ [NUL]).length ≤ cells.length := by omega
    rw [store, if_neg hfits] at hstore
    cases hstore
  rw [hstore, hstore']
  rw [hunits] at htake htake'
  have htext : block.take (pos + copied.length + 1) = block'.take (pos + copied.length + 1) := by
    rw [Nat.add_assoc, htake, htake', hbefore]
  refine ⟨rfl, ⟨rfl, rfl, ?_, ?_, ?_, ?_⟩, htext, ?_⟩
  · exact hblock.trans (hlength.trans hblock'.symm)
  · calc block.take (pos + copied.length)
        = (block.take (pos + copied.length + 1)).take (pos + copied.length) := by
            rw [List.take_take, Nat.min_eq_left (Nat.le_succ _)]
      _ = (block'.take (pos + copied.length + 1)).take (pos + copied.length) := by rw [htext]
      _ = block'.take (pos + copied.length) := by
            rw [List.take_take, Nat.min_eq_left (Nat.le_succ _)]
  · have := congrArg List.length htake
    simp only [List.length_take, List.length_append, List.length_singleton] at this
    change pos + copied.length ≤ block.length
    omega
  · dsimp only
    omega
  · change NUL ∈ block.take (pos + copied.length + 1)
    rw [Nat.add_assoc, htake]
    simp

/-- The idiom of the source: copy, leave on failure, go on with the next copies. -/
theorem Copies.andThen {first second : Cursor → Except Fault (HRESULT × Cursor)}
    (hfirst : Copies first) (hsecond : Copies second) :
    Copies (fun c => do
      let (hr, c) ← first c
      if FAILED hr then return (hr, c)
      second c) := by
  intro c c' halike
  apply (hfirst c c' halike).bind
  rintro ⟨hr, c₁⟩ ⟨hr', c₁'⟩ ⟨hhr, hwritten⟩
  obtain rfl : hr = hr' := hhr
  apply ExceptAlike.ite
  · intro _
    exact ⟨rfl, hwritten⟩
  · intro _
    exact hsecond _ _ hwritten.toAlike

namespace CProcess

theorem copies_writeArgument (pwszArg : LPCWSTR) : Copies fun c => writeArgument c pwszArg := by
  have hquote := copies_stringCchCopyExW (.str wszQuote)
  have harg := copies_stringCchCopyExW pwszArg
  intro c c' halike
  simp only [writeArgument]
  apply (exceptAlike_eq _).bind
  rintro fEscape _ rfl
  cases fEscape with
  | true => exact (hquote.andThen (harg.andThen hquote)) c c' halike
  | false =>
      apply (harg c c' halike).bind
      rintro ⟨hr, c₁⟩ ⟨hr', c₁'⟩ ⟨hhr, hwritten⟩
      obtain rfl : hr = hr' := hhr
      apply ExceptAlike.ite
      · intro _
        exact ⟨rfl, hwritten⟩
      · intro _
        exact ⟨rfl, hwritten⟩

theorem writeArguments_sameText (args : List LPCWSTR) {c c' : Cursor} (hwritten : c.Written c') :
    ExceptAlike SameText (writeArguments c args) (writeArguments c' args) := by
  induction args generalizing c c' with
  | nil => exact ⟨rfl, hwritten⟩
  | cons pwszArg rest ih =>
      simp only [writeArguments]
      apply (copies_stringCchCopyExW (.str wszSpace) c c' hwritten.toAlike).bind
      rintro ⟨hr, c₁⟩ ⟨hr', c₁'⟩ ⟨hhr, hwritten₁⟩
      obtain rfl : hr = hr' := hhr
      apply ExceptAlike.ite
      · intro _
        exact ⟨rfl, hwritten₁⟩
      intro _
      apply (copies_writeArgument pwszArg c₁ c₁' hwritten₁.toAlike).bind
      rintro ⟨hr, c₂⟩ ⟨hr', c₂'⟩ ⟨hhr, hwritten₂⟩
      obtain rfl : hr = hr' := hhr
      apply ExceptAlike.ite
      · intro _
        exact ⟨rfl, hwritten₂⟩
      · intro _
        exact ih hwritten₂

/-- The command line is the same whatever its buffer held, whether or not it was cut. -/
theorem formatCommandLine_alike (app : LPCWSTR) (args : List LPCWSTR) {cells cells' : List WCHAR}
    (hlength : cells.length = cells'.length) (hpos : 0 < cells.length)
    (hmax : cells.length ≤ STRSAFE_MAX_CCH) :
    ExceptAlike
      (fun result result' => result.1 = result'.1
        ∧ LPCWSTR.ofCells result.2 = LPCWSTR.ofCells result'.2)
      (formatCommandLine app args cells) (formatCommandLine app args cells') := by
  apply (copies_writeArgument app _ _ (Cursor.alike_start hlength hpos hmax)).bind
  rintro ⟨hr, c⟩ ⟨hr', c'⟩ ⟨hhr, hwritten⟩
  obtain rfl : hr = hr' := hhr
  apply ExceptAlike.ite
  · intro _
    exact ⟨rfl, hwritten.ofCells⟩
  · intro _
    apply (writeArguments_sameText args hwritten).bind
    rintro ⟨_, c₁⟩ ⟨_, c₁'⟩ ⟨-, hwritten₁⟩
    exact ⟨rfl, hwritten₁.ofCells⟩

end CProcess

/-- A copy into a block of its own leaves the same string, unless the function refuses the block. -/
theorem stringCchCopyW_alike (src : LPCWSTR) {cells cells' : List WCHAR}
    (hlength : cells.length = cells'.length) :
    ExceptAlike
      (fun result result' => result.1 = result'.1 ∧ result.2.length = result'.2.length
        ∧ (¬ FAILED result.1 ∨ 0 < cells.length ∧ cells.length ≤ STRSAFE_MAX_CCH →
          LPCWSTR.ofCells result.2 = LPCWSTR.ofCells result'.2))
      (stringCchCopyW cells src) (stringCchCopyW cells' src) := by
  by_cases hvalid : 0 < cells.length ∧ cells.length ≤ STRSAFE_MAX_CCH
  · apply (copies_stringCchCopyExW src _ _ (Cursor.alike_start hlength hvalid.1 hvalid.2)).bind
    rintro ⟨hr, c⟩ ⟨hr', c'⟩ ⟨hhr, hwritten⟩
    exact ⟨hhr, hwritten.length, fun _ => hwritten.ofCells⟩
  · have hrefused : cells.length = 0 ∨ STRSAFE_MAX_CCH < cells.length := by omega
    have hrefused' : cells'.length = 0 ∨ STRSAFE_MAX_CCH < cells'.length := by omega
    simp only [stringCchCopyW, stringCchCopyExW, if_pos hrefused, if_pos hrefused']
    refine ⟨rfl, hlength, ?_⟩
    rintro (hok | hvalid')
    · exact absurd failed_STRSAFE_E_INVALID_PARAMETER hok
    · exact absurd hvalid' hvalid

/-! ### The strings of a certificate -/

theorem CHeapBuffer.copy_agree (bstr : BSTR) (heap : HeapOutcome WCHAR) (garbage : Nat → WCHAR) :
    ExceptAlike (Agree CHeapBuffer.get) (CHeapBuffer.copy none bstr heap)
      (CHeapBuffer.copy none bstr (refill heap garbage)) := by
  unfold CHeapBuffer.copy
  apply ExceptAlike.ite
  · intro _
    exact ⟨rfl, fun _ => rfl⟩
  intro _
  apply (exceptAlike_eq _).bind
  rintro cch _ rfl
  cases heap with
  | none => exact agree_of_failed failed_E_OUTOFMEMORY _ _
  | some old =>
      simp only [refill_some, heapAlloc_some]
      apply (exceptAlike_eq _).bind
      rintro pointer _ rfl
      apply (stringCchCopyW_alike pointer _).bind
      · rintro ⟨hr, cells⟩ ⟨hr', cells'⟩ ⟨hhr, -, htext⟩
        exact ⟨hhr, fun hok => htext (Or.inl hok)⟩
      · simp only [List.length_map]

/-! ### The temp file -/

namespace CTempFile

/-- Two temp files that own the same path, have the same file open and are preserved alike. -/
structure Alike (file file' : CTempFile) : Prop where
  length : file.strPath.getLength = file'.strPath.getLength
  path : file.strPath.get = file'.strPath.get
  hFile : file.hFile = file'.hFile
  fPreserve : file.fPreserve = file'.fPreserve

theorem alike_refl (file : CTempFile) : file.Alike file := ⟨rfl, rfl, rfl, rfl⟩

theorem scanLength_lt {cells : List WCHAR} {pos cchMax cch : Nat}
    (h : scanLength cells pos cchMax = .ok (some cch)) : cch < cchMax := by
  induction cchMax generalizing pos cch with
  | zero => cases h
  | succ cchMax ih =>
      rw [scanLength] at h
      split at h
      · cases h
      next c _ =>
        by_cases hnul : c = NUL
        · rw [if_pos hnul] at h
          obtain rfl : 0 = cch := by simpa using h
          exact Nat.succ_pos _
        · rw [if_neg hnul] at h
          cases hrest : scanLength cells (pos + 1) cchMax with
          | error fault => simp [hrest, Except.map] at h
          | ok length =>
              cases length with
              | none => simp [hrest, Except.map] at h
              | some length =>
                  have hlt := ih hrest
                  obtain rfl : length + 1 = cch := by simpa [hrest, Except.map] using h
                  exact Nat.succ_lt_succ hlt

theorem stringCchLengthW_le {cells : List WCHAR} {pos cchMax cch : Nat} {hr : HRESULT}
    (h : stringCchLengthW cells pos cchMax = .ok (hr, cch)) : cch ≤ cchMax := by
  unfold stringCchLengthW at h
  split at h
  · obtain ⟨-, rfl⟩ := Prod.mk.inj (Except.ok.inj h)
    exact Nat.zero_le _
  · obtain ⟨length, hscan, h⟩ := exists_of_bind_eq_ok h
    cases length with
    | none =>
        obtain ⟨-, rfl⟩ := Prod.mk.inj (Except.ok.inj h)
        exact Nat.zero_le _
    | some length =>
        obtain ⟨-, rfl⟩ := Prod.mk.inj (Except.ok.inj h)
        exact (scanLength_lt hscan).le

theorem pathLength_le {pwszPath : LPCWSTR} {hr : HRESULT} {cch : Nat}
    (h : pathLength pwszPath = .ok (hr, cch)) : cch ≤ MAX_PATH + 1 := by
  cases pwszPath with
  | null =>
      obtain ⟨-, rfl⟩ := Prod.mk.inj (Except.ok.inj h)
      exact Nat.zero_le _
  | str s => exact stringCchLengthW_le h
  | unterminated cells => exact stringCchLengthW_le h

theorem close_alike {file file' : CTempFile} (h : file.Alike file') :
    Program.Alike Alike file.close file'.close := by
  obtain ⟨hlength, hpath, hhFile, hpreserve⟩ := h
  unfold close
  rw [← hhFile]
  cases file.hFile with
  | none => exact Program.alike_pure ⟨hlength, hpath, hhFile, hpreserve⟩
  | some openFile =>
      apply (Program.alike_refl _).bind
      rintro _ _ rfl
      exact Program.alike_pure ⟨hlength, hpath, rfl, hpreserve⟩

theorem create_alike (file : CTempFile) (pwszPath : LPCWSTR) (o : CreateFileOutcomes)
    (garbage : Garbage) :
    Program.Alike (fun result result' => result.1 = result'.1 ∧ result.2.Alike result'.2)
      (file.create pwszPath o) (file.create pwszPath (o.refill garbage)) := by
  unfold create CreateFileOutcomes.refill
  apply Program.Alike.ite
  · intro _
    exact Program.alike_pure ⟨rfl, alike_refl _⟩
  intro _
  apply (Program.alike_refl _).bind
  rintro file _ rfl
  have hcch : ExceptAlike (fun length length' => length = length' ∧ length.2 ≤ MAX_PATH + 1)
      (pathLength pwszPath) (pathLength pwszPath) := by
    apply exceptAlike_refl
    rintro ⟨hr, cch⟩ hlength
    exact ⟨rfl, pathLength_le hlength⟩
  apply (Program.alike_lift hcch).bind
  rintro ⟨hr, cch⟩ _ ⟨rfl, hle⟩
  apply Program.Alike.ite
  · intro _
    exact Program.alike_pure ⟨rfl, alike_refl _⟩
  intro _
  cases o.allocPath with
  | none => exact Program.alike_pure ⟨rfl, alike_refl _⟩
  | some old =>
      simp only [refill_some, heapAlloc_some]
      have hsize : ∀ cells : Nat → WCHAR, ((List.range (cch + 1)).map cells).length = cch + 1 := by
        simp
      have hblocks := (hsize old).trans (hsize garbage.path).symm
      apply (Program.alike_lift (stringCchCopyW_alike pwszPath hblocks)).bind
      rintro ⟨hr, cells⟩ ⟨hr', cells'⟩ ⟨hhr, hlength, htext⟩
      obtain rfl : hr = hr' := hhr
      have hvalid : 0 < ((List.range (cch + 1)).map old).length
          ∧ ((List.range (cch + 1)).map old).length ≤ STRSAFE_MAX_CCH := by
        rw [hsize]
        refine ⟨Nat.succ_pos _, ?_⟩
        have hmax : MAX_PATH + 2 ≤ STRSAFE_MAX_CCH := by decide
        dsimp only at hle
        omega
      have hpath := htext (Or.inr hvalid)
      apply Program.Alike.ite
      · intro _
        exact Program.alike_pure ⟨rfl, hlength, hpath, rfl, rfl⟩
      intro _
      apply (Program.alike_refl _).bind
      rintro path _ rfl
      cases o.createFile with
      | error e => exact Program.alike_pure ⟨rfl, rfl, rfl, rfl, rfl⟩
      | ok handle =>
          apply (Program.alike_refl _).bind
          rintro _ _ rfl
          exact Program.alike_pure ⟨rfl, hlength, hpath, rfl, rfl⟩

theorem write_congr {file file' : CTempFile} (h : file.hFile = file'.hFile) (buf : List BYTE)
    (cbIndex cbCount : Nat) (o : WriteOutcome) :
    file.write buf cbIndex cbCount o = file'.write buf cbIndex cbCount o := by
  unfold write
  rw [h]

theorem destroy_alike {file file' : CTempFile} (h : file.Alike file') (deleted : Bool) :
    Program.Alike (· = ·) (file.destroy deleted) (file'.destroy deleted) := by
  apply (close_alike h).bind
  rintro closed closed' ⟨hlength, hpath, -, hpreserve⟩
  rw [← hpreserve, ← hlength, ← hpath]
  exact Program.alike_refl _

end CTempFile

/-! ### The process -/

namespace CProcess

/-- Two process objects that stand for the same process and show the same command line. -/
structure Alike (proc proc' : CProcess) : Prop where
  procInfo : proc.procInfo = proc'.procInfo
  commandLine : proc.getCommandLine = proc'.getCommandLine

theorem create_alike (proc : CProcess) (app : LPCWSTR) (args : List LPCWSTR) (o : ProcessOutcomes)
    (garbage : Garbage) :
    Program.Alike (fun result result' => result.1 = result'.1 ∧ Alike result.2 result'.2)
      (proc.create app args o) (proc.create app args (o.refill garbage)) := by
  unfold create ProcessOutcomes.refill
  apply Program.Alike.ite
  · intro _
    exact Program.alike_pure ⟨rfl, rfl, rfl⟩
  intro _
  cases o.allocCmdLine with
  | none => exact Program.alike_pure ⟨rfl, rfl, rfl⟩
  | some old =>
      rw [refill_some, heapAlloc_some, heapAlloc_some]
      have hsize : ∀ cells : Nat → WCHAR,
          ((List.range g_cchMaxCommandLine).map cells).length = g_cchMaxCommandLine := by simp
      have hpos : 0 < ((List.range g_cchMaxCommandLine).map old).length := by
        rw [hsize]
        decide
      have hmax : ((List.range g_cchMaxCommandLine).map old).length ≤ STRSAFE_MAX_CCH := by
        rw [hsize]
        decide
      have hblocks := (hsize old).trans (hsize garbage.cmdLine).symm
      have hformat := formatCommandLine_alike app args hblocks hpos hmax
      apply (Program.alike_lift hformat).bind
      rintro ⟨hr, cells⟩ ⟨hr', cells'⟩ ⟨hhr, htext⟩
      obtain rfl : hr = hr' := hhr
      have hline : getCommandLine { proc with bufCmdLine := some cells }
          = getCommandLine { proc with bufCmdLine := some cells' } := htext
      apply Program.Alike.ite
      · intro _
        exact Program.alike_pure ⟨rfl, rfl, htext⟩
      intro _
      cases o.createProcess with
      | error e =>
          dsimp only
          rw [hline]
          apply (Program.alike_refl _).bind
          rintro _ _ rfl
          exact Program.alike_pure ⟨rfl, rfl, htext⟩
      | ok info =>
          dsimp only
          rw [hline]
          apply (Program.alike_refl _).bind
          rintro _ _ rfl
          exact Program.alike_pure ⟨rfl, rfl, htext⟩

end CProcess

end PmiExitModule
