import Mathlib.Data.Finset.Lattice.Fold
import Mathlib.Order.Lattice.Nat
import PmiExitModule.Buffer

/-!
# Buffers on a heap are buffers

The rest of the module is modelled with buffers that simply hold their elements. On the heap a buffer is
a pointer to a block it shares with nobody: its calls do to the block what they do to the elements, and
leave the blocks of others alone. So any calls on any number of buffers answer what they answer without
a heap, and every block is freed exactly once.
-/

namespace PmiExitModule

open Generic

namespace HeapAction

variable {T : Type}

def uses : HeapAction T → List (Use Address)
  | newBlock p _ => [.acquire p]
  | storeCells p _ => [.employ p]
  | deleteBlock p => [.release p]

theorem live_apply (heap : Heap T) (action : HeapAction T) :
    (Replay.apply heap action).live = action.uses.foldl Use.apply heap.live := by
  cases action <;> rfl

end HeapAction

/-- The monitor of a part of the process: the blocks of the others are those that were allocated before
or belong to other parts. -/
def heapMonitor {T : Type} (others : Finset Address) : Monitor (HeapAction T) (Heap T) (Finset Address) :=
  Monitor.ofUses HeapAction.uses others Heap.live HeapAction.live_apply

section HeapMonitor

variable {T : Type} {others own : Finset Address} {p : Address}

theorem step_newBlock (hothers : p ∉ others) (hown : p ∉ own) (cells : List T) :
    (heapMonitor others).step own (.newBlock p cells) = some (insert p own) := by
  change (Use.next others own (.acquire p)).bind _ = _
  rw [Use.next_acquire hothers hown]
  rfl

theorem step_storeCells (hown : p ∈ own) (cells : List T) :
    (heapMonitor others).step own (.storeCells p cells) = some own := by
  change (Use.next others own (.employ p)).bind _ = _
  rw [Use.next_employ hown]
  rfl

theorem step_deleteBlock (hown : p ∈ own) :
    (heapMonitor others).step own (.deleteBlock p : HeapAction T) = some (own.erase p) := by
  change (Use.next others own (.release p)).bind _ = _
  rw [Use.next_release hown]
  rfl

/-- What a part does among others, it does as a part of a larger one. -/
theorem heapMonitor_frame {rest own' : Finset Address} {events : List (HeapAction T)}
    (hrest : Disjoint rest own)
    (h : monitor (heapMonitor (others ∪ rest)).step own events = some own') :
    monitor (heapMonitor others).step (rest ∪ own) events = some (rest ∪ own') ∧ Disjoint rest own' := by
  have huses : ∀ others : Finset Address, ∀ own : Finset Address,
      monitor (heapMonitor others).step own events
        = monitor (Use.next others) own (events.flatMap HeapAction.uses) :=
    fun others own => monitor_usesStep HeapAction.uses others own events
  rw [huses] at h ⊢
  exact Use.monitor_frame hrest h

end HeapMonitor

/-! ### One buffer -/

namespace CHeapBufferObject

variable {T α : Type}

def blocks (buf : CHeapBufferObject T) : Finset Address :=
  if buf.m_p = nullptr then ∅ else {buf.m_p}

/-- The elements the buffer leads to. -/
def contents (buf : CHeapBufferObject T) (heap : Heap T) : CHeapBuffer T :=
  if buf.m_p = nullptr then none else some (heap.cells buf.m_p)

/-- Among others with these blocks, a buffer that owns its block and nothing else stands for the elements
of the block. -/
def refinement (others : Finset Address) :
    Refinement (HeapAction T) (Heap T) (Finset Address) (CHeapBufferObject T) (CHeapBuffer T) where
  monitor := heapMonitor others
  Stands heap own buf elements :=
    own = buf.blocks ∧ buf.contents heap = elements ∧ buf.m_cLength = elements.getLength
  Keeps heap heap' := ∀ p ∈ others, heap'.cells p = heap.cells p
  keeps_refl _ _ _ := rfl
  keeps_trans _ _ _ hfirst hsecond p hp := (hsecond p hp).trans (hfirst p hp)

variable {buf : CHeapBufferObject T} {elements : CHeapBuffer T} {others : Finset Address} {heap : Heap T}

/-- Among others, the buffer is the only one to lead to its block. -/
structure Alone (others : Finset Address) (heap : Heap T) (buf : CHeapBufferObject T) : Prop where
  live : heap.live = others ∪ buf.blocks
  disjoint : Disjoint others buf.blocks

theorem blocks_of_null (h : buf.m_p = nullptr) : buf.blocks = ∅ := if_pos h

theorem blocks_of_nonNull (h : buf.m_p ≠ nullptr) : buf.blocks = {buf.m_p} := if_neg h

theorem Alone.mem_live (h : Alone others heap buf) (hp : buf.m_p ≠ nullptr) : buf.m_p ∈ heap.live := by
  rw [h.live, blocks_of_nonNull hp]
  exact Finset.mem_union_right _ (Finset.mem_singleton_self _)

theorem Alone.not_mem_others (h : Alone others heap buf) (hp : buf.m_p ≠ nullptr) :
    buf.m_p ∉ others := by
  have hdisjoint := h.disjoint
  rw [blocks_of_nonNull hp] at hdisjoint
  exact Finset.disjoint_singleton_right.mp hdisjoint

/-- Clearing frees the block, if there is one. -/
theorem clear_run (h : Alone others heap buf) :
    ∃ events, buf.clear heap = (.returned {}, events) ∧ (replay heap events).cells = heap.cells
      ∧ monitor (heapMonitor others).step buf.blocks events = some ∅ := by
  by_cases hp : buf.m_p = nullptr
  · refine ⟨[], ?_, rfl, ?_⟩
    · obtain ⟨m_p, m_cLength⟩ := buf
      obtain rfl : m_p = nullptr := hp
      rfl
    · rw [blocks_of_null hp]
      rfl
  · refine ⟨[.deleteBlock buf.m_p], ?_, rfl, ?_⟩
    · have hdelete : HeapProg.deleteBlock buf.m_p heap = (.returned (), [.deleteBlock buf.m_p]) := by
        unfold HeapProg.deleteBlock
        rw [Program.read_bind_apply, if_pos (h.mem_live hp)]
        rfl
      unfold clear
      rw [if_pos hp]
      exact Program.bind_chain hdelete rfl
    · rw [blocks_of_nonNull hp, monitor_cons, step_deleteBlock (Finset.mem_singleton_self _),
        Option.bind_some, Finset.erase_singleton]
      rfl

theorem refines_clear (answer : α) :
    (refinement others).Refines buf elements (buf.clear >>= fun buf => pure (answer, buf))
      (.ok (answer, none) : Except Fault _) := by
  rintro heap own ⟨hlive, hdisjoint⟩ ⟨rfl, -, -⟩
  obtain ⟨events, hrun, hcells, hallowed⟩ := clear_run ⟨hlive, hdisjoint⟩
  have hboth : (buf.clear >>= fun buf => pure (answer, buf)) heap
      = (.returned (answer, ({} : CHeapBufferObject T)), events ++ []) := Program.bind_chain hrun rfl
  rw [List.append_nil] at hboth
  rw [hboth]
  refine ⟨∅, hallowed, fun p _ => congrFun hcells p, Or.inl ⟨answer, {}, none, rfl, rfl, ?_⟩⟩
  exact ⟨(blocks_of_null rfl).symm, rfl, rfl⟩

/-- What `Alloc` answers without a heap. -/
def allocAlone (elements : CHeapBuffer T) (heap : HeapOutcome T) (cLength : Nat) :
    Bool × CHeapBuffer T :=
  match heapAlloc heap cLength with
  | none => (false, elements)
  | some cells => (true, some cells)

theorem alone_of_newBlock (h : Alone others heap buf) {pNew : Address} (hblocks : pNew ∉ buf.blocks)
    (cells : List T) :
    Alone (others ∪ {pNew}) (applyHeapAction heap (.newBlock pNew cells)) buf := by
  constructor
  · change insert pNew heap.live = _
    rw [h.live, Finset.union_right_comm, Finset.union_comm (others ∪ buf.blocks), Finset.insert_eq]
  · rw [Finset.disjoint_union_left]
    exact ⟨h.disjoint, Finset.disjoint_singleton_left.mpr hblocks⟩

theorem refines_alloc (cLength : Nat) (o : Option (BlockSource T)) :
    (refinement others).Refines buf elements (buf.alloc cLength o)
      (.ok (allocAlone elements (heapOutcome o) cLength) : Except Fault _) := by
  cases o with
  | none => exact Refinement.refines_pure false
  | some source =>
      rintro heap own ⟨hlive, hdisjoint⟩ ⟨rfl, -, -⟩
      have halone : Alone others heap buf := ⟨hlive, hdisjoint⟩
      set pNew := source.next heap.live with hpNew
      set cells := (List.range cLength).map source.garbage with hcells
      have hfresh : pNew ∉ others ∪ buf.blocks := hlive ▸ source.fresh heap.live
      have hnonNull : pNew ≠ nullptr := source.nonNull heap.live
      rw [Finset.mem_union, not_or] at hfresh
      obtain ⟨hothers, hblocks⟩ := hfresh
      -- The old block is freed while the new one is already there.
      obtain ⟨events, hrun, hkept, hallowed⟩ := clear_run (alone_of_newBlock halone hblocks cells)
      obtain ⟨hallowed', -⟩ :=
        heapMonitor_frame (Finset.disjoint_singleton_left.mpr hblocks) hallowed
      have hboth : (buf.alloc cLength (some source)) heap
          = (.returned (true, { m_p := pNew, m_cLength := cLength }),
              .newBlock pNew cells :: (events ++ [])) :=
        Program.bind_chain (Program.read_apply heap)
          (Program.bind_chain (Program.emit_apply (HeapAction.newBlock pNew cells) heap)
            (Program.bind_chain hrun rfl))
      rw [hboth, List.append_nil]
      refine ⟨{pNew}, ?_, ?_, Or.inl ⟨true, { m_p := pNew, m_cLength := cLength }, some cells, rfl, rfl,
        (if_neg hnonNull).symm, ?_, ?_⟩⟩
      · change monitor (heapMonitor others).step buf.blocks _ = _
        rw [monitor_cons, step_newBlock hothers hblocks, Option.bind_some, Finset.insert_eq, hallowed',
          Finset.union_empty]
      · intro p hp
        have hne : p ≠ pNew := by
          rintro rfl
          exact hothers hp
        rw [replay_cons]
        exact (congrFun hkept p).trans (Function.update_of_ne hne _ _)
      · unfold contents
        rw [if_neg hnonNull, replay_cons]
        exact congrArg some ((congrFun hkept pNew).trans (Function.update_self _ _ _))
      · simp [CHeapBuffer.getLength, hcells]

/-- What a call does to the elements it is handed. -/
def fillAlone (elements : CHeapBuffer T) (filler : Filler T) : Except Fault (HRESULT × CHeapBuffer T) :=
  match elements with
  | none => .error .nullPointer
  | some cells => do
      let (hr, cells) ← filler.run cells
      return (hr, some cells)

theorem refines_fill (filler : Filler T) :
    (refinement others).Refines buf elements (buf.fill filler) (fillAlone elements filler) := by
  rintro heap own ⟨hlive, hdisjoint⟩ ⟨rfl, hcontents, hlength⟩
  have halone : Alone others heap buf := ⟨hlive, hdisjoint⟩
  by_cases hp : buf.m_p = nullptr
  · have hnone : elements = none := by
      rw [← hcontents]
      exact if_pos hp
    have hload : HeapProg.loadCells buf.m_p heap = (.faulted .nullPointer, []) := by
      rw [HeapProg.loadCells, if_pos hp]
      rfl
    have hrun : buf.fill filler heap = _ := Program.bind_of_faulted hload
    rw [hrun, hnone]
    exact ⟨buf.blocks, rfl, fun _ _ => rfl, Or.inr ⟨.nullPointer, rfl, rfl⟩⟩
  have hsome : elements = some (heap.cells buf.m_p) := by
    rw [← hcontents]
    exact if_neg hp
  have hload : HeapProg.loadCells buf.m_p heap = (.returned (heap.cells buf.m_p), []) := by
    rw [HeapProg.loadCells, if_neg hp, Program.read_bind_apply, if_pos (halone.mem_live hp)]
    rfl
  rw [hsome] at hlength ⊢
  cases hfill : filler.run (heap.cells buf.m_p) with
  | error fault =>
      have hlift : (Program.lift (filler.run (heap.cells buf.m_p)) : HeapProg T _) heap
          = (.faulted fault, []) := by
        rw [hfill]
        rfl
      have hrun : buf.fill filler heap = (.faulted fault, [] ++ []) :=
        Program.bind_chain hload (Program.bind_of_faulted hlift)
      have hresult : fillAlone (some (heap.cells buf.m_p)) filler = .error fault := by
        simp [fillAlone, hfill, bind, Except.bind]
      rw [hrun, hresult]
      exact ⟨buf.blocks, rfl, fun _ _ => rfl, Or.inr ⟨fault, rfl, rfl⟩⟩
  | ok answer =>
      obtain ⟨hr, cells⟩ := answer
      have hlift : (Program.lift (filler.run (heap.cells buf.m_p)) : HeapProg T _) heap
          = (.returned (hr, cells), []) := by
        rw [hfill]
        rfl
      have hrun : buf.fill filler heap
          = (.returned (hr, buf), [] ++ ([] ++ ([HeapAction.storeCells buf.m_p cells] ++ []))) :=
        Program.bind_chain hload (Program.bind_chain hlift (Program.bind_chain
          (Program.emit_apply (HeapAction.storeCells buf.m_p cells) heap) rfl))
      have hresult : fillAlone (some (heap.cells buf.m_p)) filler = .ok (hr, some cells) := by
        simp [fillAlone, hfill, bind, Except.bind, pure, Except.pure]
      have hmem : buf.m_p ∈ buf.blocks := by
        rw [blocks_of_nonNull hp]
        exact Finset.mem_singleton_self _
      have hfilled : buf.contents (applyHeapAction heap (.storeCells buf.m_p cells)) = some cells := by
        unfold contents
        rw [if_neg hp]
        exact congrArg some (Function.update_self _ _ _)
      rw [hrun, hresult]
      refine ⟨buf.blocks, ?_, ?_, Or.inl ⟨hr, buf, some cells, rfl, rfl, rfl, hfilled, ?_⟩⟩
      · change monitor (heapMonitor others).step buf.blocks [.storeCells buf.m_p cells] = _
        rw [monitor_cons, step_storeCells hmem]
        rfl
      · intro p hp'
        have hne : p ≠ buf.m_p := by
          rintro rfl
          exact halone.not_mem_others hp hp'
        exact Function.update_of_ne hne _ _
      · exact hlength.trans (filler.length _ _ _ hfill).symm

end CHeapBufferObject

section Calls

variable {others : Finset Address} {buf : CHeapBufferObject WCHAR} {elements : CHeapBuffer WCHAR}

open CHeapBufferObject

theorem refines_copy (bstr : BSTR) (o : Option (BlockSource WCHAR)) :
    (refinement others).Refines buf elements (buf.copy bstr o)
      (CHeapBuffer.copy elements bstr (heapOutcome o)) := by
  unfold CHeapBufferObject.copy CHeapBuffer.copy
  by_cases hnull : bstr = .null
  · rw [if_pos hnull, if_pos hnull]
    exact refines_clear S_OK
  rw [if_neg hnull, if_neg hnull]
  apply Refinement.refines_lift_bind
  intro cch
  refine Eq.mp (congrArg ((refinement others).Refines buf elements _) (?_ : (Except.ok (allocAlone
    elements (heapOutcome o) (cch + 1)) >>= fun answer =>
      if !answer.1 then pure (E_OUTOFMEMORY, answer.2)
      else bstr.toPointer >>= fun pointer => fillAlone answer.2 (copyFiller pointer)) = _)) ?_
  · unfold allocAlone
    dsimp only
    cases heapAlloc (heapOutcome o) (cch + 1) with
    | none => rfl
    | some cells => rfl
  apply (refines_alloc (cch + 1) o).bind
  intro fAllocated buf' elements'
  cases fAllocated with
  | false => exact Refinement.refines_pure E_OUTOFMEMORY
  | true =>
      apply Refinement.refines_lift_bind
      intro pointer
      exact refines_fill (copyFiller pointer)

/-- **A call on the heap is the call without one.** -/
theorem refines_run (call : BufferCall) :
    (refinement others).Refines buf elements (call.run buf) (call.runAlone elements) := by
  cases call with
  | alloc cLength o =>
      have halone : BufferCall.runAlone elements (.alloc cLength o)
          = (.ok (allocAlone elements (heapOutcome o) cLength) >>= fun answer =>
              pure (BufferAnswer.allocated answer.1, answer.2)) := by
        simp only [BufferCall.runAlone, allocAlone]
        cases heapAlloc (heapOutcome o) cLength with
        | none => rfl
        | some cells => rfl
      rw [halone]
      exact (refines_alloc cLength o).map BufferAnswer.allocated
  | fill filler =>
      have halone : BufferCall.runAlone elements (.fill filler)
          = (fillAlone elements filler >>= fun answer =>
              pure (BufferAnswer.answered answer.1, answer.2)) := by
        cases elements with
        | none => rfl
        | some cells =>
            simp only [BufferCall.runAlone, fillAlone]
            cases filler.run cells with
            | error fault => rfl
            | ok answer => rfl
      rw [halone]
      exact (refines_fill filler).map BufferAnswer.answered
  | copy bstr o => exact (refines_copy bstr o).map BufferAnswer.answered
  | clear => exact refines_clear BufferAnswer.done

end Calls

/-! ### All the buffers of a heap -/

namespace BufferAction

def uses (event : BufferAction) : List (Use Address) := event.action.uses

/-- The same uses, as uses of what one buffer holds. -/
def ownUses (event : BufferAction) : List (Use (Nat × Address)) :=
  event.action.uses.map (Use.map (event.name, ·))

end BufferAction

/-- The monitor of all buffers together. -/
def sharedMonitor (others : Finset Address) : Monitor BufferAction (Heap WCHAR) (Finset Address) :=
  Monitor.ofUses BufferAction.uses others Heap.live fun heap event =>
    HeapAction.live_apply heap event.action

/-- The monitor of who holds which block: a buffer may write to or free a block only if it was handed out
to that buffer. -/
def ownerMonitor : Monitor BufferAction (Heap WCHAR) (Finset (Nat × Address)) :=
  .ofStep (usesStep BufferAction.ownUses ∅)

def buffersMonitor (others : Finset Address) :
    Monitor BufferAction (Heap WCHAR) (Finset Address × Finset (Nat × Address)) :=
  (sharedMonitor others).both ownerMonitor

section BuffersMonitor

variable {others rest own own' : Finset Address} {i : Nat} {events : List (HeapAction WCHAR)}

/-- What one buffer does among others, it does as a part of all. -/
theorem sharedMonitor_frame (hrest : Disjoint rest own)
    (h : monitor (heapMonitor (others ∪ rest)).step own events = some own') :
    monitor (sharedMonitor others).step (rest ∪ own) (events.map (.mk i)) = some (rest ∪ own')
      ∧ Disjoint rest own' := by
  have hshared : monitor (sharedMonitor others).step (rest ∪ own) (events.map (.mk i))
      = monitor (heapMonitor others).step (rest ∪ own) events := monitor_map _ _ _ _
  rw [hshared]
  exact heapMonitor_frame hrest h

/-- It works on what it holds itself. -/
theorem ownerMonitor_frame {holdings : Finset (Nat × Address)} (hholdings : ∀ p, (i, p) ∉ holdings)
    (h : monitor (heapMonitor others).step own events = some own') :
    monitor ownerMonitor.step (holdings ∪ own.image (i, ·)) (events.map (.mk i))
      = some (holdings ∪ own'.image (i, ·)) := by
  have huses : (events.map (BufferAction.mk i)).flatMap BufferAction.ownUses
      = (events.flatMap HeapAction.uses).map (Use.map (i, ·)) := by
    rw [List.flatMap_map, List.map_flatMap]
    rfl
  have howners : monitor ownerMonitor.step (holdings ∪ own.image (i, ·)) (events.map (.mk i))
      = monitor (Use.next ∅) (holdings ∪ own.image (i, ·))
          ((events.flatMap HeapAction.uses).map (Use.map (i, ·))) := by
    rw [← huses]
    exact monitor_usesStep BufferAction.ownUses ∅ _ _
  have hused := (monitor_usesStep HeapAction.uses others own events).symm.trans h
  have hown : ∀ p, (i, p) ∈ ∅ ∪ holdings → p ∈ others := by
    intro p hp
    rw [Finset.empty_union] at hp
    exact absurd hp (hholdings p)
  have hdisjoint : Disjoint holdings (own.image (i, ·)) := by
    rw [Finset.disjoint_right]
    intro holding hmem
    obtain ⟨p, -, rfl⟩ := Finset.mem_image.mp hmem
    exact hholdings p
  rw [howners]
  exact (Use.monitor_frame hdisjoint (Use.monitor_map (Prod.mk_right_injective i) hown hused)).1

end BuffersMonitor

/-- The buffers own these blocks and stand for these elements, each by itself. -/
structure Represents (heap : Heap WCHAR) (held : Finset Address × Finset (Nat × Address)) (bufs : Buffers)
    (elements : Nat → CHeapBuffer WCHAR) : Prop where
  own : ∀ p, p ∈ held.1 ↔ ∃ i, p ∈ (bufs i).blocks
  owners : ∀ i p, (i, p) ∈ held.2 ↔ p ∈ (bufs i).blocks
  apart : ∀ i j, i ≠ j → Disjoint (bufs i).blocks (bufs j).blocks
  contents : ∀ i, (bufs i).contents heap = elements i
  length : ∀ i, (bufs i).m_cLength = (elements i).getLength

def buffersRefinement (others : Finset Address) :
    Refinement BufferAction (Heap WCHAR) (Finset Address × Finset (Nat × Address)) Buffers
      (Nat → CHeapBuffer WCHAR) where
  monitor := buffersMonitor others
  Stands := Represents
  Keeps heap heap' := ∀ p ∈ others, heap'.cells p = heap.cells p
  keeps_refl _ _ _ := rfl
  keeps_trans _ _ _ hfirst hsecond p hp := (hsecond p hp).trans (hfirst p hp)

namespace Represents

variable {others own : Finset Address} {holdings : Finset (Nat × Address)} {heap : Heap WCHAR}
  {bufs : Buffers} {elements : Nat → CHeapBuffer WCHAR}

theorem blocks_subset (h : Represents heap (own, holdings) bufs elements) (i : Nat) :
    (bufs i).blocks ⊆ own := by
  intro p hp
  exact (h.own p).mpr ⟨i, hp⟩

theorem mem_rest_iff (h : Represents heap (own, holdings) bufs elements) {i : Nat} {p : Address} :
    p ∈ own \ (bufs i).blocks ↔ ∃ j, j ≠ i ∧ p ∈ (bufs j).blocks := by
  have hown : p ∈ own ↔ ∃ i, p ∈ (bufs i).blocks := h.own p
  rw [Finset.mem_sdiff, hown]
  constructor
  · rintro ⟨⟨j, hj⟩, hi⟩
    refine ⟨j, ?_, hj⟩
    rintro rfl
    exact hi hj
  · rintro ⟨j, hne, hj⟩
    exact ⟨⟨j, hj⟩, Finset.disjoint_left.mp (h.apart j i hne) hj⟩

theorem holdings_eq (h : Represents heap (own, holdings) bufs elements) (i : Nat) :
    holdings.filter (·.1 ≠ i) ∪ (bufs i).blocks.image (i, ·) = holdings := by
  ext ⟨j, p⟩
  have howners : (j, p) ∈ holdings ↔ p ∈ (bufs j).blocks := h.owners j p
  by_cases hj : j = i
  · subst hj
    simp [howners]
  · have hj' : i ≠ j := fun h => hj h.symm
    simp [hj, hj']

/-- To one of the buffers, the blocks of the rest are blocks of others. -/
theorem knows_one (h : Represents heap (own, holdings) bufs elements)
    (hknows : (sharedMonitor others).Knows heap own) (i : Nat) :
    (heapMonitor (others ∪ own \ (bufs i).blocks)).Knows heap (bufs i).blocks := by
  obtain ⟨hlive, hdisjoint⟩ := hknows
  constructor
  · rw [hlive, Finset.union_assoc, Finset.sdiff_union_of_subset (h.blocks_subset i)]
  · rw [Finset.disjoint_union_left]
    exact ⟨Finset.disjoint_of_subset_right (h.blocks_subset i) hdisjoint, Finset.sdiff_disjoint⟩

/-- The blocks of the other buffers hold what they held, so those stand for what they stood for. -/
theorem update (h : Represents heap (own, holdings) bufs elements) {i : Nat}
    {buf : CHeapBufferObject WCHAR} {elements' : CHeapBuffer WCHAR} {heap' : Heap WCHAR}
    (hrest : Disjoint (own \ (bufs i).blocks) buf.blocks)
    (hkeeps : ∀ p ∈ own \ (bufs i).blocks, heap'.cells p = heap.cells p)
    (hcontents : buf.contents heap' = elements') (hlength : buf.m_cLength = elements'.getLength) :
    Represents heap'
      (own \ (bufs i).blocks ∪ buf.blocks, holdings.filter (·.1 ≠ i) ∪ buf.blocks.image (i, ·))
      (Function.update bufs i buf) (Function.update elements i elements') := by
  have hsame : ∀ j, j ≠ i → Function.update bufs i buf j = bufs j :=
    fun j hj => Function.update_of_ne hj _ _
  have hapart : ∀ j, j ≠ i → Disjoint (bufs j).blocks buf.blocks := by
    intro j hj
    refine Finset.disjoint_of_subset_left ?_ hrest
    intro p hp
    exact h.mem_rest_iff.mpr ⟨j, hj, hp⟩
  constructor
  · intro p
    change p ∈ own \ (bufs i).blocks ∪ buf.blocks ↔ _
    rw [Finset.mem_union, h.mem_rest_iff]
    constructor
    · rintro (⟨j, hj, hp⟩ | hp)
      · exact ⟨j, by rwa [hsame j hj]⟩
      · exact ⟨i, by rwa [Function.update_self]⟩
    · rintro ⟨j, hp⟩
      by_cases hj : j = i
      · subst hj
        rw [Function.update_self] at hp
        exact Or.inr hp
      · rw [hsame j hj] at hp
        exact Or.inl ⟨j, hj, hp⟩
  · intro j p
    change (j, p) ∈ holdings.filter (·.1 ≠ i) ∪ buf.blocks.image (i, ·) ↔ _
    have howners : (j, p) ∈ holdings ↔ p ∈ (bufs j).blocks := h.owners j p
    rw [Finset.mem_union, Finset.mem_filter, Finset.mem_image, howners]
    by_cases hj : j = i
    · subst hj
      rw [Function.update_self]
      simp
    · have hj' : i ≠ j := fun h => hj h.symm
      rw [hsame j hj]
      simp [hj, hj']
  · intro j k hjk
    by_cases hj : j = i
    · subst hj
      rw [Function.update_self, hsame k (Ne.symm hjk)]
      exact (hapart k (Ne.symm hjk)).symm
    by_cases hk : k = i
    · subst hk
      rw [Function.update_self, hsame j hj]
      exact hapart j hj
    · rw [hsame j hj, hsame k hk]
      exact h.apart j k hjk
  · intro j
    by_cases hj : j = i
    · subst hj
      rw [Function.update_self, Function.update_self]
      exact hcontents
    · rw [hsame j hj, Function.update_of_ne hj, ← h.contents j]
      unfold CHeapBufferObject.contents
      by_cases hp : (bufs j).m_p = nullptr
      · rw [if_pos hp, if_pos hp]
      · have hmem : (bufs j).m_p ∈ own \ (bufs i).blocks := by
          refine h.mem_rest_iff.mpr ⟨j, hj, ?_⟩
          rw [CHeapBufferObject.blocks_of_nonNull hp]
          exact Finset.mem_singleton_self _
        rw [if_neg hp, if_neg hp, hkeeps _ hmem]
  · intro j
    by_cases hj : j = i
    · subst hj
      rw [Function.update_self, Function.update_self]
      exact hlength
    · rw [hsame j hj, Function.update_of_ne hj]
      exact h.length j

end Represents

/-- What refines a computation on one buffer refines it on that buffer among all. -/
theorem refines_on {others : Finset Address} {bufs : Buffers} {elements : Nat → CHeapBuffer WCHAR}
    {α : Type} (i : Nat) {program : HeapProg WCHAR (α × CHeapBufferObject WCHAR)}
    {result : Except Fault (α × CHeapBuffer WCHAR)}
    (h : ∀ others, (CHeapBufferObject.refinement others).Refines (bufs i) (elements i) program result) :
    (buffersRefinement others).Refines bufs elements
      (program.along id (BufferAction.mk i) >>= fun answer =>
        (pure (answer.1, Function.update bufs i answer.2) : BufferProg (α × Buffers)))
      (result >>= fun answer => pure (answer.1, Function.update elements i answer.2)) := by
  rintro heap ⟨own, holdings⟩ ⟨hknows, -⟩ hstands
  obtain ⟨own', hallowed, hkeeps, hends⟩ := h _ heap (bufs i).blocks
    (hstands.knows_one hknows i) ⟨rfl, hstands.contents i, hstands.length i⟩
  set events := (program heap).2 with hevents
  have hothers : ∀ p, (i, p) ∉ holdings.filter (·.1 ≠ i) := by simp
  have howners : monitor ownerMonitor.step _ (events.map (.mk i)) = some _ :=
    ownerMonitor_frame hothers hallowed
  obtain ⟨hshared, hrest⟩ : monitor (sharedMonitor others).step _ (events.map (.mk i)) = some _ ∧ _ :=
    sharedMonitor_frame Finset.sdiff_disjoint hallowed
  rw [hstands.holdings_eq i] at howners
  rw [Finset.sdiff_union_of_subset (hstands.blocks_subset i)] at hshared
  have hrun : (program.along id (BufferAction.mk i) >>= fun answer =>
      (pure (answer.1, Function.update bufs i answer.2) : BufferProg (α × Buffers))) heap
      = ((program heap).1.map fun answer => (answer.1, Function.update bufs i answer.2),
          events.map (.mk i)) :=
    Program.bind_pure_apply heap (program.along id (BufferAction.mk i)) _
  have hreplay : replay heap (events.map (BufferAction.mk i)) = replay heap events := List.foldl_map
  rw [hrun]
  refine ⟨(own \ (bufs i).blocks ∪ own', holdings.filter (·.1 ≠ i) ∪ own'.image (i, ·)),
    Monitor.monitor_both_iff.mpr ⟨hshared, howners⟩, ?_, ?_⟩
  · intro p hp
    rw [hreplay]
    exact hkeeps p (Finset.mem_union_left _ hp)
  rw [hreplay]
  rcases hends with ⟨answer, buf, elements', hreturned, hresult, rfl, hcontents, hlength⟩ |
    ⟨fault, hfaulted, hresult⟩
  · refine Or.inl ⟨answer, Function.update bufs i buf, Function.update elements i elements', ?_, ?_, ?_⟩
    · rw [hreturned]
      rfl
    · rw [hresult]
      rfl
    · exact hstands.update hrest (fun p hp => hkeeps p (Finset.mem_union_right _ hp)) hcontents hlength
  · refine Or.inr ⟨fault, ?_, ?_⟩
    · rw [hfaulted]
      rfl
    · rw [hresult]
      rfl

theorem bufferCalls_refines (others : Finset Address) (calls : List (Nat × BufferCall)) :
    (buffersRefinement others).Refines (fun _ => {}) (fun _ => none) (bufferCalls calls)
      (bufferCallsAlone calls) := by
  apply Refinement.refines_calls
  intro bufs elements call
  exact refines_on call.1 fun others => refines_run call.2

theorem represents_start (heap : Heap WCHAR) :
    Represents heap (∅, ∅) (fun _ => ({} : CHeapBufferObject WCHAR)) fun _ => none := by
  constructor
  · intro p
    constructor
    · intro hp
      exact absurd hp (Finset.notMem_empty p)
    · rintro ⟨i, hp⟩
      exact hp
  · intro i p
    exact iff_of_false (Finset.notMem_empty (i, p)) (Finset.notMem_empty p)
  · intro i j _
    exact Finset.disjoint_empty_left _
  · intro i
    rfl
  · intro i
    rfl

theorem buffersMonitor_knows (heap : Heap WCHAR) : (buffersMonitor heap.live).Knows heap (∅, ∅) :=
  ⟨⟨(Finset.union_empty _).symm, Finset.disjoint_empty_right _⟩, trivial⟩

theorem bufferCalls_does (calls : List (Nat × BufferCall)) (heap : Heap WCHAR) :
    ∃ held, (buffersRefinement heap.live).Does heap (∅, ∅) (bufferCalls calls heap)
      (bufferCallsAlone calls) held :=
  bufferCalls_refines heap.live calls heap (∅, ∅) (buffersMonitor_knows heap) (represents_start heap)

/-- **Buffers on a heap are buffers.** Any calls on any number of buffers that share a heap answer what
they answer on buffers that hold their elements themselves, or fault alike; each buffer then leads to the
elements its counterpart holds, in a block of its own. The blocks that were there before are still there,
with what they held. -/
theorem heap_refines_buffers (calls : List (Nat × BufferCall)) (heap : Heap WCHAR) :
    ((∃ answers bufs elements, (bufferCalls calls heap).1 = .returned (answers, bufs)
        ∧ bufferCallsAlone calls = .ok (answers, elements)
        ∧ (∀ i, (bufs i).contents (replay heap (bufferCalls calls heap).2) = elements i
          ∧ (bufs i).m_cLength = (elements i).getLength)
        ∧ ∀ i j, i ≠ j → Disjoint (bufs i).blocks (bufs j).blocks) ∨
      ∃ fault, (bufferCalls calls heap).1 = .faulted fault ∧ bufferCallsAlone calls = .error fault)
    ∧ ∀ p ∈ heap.live, p ∈ (replay heap (bufferCalls calls heap).2).live
      ∧ (replay heap (bufferCalls calls heap).2).cells p = heap.cells p := by
  obtain ⟨held, hallowed, hkeeps, hends⟩ := bufferCalls_does calls heap
  obtain ⟨⟨hlive, -⟩, -⟩ := (buffersMonitor heap.live).tracks_run (buffersMonitor_knows heap) hallowed
  refine ⟨?_, ?_⟩
  · rcases hends with ⟨answers, bufs, elements, hreturned, hresult, hstands⟩ | hfaulted
    · exact Or.inl ⟨answers, bufs, elements, hreturned, hresult,
        fun i => ⟨hstands.contents i, hstands.length i⟩, hstands.apart⟩
    · exact Or.inr hfaulted
  · intro p hp
    refine ⟨?_, hkeeps p hp⟩
    rw [hlive]
    exact Finset.mem_union_left _ hp

/-! ### Every block is freed once -/

theorem callsAlone_clear {names : List Nat} {elements elements' : Nat → CHeapBuffer WCHAR}
    {answers : List BufferAnswer}
    (h : Refinement.callsAlone callOnAlone elements (names.map fun i => (i, .clear))
      = .ok (answers, elements'))
    {i : Nat} (hi : i ∈ names ∨ elements i = none) : elements' i = none := by
  induction names generalizing elements answers with
  | nil =>
      obtain ⟨-, rfl⟩ := Prod.mk.inj (Except.ok.inj h)
      exact hi.resolve_left List.not_mem_nil
  | cons first rest ih =>
      obtain ⟨⟨answer, middle⟩, hfirst, h⟩ := exists_of_bind_eq_ok h
      obtain ⟨⟨answers', last⟩, hrest, h⟩ := exists_of_bind_eq_ok h
      obtain ⟨-, rfl⟩ := Prod.mk.inj (Except.ok.inj h)
      obtain ⟨-, rfl⟩ := Prod.mk.inj (Except.ok.inj hfirst)
      apply ih hrest
      by_cases hne : i = first
      · right
        subst hne
        exact Function.update_self _ _ _
      · change i ∈ rest ∨ Function.update elements first none i = none
        rw [Function.update_of_ne hne]
        exact hi.imp_left fun hmem => (List.mem_cons.mp hmem).resolve_left hne

theorem callsAlone_cleared {names : List Nat} {calls : List (Nat × BufferCall)}
    (hnames : ∀ call ∈ calls, call.1 ∈ names) {elements elements' : Nat → CHeapBuffer WCHAR}
    {answers : List BufferAnswer} (helements : ∀ i, i ∉ names → elements i = none)
    (h : Refinement.callsAlone callOnAlone elements (calls ++ names.map fun i => (i, .clear))
      = .ok (answers, elements')) (i : Nat) : elements' i = none := by
  induction calls generalizing elements answers with
  | nil =>
      apply callsAlone_clear h
      by_cases hi : i ∈ names
      · exact Or.inl hi
      · exact Or.inr (helements i hi)
  | cons first rest ih =>
      obtain ⟨hfirst, hrest⟩ := List.forall_mem_cons.mp hnames
      obtain ⟨⟨answer, middle⟩, hcall, h⟩ := exists_of_bind_eq_ok h
      obtain ⟨⟨answers', last⟩, hlast, h⟩ := exists_of_bind_eq_ok h
      obtain ⟨-, rfl⟩ := Prod.mk.inj (Except.ok.inj h)
      obtain ⟨⟨answer', buf⟩, -, hcall⟩ := exists_of_bind_eq_ok hcall
      obtain ⟨-, rfl⟩ := Prod.mk.inj (Except.ok.inj hcall)
      refine ih hrest ?_ hlast
      intro j hj
      have hne : j ≠ first.1 := by
        rintro rfl
        exact hj hfirst
      exact (Function.update_of_ne hne _ _).trans (helements j hj)

theorem nullptr_of_contents {buf : CHeapBufferObject WCHAR} {heap : Heap WCHAR}
    (h : buf.contents heap = none) : buf.blocks = ∅ := by
  by_contra hblocks
  have hp : buf.m_p ≠ nullptr := fun hp => hblocks (CHeapBufferObject.blocks_of_null hp)
  rw [CHeapBufferObject.contents, if_neg hp] at h
  cases h

/-- **No block is leaked or freed twice.** Over the lives of any buffers, a block is handed out only if
nobody has it, a buffer writes to and frees only blocks that were handed out to itself and that it has
not freed since, and when the last destructor has run each buffer has freed every block as often as it
was handed out to it. -/
theorem bufferLives_return_blocks (names : List Nat) (calls : List (Nat × BufferCall))
    (hnames : ∀ call ∈ calls, call.1 ∈ names) (heap : Heap WCHAR) :
    (∃ own holdings,
      monitor (usesStep BufferAction.uses heap.live) ∅ (bufferLives names calls heap).2 = some own
      ∧ monitor (usesStep BufferAction.ownUses ∅) ∅ (bufferLives names calls heap).2 = some holdings)
    ∧ ∀ result, (bufferLives names calls heap).1 = .returned result →
      (replay heap (bufferLives names calls heap).2).live = heap.live
      ∧ ∀ i p, ((bufferLives names calls heap).2.flatMap BufferAction.ownUses).count (.acquire (i, p))
        = ((bufferLives names calls heap).2.flatMap BufferAction.ownUses).count (.release (i, p)) := by
  obtain ⟨⟨own, holdings⟩, hallowed, hkeeps, hends⟩ :=
    bufferCalls_does (calls ++ names.map fun i => (i, .clear)) heap
  obtain ⟨hshared, howners⟩ := Monitor.monitor_both_iff.mp hallowed
  refine ⟨⟨own, holdings, hshared, howners⟩, ?_⟩
  intro result hreturned
  rcases hends with ⟨answers, bufs, elements, -, hresult, hstands⟩ | ⟨fault, hfaulted, -⟩
  · have hcleared := callsAlone_cleared hnames (fun _ _ => rfl) hresult
    have hblocks : ∀ i, (bufs i).blocks = ∅ := fun i =>
      nullptr_of_contents ((hstands.contents i).trans (hcleared i))
    obtain rfl : own = ∅ := by
      rw [Finset.eq_empty_iff_forall_notMem]
      intro p hp
      obtain ⟨i, hi⟩ := (hstands.own p).mp hp
      rw [hblocks i] at hi
      exact Finset.notMem_empty p hi
    obtain rfl : holdings = ∅ := by
      rw [Finset.eq_empty_iff_forall_notMem]
      rintro ⟨i, p⟩ hp
      have hi := (hstands.owners i p).mp hp
      rw [hblocks i] at hi
      exact Finset.notMem_empty p hi
    obtain ⟨⟨hlive, -⟩, -⟩ := (buffersMonitor heap.live).tracks_run (buffersMonitor_knows heap) hallowed
    exact ⟨hlive.trans (Finset.union_empty _), fun i p => count_acquire_eq_count_release howners (i, p)⟩
  · have hfaulted' : (bufferLives names calls heap).1 = .faulted fault := hfaulted
    rw [hfaulted'] at hreturned
    cases hreturned

def nextFree : BlockSource WCHAR where
  next inUse := inUse.sup id + 1
  fresh inUse hmem := Nat.not_succ_le_self (inUse.sup id) (Finset.le_sup (f := id) hmem)
  nonNull _ := Nat.succ_ne_zero _
  garbage _ := 0x41

/-- A string is copied into a buffer, another buffer is allocated, and the first one copied into anew. -/
def twoBuffers : List (Nat × BufferCall) :=
  [(0, .copy (.bytes [0x61, 0]) (some nextFree)), (1, .alloc 3 (some nextFree)),
    (0, .copy (.bytes [0x62, 0, 0x63, 0]) (some nextFree))]

/-- A heap with one block, of somebody else. -/
def usedHeap : Heap WCHAR := ⟨{7}, fun _ => []⟩

theorem bufferLives_return_blocks_example :
    (∃ own holdings,
      monitor (usesStep BufferAction.uses usedHeap.live) ∅ (bufferLives [1, 0] twoBuffers usedHeap).2
        = some own
      ∧ monitor (usesStep BufferAction.ownUses ∅) ∅ (bufferLives [1, 0] twoBuffers usedHeap).2
        = some holdings)
    ∧ ∀ result, (bufferLives [1, 0] twoBuffers usedHeap).1 = .returned result →
      (replay usedHeap (bufferLives [1, 0] twoBuffers usedHeap).2).live = usedHeap.live
      ∧ ∀ i p, ((bufferLives [1, 0] twoBuffers usedHeap).2.flatMap BufferAction.ownUses).count
          (.acquire (i, p))
        = ((bufferLives [1, 0] twoBuffers usedHeap).2.flatMap BufferAction.ownUses).count
          (.release (i, p)) :=
  bufferLives_return_blocks [1, 0] twoBuffers (by decide) usedHeap

end PmiExitModule
