import PmiExitModule.EventProcessorConfig
import PmiExitModule.Generic.Segments

/-!
# The two passes over a `MULTI_SZ` value

`QueryMultiStringValue` guarantees that the data end in a terminator, and in two when there is more
than one character. Each turn of a pass takes one string off the front and leaves a rest that again
ends so, which is why the character the loop test reads next is always one of the data.
-/

namespace PmiExitModule

open Generic

namespace CEventProcessorConfig

/-- The strings a pass walks over when the data hold these segments. -/
def visitsFrom (offset cchMax : Nat) : List (List WCHAR) → List Visit
  | [] => []
  | segment :: rest =>
      ⟨offset, cchMax, segment.length⟩ ::
        visitsFrom (offset + (segment.length + 1)) (cchMax - (segment.length + 1)) rest

theorem visitsFrom_length (offset cchMax : Nat) (segments : List (List WCHAR)) :
    (visitsFrom offset cchMax segments).length = segments.length := by
  induction segments generalizing offset cchMax with
  | nil => rfl
  | cons segment rest ih => rw [visitsFrom, List.length_cons, ih, List.length_cons]

theorem sizeSub_of_le {a b : Nat} (hle : b ≤ a) (ha : a < 2 ^ 64) : sizeSub a b = a - b := by
  unfold sizeSub
  omega

section Unfolding

variable {buf : List WCHAR} {pwsz cchMax : Nat} {c : WCHAR} {cchArg : Nat}

theorem countArguments_stop (cArgs : Nat) (hr : HRESULT) (h : buf[pwsz]? = some NUL) :
    countArguments buf pwsz cchMax cArgs hr = .ok (hr, cArgs, []) := by
  unfold countArguments
  split
  next hnone => simp [hnone] at h
  next c hc =>
    rw [h] at hc
    simp [← Option.some.inj hc]

theorem countArguments_step (cArgs : Nat) (hr : HRESULT) {result : HRESULT × Nat × List Visit}
    (h : buf[pwsz]? = some c) (hc : c ≠ NUL)
    (hlength : stringCchLengthW buf pwsz cchMax = .ok (S_OK, cchArg))
    (hrest : countArguments buf (pwsz + (cchArg + 1)) (sizeSub cchMax (cchArg + 1)) (cArgs + 1) S_OK
      = .ok result) :
    countArguments buf pwsz cchMax cArgs hr
      = .ok (result.1, result.2.1, ⟨pwsz, cchMax, cchArg⟩ :: result.2.2) := by
  unfold countArguments
  split
  next hnone => simp [hnone] at h
  next c' hc' =>
    obtain rfl : c' = c := Option.some.inj (hc'.symm.trans h)
    simp only [hc, if_false, hlength, not_failed_S_OK, hrest]

theorem fillArguments_stop (nIndex : Nat) (hr : HRESULT) (slots : List (Option Nat))
    (h : buf[pwsz]? = some NUL) :
    fillArguments buf pwsz cchMax nIndex hr slots = .ok (hr, slots, []) := by
  unfold fillArguments
  split
  next hnone => simp [hnone] at h
  next c hc =>
    rw [h] at hc
    simp [← Option.some.inj hc]

theorem fillArguments_step {nIndex : Nat} (hr : HRESULT) {slots : List (Option Nat)}
    {result : HRESULT × List (Option Nat) × List Visit} (h : buf[pwsz]? = some c) (hc : c ≠ NUL)
    (hlength : stringCchLengthW buf pwsz cchMax = .ok (S_OK, cchArg)) (hslot : nIndex < slots.length)
    (hrest : fillArguments buf (pwsz + (cchArg + 1))
      (sizeSub cchMax ((cchArg % 2 ^ 32 + 1) % 2 ^ 32)) ((nIndex + 1) % 2 ^ 32) S_OK
      (slots.set nIndex (some pwsz)) = .ok result) :
    fillArguments buf pwsz cchMax nIndex hr slots
      = .ok (result.1, result.2.1, ⟨pwsz, cchMax, cchArg⟩ :: result.2.2) := by
  unfold fillArguments
  split
  next hnone => simp [hnone] at h
  next c' hc' =>
    obtain rfl : c' = c := Option.some.inj (hc'.symm.trans h)
    simp only [hc, if_false, hlength, not_failed_S_OK, storeArgument, hslot, if_true, hrest]

end Unfolding

/-! ### The passes on data at an offset -/

theorem drop_of_drop_eq {buf segment rest : List WCHAR} {pos : Nat}
    (h : buf.drop pos = segment ++ NUL :: rest) : buf.drop (pos + (segment.length + 1)) = rest := by
  rw [← List.drop_drop, h, ← List.singleton_append, ← List.append_assoc]
  apply List.drop_left'
  simp

/-- What a pass sees of data that start with a segment: its first character, its length, and the
data that follow it. -/
theorem visit_of_drop_eq {buf segment rest tail : List WCHAR} {pos cchMax : Nat}
    (hne : segment ≠ []) (hnul : NUL ∉ segment)
    (hdrop : buf.drop pos = (segment ++ NUL :: rest) ++ tail)
    (hcch : cchMax = (segment ++ NUL :: rest).length) (hmax : cchMax ≤ STRSAFE_MAX_CCH) :
    (∃ c, buf[pos]? = some c ∧ c ≠ NUL)
      ∧ stringCchLengthW buf pos cchMax = .ok (S_OK, segment.length)
      ∧ buf.drop (pos + (segment.length + 1)) = rest ++ tail
      ∧ cchMax - (segment.length + 1) = rest.length := by
  have hlength : (segment ++ NUL :: rest).length = segment.length + 1 + rest.length := by
    simp only [List.length_append, List.length_cons]
    omega
  have hsplit : buf.drop pos = segment ++ NUL :: (rest ++ tail) := by simp [hdrop]
  refine ⟨?_, stringCchLengthW_of_drop_eq _ _ hsplit hnul (by omega) hmax, drop_of_drop_eq hsplit,
    by omega⟩
  obtain ⟨c, segment, rfl⟩ := List.exists_cons_of_ne_nil hne
  refine ⟨c, getElem?_of_drop_eq hsplit, ?_⟩
  intro heq
  exact hnul (heq ▸ List.mem_cons_self)

theorem countArguments_eq {data : List WCHAR} (h : EndsTerminated NUL data) :
    ∀ (buf tail : List WCHAR) (pos cchMax cArgs : Nat), buf.drop pos = data ++ tail →
      cchMax = data.length → cchMax ≤ STRSAFE_MAX_CCH →
      countArguments buf pos cchMax cArgs S_OK = .ok (S_OK, cArgs + (leadingRun NUL data).length,
        visitsFrom pos cchMax (leadingRun NUL data)) := by
  induction h using EndsTerminated.walk with
  | stop rest _ =>
      intro buf tail pos cchMax cArgs hdrop _ _
      rw [leadingRun_sep_cons, countArguments_stop cArgs S_OK (getElem?_of_drop_eq hdrop)]
      rfl
  | step segment rest hne hnul _ _ ih =>
      intro buf tail pos cchMax cArgs hdrop hcch hmax
      have hle : cchMax < 2 ^ 64 := Nat.lt_of_le_of_lt hmax (by decide)
      obtain ⟨⟨c, hc, hcne⟩, hlength, hdrop', hcch'⟩ := visit_of_drop_eq hne hnul hdrop hcch hmax
      have hsub : sizeSub cchMax (segment.length + 1) = cchMax - (segment.length + 1) :=
        sizeSub_of_le (by simp [hcch]) hle
      have hrest := ih _ _ _ _ (cArgs + 1) hdrop' hcch' (by omega)
      have hcount : cArgs + 1 + (leadingRun NUL rest).length
          = cArgs + ((leadingRun NUL rest).length + 1) := by omega
      rw [← hsub, hcount] at hrest
      rw [leadingRun_append hne hnul, countArguments_step cArgs S_OK hc hcne hlength hrest, visitsFrom,
        List.length_cons, ← hsub]

theorem fillArguments_eq {data : List WCHAR} (h : EndsTerminated NUL data) :
    ∀ (buf tail : List WCHAR) (pos cchMax : Nat) (stored : List (Option Nat)),
      buf.drop pos = data ++ tail → cchMax = data.length → cchMax ≤ STRSAFE_MAX_CCH →
      stored.length + (leadingRun NUL data).length < 2 ^ 32 →
      fillArguments buf pos cchMax stored.length S_OK
          (stored ++ List.replicate (leadingRun NUL data).length none)
        = .ok (S_OK, stored ++ (visitsFrom pos cchMax (leadingRun NUL data)).map (some ·.offset),
            visitsFrom pos cchMax (leadingRun NUL data)) := by
  induction h using EndsTerminated.walk with
  | stop rest _ =>
      intro buf tail pos cchMax stored hdrop _ _ _
      rw [leadingRun_sep_cons, fillArguments_stop _ S_OK _ (getElem?_of_drop_eq hdrop)]
      rfl
  | step segment rest hne hnul _ _ ih =>
      intro buf tail pos cchMax stored hdrop hcch hmax hslots
      have hle : cchMax < 2 ^ 32 := Nat.lt_of_le_of_lt hmax (by decide)
      obtain ⟨⟨c, hc, hcne⟩, hlength, hdrop', hcch'⟩ := visit_of_drop_eq hne hnul hdrop hcch hmax
      rw [leadingRun_append hne hnul, List.length_cons] at hslots ⊢
      have hle' : segment.length + 1 ≤ cchMax := by simp [hcch]
      have hsub : sizeSub cchMax ((segment.length % 2 ^ 32 + 1) % 2 ^ 32)
          = cchMax - (segment.length + 1) := by
        rw [Nat.mod_eq_of_lt (by omega : segment.length < 2 ^ 32), Nat.mod_eq_of_lt (by omega)]
        exact sizeSub_of_le hle' (by omega)
      have hindex : (stored.length + 1) % 2 ^ 32 = (stored ++ [some pos]).length := by
        rw [Nat.mod_eq_of_lt (by omega), List.length_append, List.length_singleton]
      have hset : (stored ++ List.replicate ((leadingRun NUL rest).length + 1) none).set stored.length
          (some pos) = (stored ++ [some pos]) ++ List.replicate (leadingRun NUL rest).length none := by
        simp [List.replicate_succ]
      have hrest := ih _ _ _ _ (stored ++ [some pos]) hdrop' hcch' (by omega)
        (by rw [List.length_append, List.length_singleton]; omega)
      rw [← hset, ← hindex, ← hsub] at hrest
      rw [fillArguments_step S_OK hc hcne hlength (by simp) hrest, visitsFrom, ← hsub]
      simp

/-! ### What the passes walked over -/

/-- A visit never underflows the count, which stays the number of characters from its offset on. -/
theorem visitsFrom_bounds {data : List WCHAR} (h : EndsTerminated NUL data) :
    ∀ (pos cchMax : Nat), cchMax = data.length →
      ∀ v ∈ visitsFrom pos cchMax (leadingRun NUL data),
        v.cchArg + 1 ≤ v.cchMax ∧ v.offset + v.cchMax = pos + cchMax := by
  induction h using EndsTerminated.walk with
  | stop rest _ =>
      intro pos cchMax _ v hv
      rw [leadingRun_sep_cons] at hv
      cases hv
  | step segment rest hne hnul _ _ ih =>
      intro pos cchMax hcch v hv
      have hle : cchMax = segment.length + 1 + rest.length := by
        rw [hcch, List.length_append, List.length_cons]
        omega
      rw [leadingRun_append hne hnul, visitsFrom, List.mem_cons] at hv
      rcases hv with rfl | hv
      · exact ⟨by simp [hle], rfl⟩
      · obtain ⟨hcount, hoffset⟩ := ih (pos + (segment.length + 1)) (cchMax - (segment.length + 1))
          (by omega) v hv
        exact ⟨hcount, by omega⟩

theorem le_offset_of_mem_visitsFrom {segments : List (List WCHAR)} {pos cchMax : Nat} {v : Visit}
    (hv : v ∈ visitsFrom pos cchMax segments) : pos ≤ v.offset := by
  induction segments generalizing pos cchMax with
  | nil => cases hv
  | cons segment rest ih =>
      rcases List.mem_cons.mp hv with rfl | hv
      · exact le_rfl
      · have hle := ih hv
        omega

theorem visitsFrom_pairwise (segments : List (List WCHAR)) (pos cchMax : Nat) :
    (visitsFrom pos cchMax segments).Pairwise (·.offset < ·.offset) := by
  induction segments generalizing pos cchMax with
  | nil => exact List.Pairwise.nil
  | cons segment rest ih =>
      rw [visitsFrom, List.pairwise_cons]
      refine ⟨?_, ih _ _⟩
      intro v hv
      have hle := le_offset_of_mem_visitsFrom hv
      change pos < v.offset
      omega

theorem mapM_argumentAt_visitsFrom {data : List WCHAR} (h : EndsTerminated NUL data) :
    ∀ (buf tail : List WCHAR) (pos cchMax : Nat), buf.drop pos = data ++ tail →
      ∃ strings : List WStr, strings.map WStr.units = leadingRun NUL data
        ∧ ((visitsFrom pos cchMax (leadingRun NUL data)).map (some ·.offset)).mapM (argumentAt buf)
          = .ok (strings.map .str) := by
  induction h using EndsTerminated.walk with
  | stop rest _ =>
      intro buf tail pos cchMax _
      rw [leadingRun_sep_cons]
      exact ⟨[], rfl, rfl⟩
  | step segment rest hne hnul _ _ ih =>
      intro buf tail pos cchMax hdrop
      have hsplit : buf.drop pos = segment ++ NUL :: (rest ++ tail) := by simp [hdrop]
      obtain ⟨strings, hstrings, hmap⟩ :=
        ih buf tail _ (cchMax - (segment.length + 1)) (drop_of_drop_eq hsplit)
      have hhead : argumentAt buf (some pos) = .ok (.str ⟨segment, hnul⟩) := by
        rw [argumentAt, hsplit]
        exact congrArg Except.ok (LPCWSTR.ofCells_append_nul ⟨segment, hnul⟩ _)
      rw [leadingRun_append hne hnul]
      refine ⟨⟨segment, hnul⟩ :: strings, by rw [List.map_cons, hstrings], ?_⟩
      rw [visitsFrom, List.map_cons, List.mapM_cons, hhead, hmap]
      rfl

end CEventProcessorConfig

namespace MultiString

open CEventProcessorConfig

/-- The data of the value: the characters the count covers. -/
def data (value : MultiString) : List WCHAR := value.buf.take value.cch

theorem data_length (value : MultiString) : value.data.length = value.cch :=
  List.length_take_of_le value.le

theorem endsTerminated (value : MultiString) : EndsTerminated NUL value.data := by
  have hpos := value.pos
  constructor
  · rw [List.getLast?_eq_getElem?, data_length, data, List.getElem?_take_of_lt (by omega)]
    exact value.last
  · rw [data_length]
    intro hlong
    rw [data, List.getElem?_take_of_lt (by omega)]
    exact value.lastTwo hlong

theorem cch_le (value : MultiString) : value.cch ≤ g_cbRegValueBuffer :=
  value.length ▸ value.le

def visits (value : MultiString) : List Visit :=
  visitsFrom 0 value.cch (leadingRun NUL value.data)

theorem passes_eq (value : MultiString) {buf tail : List WCHAR} (hdrop : buf.drop 0 = value.data ++ tail) :
    countArguments buf 0 value.cch 0 S_OK = .ok (S_OK, value.visits.length, value.visits)
      ∧ fillArguments buf 0 value.cch 0 S_OK (List.replicate value.visits.length none)
        = .ok (S_OK, value.visits.map (some ·.offset), value.visits) := by
  have hends := value.endsTerminated
  have hmax : value.cch ≤ STRSAFE_MAX_CCH := value.cch_le.trans (by decide)
  have hlength : value.visits.length = (leadingRun NUL value.data).length := visitsFrom_length _ _ _
  rw [hlength]
  refine ⟨?_, fillArguments_eq hends buf tail 0 value.cch [] hdrop value.data_length.symm hmax ?_⟩
  · rw [countArguments_eq hends buf tail 0 value.cch 0 hdrop value.data_length.symm hmax, Nat.zero_add]
    rfl
  · have hrun := hends.leadingRun_length_lt
    rw [value.data_length] at hrun
    rw [List.length_nil, Nat.zero_add]
    exact Nat.lt_of_lt_of_le (Nat.lt_of_lt_of_le hrun hmax) (by decide)

theorem buf_drop (value : MultiString) :
    value.buf.drop 0 = value.data ++ value.buf.drop value.cch :=
  (List.take_append_drop _ _).symm

theorem exists_strings (value : MultiString) :
    ∃ strings : List WStr, strings.map WStr.units = leadingRun NUL value.data
      ∧ (value.visits.map (some ·.offset)).mapM (argumentAt value.buf) = .ok (strings.map .str) :=
  mapM_argumentAt_visitsFrom value.endsTerminated _ _ 0 value.cch value.buf_drop

end MultiString

namespace CEventProcessorConfig

/-- The characters of the buffer `ExePath` was read into: the stored bytes, and behind them whatever
the fresh block held. -/
def exePathBuffer (value : RegistryValue) (garbage : Nat → BYTE) : List WCHAR :=
  unitsOfBytes (value.data
    ++ ((List.range (2 * g_cbRegValueBuffer)).map garbage).drop value.data.length)

theorem readArguments_of_value (config : CEventProcessorConfig) {o : RegistryOutcomes}
    {value : MultiString} (hquery : o.queryArguments = .ok value) (hdata : o.allocArgData = true)
    (halloc : o.allocArguments = true) :
    readArguments config o = .ok (S_OK, { config with
      bufArgData := some value.buf, bufArguments := some (value.visits.map (some ·.offset)) }) := by
  obtain ⟨hcount, hfill⟩ := value.passes_eq value.buf_drop
  simp only [readArguments, hdata, hquery, hcount, halloc, bind, Except.bind]
  rw [hfill]
  rfl

theorem readArguments_cases (config : CEventProcessorConfig) (o : RegistryOutcomes) :
    (∃ hr config', FAILED hr ∧ readArguments config o = .ok (hr, config')) ∨
    (∃ e, o.queryArguments = .error e ∧ readArguments config o = .ok (S_OK, config)) ∨
    ∃ value, o.queryArguments = .ok value ∧ readArguments config o = .ok (S_OK, { config with
      bufArgData := some value.buf, bufArguments := some (value.visits.map (some ·.offset)) }) := by
  cases hdata : o.allocArgData with
  | false =>
      exact Or.inl ⟨E_OUTOFMEMORY, config, failed_E_OUTOFMEMORY, by
        simp only [readArguments, hdata]; rfl⟩
  | true =>
      cases hquery : o.queryArguments with
      | error e =>
          refine Or.inr (Or.inl ⟨e, rfl, ?_⟩)
          simp only [readArguments, hdata, hquery]
          rfl
      | ok value =>
          cases halloc : o.allocArguments with
          | false =>
              have hcount := (value.passes_eq value.buf_drop).1
              refine Or.inl ⟨E_OUTOFMEMORY, { config with bufArgData := some value.buf },
                failed_E_OUTOFMEMORY, ?_⟩
              simp only [readArguments, hdata, hquery, hcount, halloc]
              rfl
          | true =>
              exact Or.inr (Or.inr ⟨value, rfl, readArguments_of_value config hquery hdata halloc⟩)

theorem readEscapeForPS_of_error {config : CEventProcessorConfig} {o : RegistryOutcomes}
    {e : Win32Error} (h : o.queryEscapeForPS = .error e) : config.readEscapeForPS o = config := by
  rw [readEscapeForPS, h]

theorem readEscapeForPS_of_ok {config : CEventProcessorConfig} {o : RegistryOutcomes}
    {dwEscapeForPS : DWORD} (h : o.queryEscapeForPS = .ok dwEscapeForPS) :
    config.readEscapeForPS o = { config with fEscapeForPS := dwEscapeForPS ≠ 0 } := by
  rw [readEscapeForPS, h]

theorem readEscapeForPS_eq (config : CEventProcessorConfig) (o : RegistryOutcomes) :
    config.readEscapeForPS o
      = { config with fEscapeForPS := (config.readEscapeForPS o).fEscapeForPS } := by
  cases h : o.queryEscapeForPS with
  | error e => rw [readEscapeForPS_of_error h]
  | ok dwEscapeForPS => rw [readEscapeForPS_of_ok h]

def withExePath (value : RegistryValue) (garbage : Nat → BYTE) : CEventProcessorConfig :=
  { strExePath := some (exePathBuffer value garbage) }

theorem init_exePath_cases (o : RegistryOutcomes) :
    (∃ hr config, FAILED hr ∧ init {} o = .ok (hr, config)) ∨
    ∃ value garbage, o.queryExePath = .ok value ∧ o.allocExePath = some garbage
      ∧ init {} o = ((withExePath value garbage).readEscapeForPS o).readArguments o := by
  by_cases hopen : o.openKey = ERROR_SUCCESS
  swap
  · exact Or.inl ⟨_, _, failed_HRESULT_FROM_WIN32_iff.mpr hopen, by rw [init, if_pos hopen]; rfl⟩
  cases halloc : o.allocExePath with
  | none =>
      exact Or.inl ⟨E_OUTOFMEMORY, {}, failed_E_OUTOFMEMORY, by simp [init, hopen, halloc]; rfl⟩
  | some garbage =>
  cases hquery : o.queryExePath with
  | error e =>
      exact Or.inl ⟨_, _, e.failed, by simp [init, hopen, halloc, hquery]; rfl⟩
  | ok value =>
  by_cases htype : value.dwType ≠ REG_SZ ∧ value.dwType ≠ REG_EXPAND_SZ
  · exact Or.inl ⟨E_UNEXPECTED, _, failed_E_UNEXPECTED, by
      simp [init, hopen, halloc, hquery, htype]; rfl⟩
  · refine Or.inr ⟨value, garbage, rfl, rfl, ?_⟩
    simp only [init, hopen, halloc, hquery, htype]
    rfl

/-- `Init` of a fresh configuration never faults, and when it succeeds the EXE path is what was read
and every argument is a string. -/
theorem init_cases (o : RegistryOutcomes) :
    ∃ hr config, init {} o = .ok (hr, config) ∧
      (FAILED hr ∨ hr = S_OK ∧ ∃ (value : RegistryValue) (garbage : Nat → BYTE)
        (strings : List WStr), o.queryExePath = .ok value ∧ o.allocExePath = some garbage
        ∧ config.strExePath = some (exePathBuffer value garbage)
        ∧ config.getArguments = .ok (strings.map .str)) := by
  rcases init_exePath_cases o with ⟨hr, config, hfailed, hrun⟩ | ⟨value, garbage, hquery, halloc, hrun⟩
  · exact ⟨hr, config, hrun, Or.inl hfailed⟩
  rw [readEscapeForPS_eq] at hrun
  rcases readArguments_cases _ o with ⟨hr, config, hfailed, hread⟩ | ⟨e, -, hread⟩ | ⟨answer, -, hread⟩
  · exact ⟨hr, config, hrun.trans hread, Or.inl hfailed⟩
  · exact ⟨S_OK, _, hrun.trans hread, Or.inr ⟨rfl, value, garbage, [], hquery, halloc, rfl, rfl⟩⟩
  · obtain ⟨strings, -, hstrings⟩ := answer.exists_strings
    exact ⟨S_OK, _, hrun.trans hread,
      Or.inr ⟨rfl, value, garbage, strings, hquery, halloc, rfl, hstrings⟩⟩

end CEventProcessorConfig

namespace MultiString

open CEventProcessorConfig

/-- **The decoding of `MULTI_SZ` data.** On every buffer the registry answers, whatever lies behind
the data, both passes succeed, and do so on the data alone, so they read nothing behind it. They walk
over the same strings, without underflow of the count; the second pass stores the offset of each to
a slot of its own; and the arguments `Init` is left with are the maximal leading run of non-empty
strings of the data, which inverts the standard encoding. -/
theorem passes_decode (value : MultiString) :
    ∃ (visits : List Visit) (strings : List WStr),
      (∀ buf ∈ [value.buf, value.data],
        countArguments buf 0 value.cch 0 S_OK = .ok (S_OK, visits.length, visits)
        ∧ fillArguments buf 0 value.cch 0 S_OK (List.replicate visits.length none)
          = .ok (S_OK, visits.map (some ·.offset), visits))
      ∧ (∀ v ∈ visits, v.cchArg + 1 ≤ v.cchMax ∧ v.offset + v.cchMax = value.cch)
      ∧ visits.Pairwise (·.offset < ·.offset)
      ∧ (∀ (config : CEventProcessorConfig) (o : RegistryOutcomes), o.queryArguments = .ok value →
        o.allocArgData = true → o.allocArguments = true →
        ∃ config', readArguments config o = .ok (S_OK, config')
          ∧ config'.bufArguments = some (visits.map (some ·.offset))
          ∧ config'.getArguments = .ok (strings.map .str))
      ∧ strings.map WStr.units = (value.data.splitOn NUL).takeWhile (· ≠ [])
      ∧ ∀ values : List WStr, (∀ s ∈ values, s.units ≠ []) →
        value.data = encodeSegments NUL (values.map WStr.units) → strings = values := by
  obtain ⟨strings, hstrings, hmap⟩ := value.exists_strings
  refine ⟨value.visits, strings, ?_, ?_, visitsFrom_pairwise _ _ _, ?_, hstrings, ?_⟩
  · rw [List.forall_mem_cons, List.forall_mem_singleton]
    exact ⟨value.passes_eq value.buf_drop, value.passes_eq (List.append_nil _).symm⟩
  · intro v hv
    have hbounds := visitsFrom_bounds value.endsTerminated 0 value.cch value.data_length.symm v hv
    rwa [Nat.zero_add] at hbounds
  · intro config o hquery hdata halloc
    exact ⟨_, readArguments_of_value config hquery hdata halloc, rfl, hmap⟩
  · intro values hvalues hencoded
    apply List.map_injective_iff.mpr WStr.units_injective
    rw [hstrings, hencoded, leadingRun_encodeSegments]
    rw [List.forall_mem_map]
    intro s hs
    exact ⟨hvalues s hs, s.nulFree⟩

end MultiString

end PmiExitModule
