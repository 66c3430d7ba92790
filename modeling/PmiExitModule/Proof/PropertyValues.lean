import PmiExitModule.Proof.Faults
import PmiExitModule.Proof.Notify

/-!
# The property values of the CA

A string property is copied whatever the type of its variant is, and the null `BSTR`, which is the empty
string of COM, is copied to a null pointer with a success code. What the CA answers is handed to the event
processor as two strings exactly when it avoids these cases on the paths that get that far; then no pointer
that is null or no pointer at all is followed anywhere in the notification.
-/

namespace PmiExitModule

open Generic

/-! ### The copy of a string -/

theorem unitsOfBytes_length : ∀ bytes : List BYTE, (unitsOfBytes bytes).length = bytes.length / 2
  | [] => rfl
  | [_] => by simp [unitsOfBytes]
  | low :: high :: rest => by
      rw [unitsOfBytes, List.length_cons, unitsOfBytes_length rest, List.length_cons, List.length_cons]
      omega

/-- The characters that lie behind the pointer of a `BSTR` of these bytes. -/
def bstrUnits (data : List BYTE) : List WCHAR := unitsOfBytes (data ++ [0, 0])

theorem bstrUnits_length (data : List BYTE) : (bstrUnits data).length = data.length / 2 + 1 := by
  rw [bstrUnits, unitsOfBytes_length, List.length_append]
  exact Nat.add_div_right _ (by decide)

/-- The payload is copied without a failure: it is null, or there is memory for it, it is short enough
and a terminator comes within its characters. -/
def BSTR.Copies (heap : HeapOutcome WCHAR) : BSTR → Prop
  | .null => True
  | .bytes data => heap ≠ none ∧ data.length / 2 < STRSAFE_MAX_CCH ∧ NUL ∈ bstrUnits data
  | .wild => False

theorem untilNul_length_lt {units : List WCHAR} (hnul : NUL ∈ units) :
    (untilNul units).length < units.length := by
  obtain ⟨before, after, rfl, hbefore⟩ := List.eq_append_cons_of_mem hnul
  rw [untilNul_append_nul ⟨before, hbefore⟩ after, List.length_append, List.length_cons]
  exact Nat.lt_add_of_pos_right (Nat.succ_pos _)

theorem stringCchCopyW_of_refused {cells : List WCHAR} (hmax : ¬ cells.length ≤ STRSAFE_MAX_CCH)
    (src : LPCWSTR) : stringCchCopyW cells src = .ok (STRSAFE_E_INVALID_PARAMETER, cells) := by
  rw [stringCchCopyW, stringCchCopyExW, if_pos (Or.inr (Nat.lt_of_not_le hmax))]
  rfl

theorem failed_stringCchCopyW_unterminated {cells units : List WCHAR} (hne : cells ≠ [])
    (hlength : units.length = cells.length) :
    ∃ hr cells', FAILED hr ∧ stringCchCopyW cells (.unterminated units) = .ok (hr, cells') := by
  by_cases hmax : cells.length ≤ STRSAFE_MAX_CCH
  swap
  · exact ⟨_, cells, failed_STRSAFE_E_INVALID_PARAMETER, stringCchCopyW_of_refused hmax _⟩
  have hpos : 0 < cells.length := List.length_pos_iff.mpr hne
  have hvalid : ¬ (cells.length = 0 ∨ STRSAFE_MAX_CCH < cells.length) := by omega
  have hread : (LPCWSTR.unterminated units).read cells.length = .ok units := by
    rw [LPCWSTR.read, if_pos hlength.ge, List.take_of_length_le hlength.le]
  have hfits : 0 + (units.take (cells.length - 1) ++ [NUL]).length ≤ cells.length := by
    simp only [List.length_append, List.length_take, List.length_singleton]
    omega
  obtain ⟨stored, hstored⟩ : ∃ stored, store cells 0 (units.take (cells.length - 1) ++ [NUL])
      = .ok stored := ⟨_, store_eq hfits⟩
  refine ⟨STRSAFE_E_INSUFFICIENT_BUFFER, stored, failed_STRSAFE_E_INSUFFICIENT_BUFFER, ?_⟩
  simp only [stringCchCopyW, stringCchCopyExW, hvalid, if_false, hread, bind, Except.bind, hstored,
    hlength, lt_irrefl, pure, Except.pure]

theorem CHeapBuffer.copy_of_stringCchCopyW {data : List BYTE} {garbage : Nat → WCHAR} {hr : HRESULT}
    {cells' : List WCHAR}
    (h : stringCchCopyW ((List.range (data.length / 2 + 1)).map garbage) (.ofCells (bstrUnits data))
      = .ok (hr, cells')) :
    CHeapBuffer.copy none (.bytes data) (some garbage) = .ok (hr, some cells') := by
  unfold bstrUnits at h
  simp only [CHeapBuffer.copy, BSTR.sysStringLen, BSTR.sysStringByteLen, BSTR.toPointer, Except.map,
    heapAlloc_some, bind, Except.bind, h, reduceCtorEq, if_false]
  rfl

theorem CHeapBuffer.copy_cases (bstr : BSTR) (heap : HeapOutcome WCHAR) :
    (bstr = .wild ∧ CHeapBuffer.copy none bstr heap = .error .wildPointer) ∨
    (bstr = .null ∧ CHeapBuffer.copy none bstr heap = .ok (S_OK, none)) ∨
    (∃ data buf, bstr = .bytes data ∧ bstr.Copies heap
      ∧ CHeapBuffer.copy none bstr heap = .ok (S_OK, buf)
      ∧ buf.get = .str (untilNul (bstrUnits data))) ∨
    (∃ hr buf, bstr ≠ .wild ∧ ¬ bstr.Copies heap ∧ FAILED hr
      ∧ CHeapBuffer.copy none bstr heap = .ok (hr, buf)) := by
  cases bstr with
  | null => exact Or.inr (Or.inl ⟨rfl, rfl⟩)
  | wild => exact Or.inl ⟨rfl, rfl⟩
  | bytes data =>
      right; right
      cases heap with
      | none =>
          refine Or.inr ⟨E_OUTOFMEMORY, none, by simp, ?_, failed_E_OUTOFMEMORY, rfl⟩
          intro h
          exact h.1 rfl
      | some garbage =>
          have hcopy := @CHeapBuffer.copy_of_stringCchCopyW data garbage
          set cells := (List.range (data.length / 2 + 1)).map garbage with hcells
          have hlength : cells.length = data.length / 2 + 1 := by simp [hcells]
          by_cases hmax : cells.length ≤ STRSAFE_MAX_CCH
          swap
          · refine Or.inr ⟨_, _, by simp, ?_, failed_STRSAFE_E_INVALID_PARAMETER,
              hcopy (stringCchCopyW_of_refused hmax _)⟩
            intro h
            apply hmax
            rw [hlength]
            exact h.2.1
          by_cases hnul : NUL ∈ bstrUnits data
          · rw [LPCWSTR.ofCells, if_pos hnul] at hcopy
            have hshort := untilNul_length_lt hnul
            rw [bstrUnits_length, ← hlength] at hshort
            obtain ⟨cells', hrun, hget⟩ := stringCchCopyW_of_fits hshort hmax
            exact Or.inl ⟨data, some cells', rfl, ⟨by simp, by omega, hnul⟩, hcopy hrun, hget⟩
          · rw [LPCWSTR.ofCells, if_neg hnul] at hcopy
            obtain ⟨hr, cells', hfailed, hrun⟩ := failed_stringCchCopyW_unterminated
              (List.length_pos_iff.mp (by omega)) ((bstrUnits_length data).trans hlength.symm)
            refine Or.inr ⟨hr, some cells', by simp, ?_, hfailed, hcopy hrun⟩
            intro h
            exact hnul h.2.2

/-! ### The answers of the CA -/

/-- The string was taken from this variant, which is a `BSTR`. -/
def VARIANT.Yields (var : VARIANT) (pwsz : LPCWSTR) : Prop :=
  var.vt = VT_BSTR ∧ ∃ data, var.bstrVal = .bytes data ∧ pwsz = .str (untilNul (bstrUnits data))

namespace CCertServerExit

variable (server : CCertServerExit) (o : ServerOutcomes)

/-- The CA answers a property with a success code. -/
def Answers (name : PropertyName) (ePropType : CertServerPropType) : Prop :=
  server.ptrInner = true ∧ ¬ FAILED (o.property name ePropType).append
    ∧ ¬ FAILED (o.property name ePropType).getCertificateProperty

def stringVariant (o : ServerOutcomes) (name : PropertyName) : VARIANT :=
  (o.property name .PropTypeString).varResult

/-- A string property is answered, and its payload is copied without a failure. -/
def ReadsString (name : PropertyName) : Prop :=
  server.Answers o name .PropTypeString ∧ (stringVariant o name).bstrVal.Copies (o.allocString name)

/-- The raw certificate is answered as a `BSTR`, and there is memory for it. -/
def ReadsRawCert : Prop :=
  server.Answers o .wszPROPRAWCERTIFICATE .PropTypeBinary
    ∧ (o.property .wszPROPRAWCERTIFICATE .PropTypeBinary).varResult.vt = VT_BSTR
    ∧ o.allocRawCert = true

variable {server o} {name : PropertyName} {ePropType : CertServerPropType}

theorem getCertificateProperty_of_answers (h : server.Answers o name ePropType) :
    server.getCertificateProperty o name ePropType
      = ((o.property name ePropType).getCertificateProperty,
          some (o.property name ePropType).varResult) := by
  obtain ⟨hptr, happend, hget⟩ := h
  simp only [getCertificateProperty, hptr, happend, hget, Bool.not_true, Bool.false_eq_true, if_false]

theorem getCertificateProperty_of_not_answers (h : ¬ server.Answers o name ePropType) :
    ∃ hr, FAILED hr ∧ server.getCertificateProperty o name ePropType = (hr, none) := by
  unfold getCertificateProperty
  by_cases hptr : server.ptrInner = true
  swap
  · exact ⟨_, by decide, if_pos (by simpa using hptr)⟩
  rw [if_neg (by simp [hptr])]
  by_cases happend : FAILED (o.property name ePropType).append
  · exact ⟨_, happend, if_pos happend⟩
  rw [if_neg happend]
  by_cases hget : FAILED (o.property name ePropType).getCertificateProperty
  · exact ⟨_, hget, if_pos hget⟩
  · exact absurd ⟨hptr, happend, hget⟩ h

variable (server o name)

theorem getCertificateStringProperty_cases :
    (server.Answers o name .PropTypeString ∧ (stringVariant o name).bstrVal = .wild
      ∧ server.getCertificateStringProperty o name = .error .wildPointer) ∨
    (∃ buf, server.ReadsString o name ∧ (stringVariant o name).bstrVal ≠ .wild
      ∧ server.getCertificateStringProperty o name = .ok (S_OK, buf)
      ∧ ((stringVariant o name).Yields buf.get
        ↔ (stringVariant o name).vt = VT_BSTR ∧ (stringVariant o name).bstrVal ≠ .null)) ∨
    (∃ hr buf, ¬ server.ReadsString o name
      ∧ (server.Answers o name .PropTypeString → (stringVariant o name).bstrVal ≠ .wild)
      ∧ FAILED hr ∧ server.getCertificateStringProperty o name = .ok (hr, buf)) := by
  by_cases hanswers : server.Answers o name .PropTypeString
  · have hread : server.getCertificateStringProperty o name
        = CHeapBuffer.copy none (stringVariant o name).bstrVal (o.allocString name) := by
      rw [getCertificateStringProperty, getCertificateProperty_of_answers hanswers]
      rfl
    rw [hread]
    rcases CHeapBuffer.copy_cases (stringVariant o name).bstrVal (o.allocString name) with
      ⟨hwild, hcopy⟩ | ⟨hnull, hcopy⟩ | ⟨data, buf, hbytes, hcopies, hcopy, hget⟩
        | ⟨hr, buf, hwild, hcopies, hfailed, hcopy⟩
    · exact Or.inl ⟨hanswers, hwild, hcopy⟩
    · refine Or.inr (Or.inl ⟨none, ⟨hanswers, hnull.symm ▸ trivial⟩, by simp [hnull], hcopy, ?_⟩)
      simp [VARIANT.Yields, hnull]
    · refine Or.inr (Or.inl ⟨buf, ⟨hanswers, hcopies⟩, by simp [hbytes], hcopy, ?_⟩)
      simp [VARIANT.Yields, hbytes, hget]
    · refine Or.inr (Or.inr ⟨hr, buf, ?_, fun _ => hwild, hfailed, hcopy⟩)
      intro h
      exact hcopies h.2
  · obtain ⟨hr, hfailed, hget⟩ := getCertificateProperty_of_not_answers hanswers
    refine Or.inr (Or.inr ⟨hr, none, ?_, ?_, hfailed, ?_⟩)
    · intro h
      exact hanswers h.1
    · intro h
      exact absurd h hanswers
    · rw [getCertificateStringProperty, hget]

theorem getRawCertificateProperty_cases :
    (∃ hr data, server.ReadsRawCert o ∧ ¬ FAILED hr
      ∧ bstrBytes (o.property .wszPROPRAWCERTIFICATE .PropTypeBinary).varResult.bstrVal = .ok data
      ∧ server.getRawCertificateProperty o = .ok (hr, some data)) ∨
    ∃ hr, ¬ server.ReadsRawCert o ∧ FAILED hr
      ∧ server.getRawCertificateProperty o = .ok (hr, none) := by
  by_cases hanswers : server.Answers o .wszPROPRAWCERTIFICATE .PropTypeBinary
  swap
  · obtain ⟨hr, hfailed, hget⟩ := getCertificateProperty_of_not_answers hanswers
    refine Or.inr ⟨hr, ?_, hfailed, ?_⟩
    · intro h
      exact hanswers h.1
    · rw [getRawCertificateProperty, hget]
  have hget := getCertificateProperty_of_answers hanswers
  set var := (o.property .wszPROPRAWCERTIFICATE .PropTypeBinary).varResult with hvar
  by_cases htype : var.vt = VT_BSTR
  swap
  · refine Or.inr ⟨HRESULT_FROM_WIN32 ERROR_INVALID_DATA, ?_, by decide, ?_⟩
    · intro h
      exact htype h.2.1
    · rw [getRawCertificateProperty, hget]
      exact if_pos htype
  obtain ⟨data, hdata⟩ : ∃ data, bstrBytes var.bstrVal = .ok data := by
    have hwild := var.wellTyped htype
    cases hbstr : var.bstrVal with
    | null => exact ⟨[], rfl⟩
    | bytes data => exact ⟨data, rfl⟩
    | wild => exact absurd hbstr hwild
  cases halloc : o.allocRawCert with
  | true =>
      refine Or.inl ⟨_, data, ⟨hanswers, htype, halloc⟩, hanswers.2.2, hdata, ?_⟩
      simp only [getRawCertificateProperty, hget, htype, ne_eq, not_true_eq_false, if_false, hdata,
        halloc]
      rfl
  | false =>
      refine Or.inr ⟨E_OUTOFMEMORY, ?_, failed_E_OUTOFMEMORY, ?_⟩
      · intro h
        simp [h.2.2] at halloc
      · simp only [getRawCertificateProperty, hget, htype, ne_eq, not_true_eq_false, if_false, hdata,
          halloc]
        rfl

end CCertServerExit

namespace CPMICertExit

open CCertServerExit PropertyName

def LoadsConfig (o : NotifyOutcomes) : Prop :=
  ∃ config, CEventProcessorConfig.init {} o.registry = .ok (S_OK, config)

/-- What the CA has to avoid: a payload that is no `BSTR` at all, in a property that is read; and,
where everything that is read before the event processor is notified is read without a failure, a
string property that is not a `BSTR` or is a null one. -/
structure SafeValues (objServer : CCertServerExit) (o : NotifyOutcomes) : Prop where
  identifier : objServer.Answers o.server wszPROPCERTIFICATESUBJECTKEYIDENTIFIER .PropTypeString →
    (stringVariant o.server wszPROPCERTIFICATESUBJECTKEYIDENTIFIER).bstrVal ≠ .wild
  serial : objServer.ReadsString o.server wszPROPCERTIFICATESUBJECTKEYIDENTIFIER →
    objServer.Answers o.server wszPROPCERTIFICATESERIALNUMBER .PropTypeString →
    (stringVariant o.server wszPROPCERTIFICATESERIALNUMBER).bstrVal ≠ .wild
  strings : objServer.ReadsString o.server wszPROPCERTIFICATESUBJECTKEYIDENTIFIER →
    objServer.ReadsString o.server wszPROPCERTIFICATESERIALNUMBER →
    objServer.ReadsRawCert o.server → LoadsConfig o →
    ∀ name ∈ [wszPROPCERTIFICATESUBJECTKEYIDENTIFIER, wszPROPCERTIFICATESERIALNUMBER],
      (stringVariant o.server name).vt = VT_BSTR ∧ (stringVariant o.server name).bstrVal ≠ .null

variable (exit : CPMICertExit)

/-- The reading of an issued certificate stops with a failure code, or hands over two strings that were
taken from `BSTR` variants. -/
def HandsStrings (objServer : CCertServerExit) (o : NotifyOutcomes) : Prop :=
  (∃ hr, FAILED hr ∧ exit.readIssuedCertificate objServer o = .ok (.error hr)) ∨
  ∃ cert, exit.readIssuedCertificate objServer o = .ok (.ok cert)
    ∧ (stringVariant o.server wszPROPCERTIFICATESUBJECTKEYIDENTIFIER).Yields
      cert.pwszSubjectKeyIdentifier
    ∧ (stringVariant o.server wszPROPCERTIFICATESERIALNUMBER).Yields cert.pwszSerialNumber

variable {exit}

theorem not_handsStrings_of_faulted {objServer : CCertServerExit} {o : NotifyOutcomes} {fault : Fault}
    (h : exit.readIssuedCertificate objServer o = .error fault) : ¬ exit.HandsStrings objServer o := by
  rintro (⟨hr, -, hread⟩ | ⟨cert, hread, -⟩)
  · rw [h] at hread
    cases hread
  · rw [h] at hread
    cases hread

theorem handsStrings_iff (objServer : CCertServerExit) (o : NotifyOutcomes) :
    exit.HandsStrings objServer o ↔ SafeValues objServer o := by
  rcases objServer.getCertificateStringProperty_cases o.server
    wszPROPCERTIFICATESUBJECTKEYIDENTIFIER with
    ⟨hanswers, hwild, hski⟩ | ⟨ski, hreadsSki, hskiWild, hski, hskiYields⟩
      | ⟨hr, _, hreadsSki, hskiWild, hfailed, hski⟩
  · apply iff_of_false (not_handsStrings_of_faulted (orBreak_of_faulted hski))
    intro h
    exact h.identifier hanswers hwild
  swap
  · exact iff_of_true (Or.inl ⟨hr, hfailed, orBreak_of_failed hski hfailed⟩)
      ⟨hskiWild, fun h => absurd h hreadsSki, fun h => absurd h hreadsSki⟩
  have hafterSki : exit.readIssuedCertificate objServer o
      = orBreak (objServer.getCertificateSerialNumberProperty o.server) fun strSerialNumber =>
        orBreak (objServer.getRawCertificateProperty o.server) fun buf =>
        orBreak (CEventProcessor.init { objEventSource := exit.objEventSource } o.registry)
          fun objEventProcessor =>
        .ok (.ok ⟨CHeapBuffer.get ski, CHeapBuffer.get strSerialNumber, buf.getD [],
          objEventProcessor⟩) := orBreak_of_succeeded hski not_failed_S_OK
  rcases objServer.getCertificateStringProperty_cases o.server wszPROPCERTIFICATESERIALNUMBER with
    ⟨hanswers, hwild, hserial⟩ | ⟨serial, hreadsSerial, hserialWild, hserial, hserialYields⟩
      | ⟨hr, _, hreadsSerial, hserialWild, hfailed, hserial⟩
  · apply iff_of_false
      (not_handsStrings_of_faulted (hafterSki.trans (orBreak_of_faulted hserial)))
    intro h
    exact h.serial hreadsSki hanswers hwild
  swap
  · exact iff_of_true (Or.inl ⟨hr, hfailed, hafterSki.trans (orBreak_of_failed hserial hfailed)⟩)
      ⟨fun _ => hskiWild, fun _ => hserialWild, fun _ h => absurd h hreadsSerial⟩
  have hafterSerial := hafterSki.trans (orBreak_of_succeeded hserial not_failed_S_OK)
  rcases objServer.getRawCertificateProperty_cases o.server with
    ⟨hr, data, hreadsRaw, hok, -, hraw⟩ | ⟨hr, hreadsRaw, hfailed, hraw⟩
  swap
  · exact iff_of_true (Or.inl ⟨hr, hfailed, hafterSerial.trans (orBreak_of_failed hraw hfailed)⟩)
      ⟨fun _ => hskiWild, fun _ _ => hserialWild, fun _ _ h => absurd h hreadsRaw⟩
  have hafterRaw := hafterSerial.trans (orBreak_of_succeeded hraw hok)
  obtain ⟨hr, config, hconfig, hcases⟩ := CEventProcessorConfig.init_cases o.registry
  have hinit : CEventProcessor.init { objEventSource := exit.objEventSource } o.registry
      = .ok (hr, { objConfig := config, objEventSource := exit.objEventSource }) := by
    simp only [CEventProcessor.init, hconfig]
    rfl
  rcases hcases with hfailed | ⟨rfl, -⟩
  · apply iff_of_true (Or.inl ⟨hr, hfailed, hafterRaw.trans (orBreak_of_failed hinit hfailed)⟩)
    refine ⟨fun _ => hskiWild, fun _ _ => hserialWild, ?_⟩
    rintro - - - ⟨config', hloads⟩
    obtain ⟨rfl, -⟩ := Prod.mk.inj (Except.ok.inj (hconfig.symm.trans hloads))
    exact absurd hfailed not_failed_S_OK
  -- everything is read: what is left is where the two strings came from
  have hread := hafterRaw.trans (orBreak_of_succeeded hinit not_failed_S_OK)
  constructor
  · rintro (⟨hr, -, hread'⟩ | ⟨cert, hread', hyieldsSki, hyieldsSerial⟩)
    · rw [hread] at hread'
      cases hread'
    · obtain rfl := Except.ok.inj (Except.ok.inj (hread.symm.trans hread'))
      refine ⟨fun _ => hskiWild, fun _ _ => hserialWild, ?_⟩
      intro _ _ _ _
      rw [List.forall_mem_cons, List.forall_mem_singleton]
      exact ⟨hskiYields.mp hyieldsSki, hserialYields.mp hyieldsSerial⟩
  · intro h
    have hstrings := h.strings hreadsSki hreadsSerial hreadsRaw ⟨config, hconfig⟩
    rw [List.forall_mem_cons, List.forall_mem_singleton] at hstrings
    exact Or.inr ⟨_, hread, hskiYields.mpr hstrings.1, hserialYields.mpr hstrings.2⟩

theorem bufRawCert_of_readIssuedCertificate {objServer : CCertServerExit} {o : NotifyOutcomes}
    {cert : IssuedCertificate} (h : exit.readIssuedCertificate objServer o = .ok (.ok cert)) :
    bstrBytes (o.server.property .wszPROPRAWCERTIFICATE .PropTypeBinary).varResult.bstrVal
      = .ok cert.bufRawCert := by
  obtain ⟨_, _, -, -, h⟩ := succeeded_of_orBreak h
  obtain ⟨_, _, -, -, h⟩ := succeeded_of_orBreak h
  obtain ⟨hr, buf, hraw, hok, h⟩ := succeeded_of_orBreak h
  obtain ⟨_, _, -, -, h⟩ := succeeded_of_orBreak h
  obtain rfl := Except.ok.inj (Except.ok.inj h)
  rcases objServer.getRawCertificateProperty_cases o.server with
    ⟨hr', data, -, -, hdata, hraw'⟩ | ⟨hr', -, hfailed, hraw'⟩
  · obtain ⟨-, rfl⟩ := Prod.mk.inj (Except.ok.inj (hraw.symm.trans hraw'))
    exact hdata
  · obtain ⟨rfl, -⟩ := Prod.mk.inj (Except.ok.inj (hraw.symm.trans hraw'))
    exact absurd hfailed hok

/-- When two strings are handed over, nothing is read through a null pointer or through a pointer into
nowhere. -/
theorem outOfBounds_of_handsStrings {objServer : CCertServerExit} {o : NotifyOutcomes}
    (h : exit.HandsStrings objServer o) (files : FileSystem) {fault : Fault}
    (hfault : (exit.notifyCertIssuedWith objServer o files).1 = .faulted fault) :
    fault = .outOfBounds := by
  rcases h with ⟨hr, -, hread⟩ | ⟨cert, hread, ⟨-, ski, -, hski⟩, -, serial, -, hserial⟩
  · rw [notifyCertIssuedWith, hread] at hfault
    cases hfault
  · obtain ⟨-, -, _, _, static, -, -, -, hargs⟩ := exit.processor_of_readIssuedCertificate hread
    have hrun : exit.notifyCertIssuedWith objServer o files
        = cert.objEventProcessor.notifyCertIssued cert.pwszSubjectKeyIdentifier cert.pwszSerialNumber
          cert.bufRawCert o.processor files := by
      rw [notifyCertIssuedWith, hread]
      rfl
    rw [hrun, hski, hserial] at hfault
    exact (CEventProcessor.notifyCertIssued_run _ _ _ _ _ _).outOfBounds hargs hfault

/-- **Property values that crash the service, and when.** The notification of an issued certificate
stops with a failure code or hands over two strings taken from `BSTR` variants, and reads nothing through
a null pointer or a payload that is no string, if and only if the CA's answers are safe. -/
theorem notifyCertIssuedWith_hands_strings_iff (exit : CPMICertExit) (objServer : CCertServerExit)
    (o : NotifyOutcomes) :
    (exit.HandsStrings objServer o ∧ ∀ files,
        (exit.notifyCertIssuedWith objServer o files).1 ≠ .faulted .nullPointer
          ∧ (exit.notifyCertIssuedWith objServer o files).1 ≠ .faulted .wildPointer)
      ↔ SafeValues objServer o := by
  have hiff : exit.HandsStrings objServer o ↔ SafeValues objServer o := handsStrings_iff objServer o
  rw [← hiff]
  constructor
  · rintro ⟨h, -⟩
    exact h
  · intro h
    refine ⟨h, ?_⟩
    intro files
    constructor
    · intro hfault
      cases outOfBounds_of_handsStrings h files hfault
    · intro hfault
      cases outOfBounds_of_handsStrings h files hfault

def answeringCA (identifier : BSTR) (hbstr : identifier ≠ .wild) : ServerOutcomes where
  coCreateInstance := S_OK
  setContext := S_OK
  property := fun name _ => ⟨S_OK, S_OK, {
    vt := VT_BSTR
    bstrVal := match name with
      | wszPROPCERTIFICATESUBJECTKEYIDENTIFIER => identifier
      | wszPROPCERTIFICATESERIALNUMBER => .bytes [0x36, 0, 0x31, 0]
      | wszPROPRAWCERTIFICATE => .bytes [1, 2]
    wellTyped := fun _ => by cases name <;> simp [hbstr] }⟩
  allocString := fun _ => some fun _ => NUL
  allocRawCert := true

def smallRegistry (escapeForPS : DWORD) : RegistryOutcomes where
  openKey := ERROR_SUCCESS
  allocExePath := some fun _ => 0
  queryExePath := .ok ⟨REG_SZ, [0x61, 0, 0, 0], by decide⟩
  queryEscapeForPS := .ok escapeForPS
  allocArgData := true
  queryArguments := .error ⟨2, by decide⟩
  allocArguments := true

def nullIdentifier (escapeForPS : DWORD) : NotifyOutcomes where
  server := answeringCA .null (by decide)
  registry := smallRegistry escapeForPS
  processor := CEventProcessor.succeedingProcessor [1, 2]

/-- The null string is handed over, and followed by the character scan of `HasWhiteSpace` or by the
length scan of `EscapeArgumentForPS`. -/
theorem nullIdentifier_faults :
    (¬ (⟨⟨true⟩⟩ : CPMICertExit).HandsStrings ⟨true, 7⟩ (nullIdentifier 0)
      ∧ ((⟨⟨true⟩⟩ : CPMICertExit).notifyCertIssuedWith ⟨true, 7⟩ (nullIdentifier 0)
          fun _ => none).1 = .faulted .nullPointer)
    ∧ ¬ (⟨⟨true⟩⟩ : CPMICertExit).HandsStrings ⟨true, 7⟩ (nullIdentifier 1)
      ∧ ((⟨⟨true⟩⟩ : CPMICertExit).notifyCertIssuedWith ⟨true, 7⟩ (nullIdentifier 1)
          fun _ => none).1 = .faulted .nullPointer := by
  have hplain : ((⟨⟨true⟩⟩ : CPMICertExit).notifyCertIssuedWith ⟨true, 7⟩ (nullIdentifier 0)
      fun _ => none).1 = .faulted .nullPointer := by decide +kernel
  have hescaped : ((⟨⟨true⟩⟩ : CPMICertExit).notifyCertIssuedWith ⟨true, 7⟩ (nullIdentifier 1)
      fun _ => none).1 = .faulted .nullPointer := by decide +kernel
  refine ⟨⟨?_, hplain⟩, ?_, hescaped⟩
  · intro h
    cases outOfBounds_of_handsStrings h _ hplain
  · intro h
    cases outOfBounds_of_handsStrings h _ hescaped

end CPMICertExit

end PmiExitModule
