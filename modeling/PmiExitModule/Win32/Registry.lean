import PmiExitModule.Win32.Types

/-!
# Values of the registry

A value of a registry key is a type and a run of bytes, which the registry stores and hands back as
they are. What the bytes mean is up to the type: the units of a string, low byte first, or a number.
-/

namespace PmiExitModule

def REG_SZ : DWORD := 1
def REG_EXPAND_SZ : DWORD := 2
def REG_DWORD : DWORD := 4
def REG_MULTI_SZ : DWORD := 7

structure StoredValue where
  dwType : DWORD
  data : List BYTE
  deriving DecidableEq

def bytesOfUnits (units : List WCHAR) : List BYTE :=
  units.flatMap fun unit => [unit.extractLsb' 0 8, unit.extractLsb' 8 8]

def bytesOfDword (dwValue : DWORD) : List BYTE :=
  [dwValue.extractLsb' 0 8, dwValue.extractLsb' 8 8, dwValue.extractLsb' 16 8,
    dwValue.extractLsb' 24 8]

/-- The number a `DWORD` of zeros holds once these bytes are copied over it, low byte first. -/
def dwordOfBytes : List BYTE → DWORD
  | [] => 0
  | byte :: rest => (dwordOfBytes rest <<< 8) ||| byte.setWidth 32

theorem bytesOfUnits_cons (unit : WCHAR) (rest : List WCHAR) :
    bytesOfUnits (unit :: rest)
      = unit.extractLsb' 0 8 :: unit.extractLsb' 8 8 :: bytesOfUnits rest := rfl

@[simp]
theorem bytesOfUnits_append (first second : List WCHAR) :
    bytesOfUnits (first ++ second) = bytesOfUnits first ++ bytesOfUnits second :=
  List.flatMap_append

@[simp]
theorem bytesOfUnits_length (units : List WCHAR) : (bytesOfUnits units).length = 2 * units.length := by
  induction units with
  | nil => rfl
  | cons unit rest ih =>
      rw [bytesOfUnits_cons, List.length_cons, List.length_cons, List.length_cons, ih]
      omega

theorem append_extractLsb' (unit : WCHAR) :
    unit.extractLsb' 8 8 ++ unit.extractLsb' 0 8 = unit := by
  apply BitVec.eq_of_getLsbD_eq
  intro i hi
  rw [BitVec.getLsbD_append]
  by_cases hlow : i < 8
  · simp [hlow]
  · have hhigh : 8 + (i - 8) = i := by omega
    have hbyte : i - 8 < 8 := by omega
    simp [hlow, hhigh, hbyte]

@[simp]
theorem unitsOfBytes_bytesOfUnits (units : List WCHAR) : unitsOfBytes (bytesOfUnits units) = units := by
  induction units with
  | nil => rfl
  | cons unit rest ih => rw [bytesOfUnits_cons, unitsOfBytes, append_extractLsb', ih]

theorem bytesOfUnits_injective : Function.Injective bytesOfUnits :=
  Function.LeftInverse.injective unitsOfBytes_bytesOfUnits

end PmiExitModule
