import DbgScript.Lib.CharBuf
import Mathlib.Data.UInt

/-!
# Windows types and constants

`HRESULT`, Win32 error codes, characters and the constants of `src/common.h`,
`winerror.h` and `dbgeng.h` that the host uses. An `HRESULT` is the 32-bit value
the code compares and prints; it denotes failure when it is negative.
-/

namespace DbgScript

open CharBuf (CStr)

/-- `char`. -/
abbrev CHAR := UInt8

/-- `WCHAR`. -/
abbrev WCHAR := UInt16

/-- A NUL-terminated `char` string. -/
abbrev AnsiStr := CStr CHAR

/-- `MAX_PATH`. -/
def MAX_PATH : ℕ := 260

/-- `MAX_LANG_ID` (src/common.h:45). -/
def MAX_LANG_ID : ℕ := 64

/-! ## Result codes -/

abbrev HRESULT := BitVec 32

def S_OK : HRESULT := 0#32
def E_FAIL : HRESULT := 0x80004005#32
def E_INVALIDARG : HRESULT := 0x80070057#32
def E_OUTOFMEMORY : HRESULT := 0x8007000e#32

/-- `FAILED(hr)`: the code is negative. -/
def FAILED (hr : HRESULT) : Bool := hr.msb

/-- The Win32 error of a failed call, as `GetLastError` reports it: never
    `ERROR_SUCCESS`. -/
structure Win32Error where
  code : BitVec 32
  nonzero : code ≠ 0#32
  deriving DecidableEq

/-- `HRESULT_FROM_WIN32(x)`. -/
def hresultFromWin32 (x : BitVec 32) : HRESULT :=
  if x.toInt ≤ 0 then x else (x &&& 0xffff#32) ||| 0x80070000#32

@[simp] theorem failed_S_OK : FAILED S_OK = false := rfl
@[simp] theorem failed_E_FAIL : FAILED E_FAIL = true := rfl
@[simp] theorem failed_E_INVALIDARG : FAILED E_INVALIDARG = true := rfl
@[simp] theorem failed_E_OUTOFMEMORY : FAILED E_OUTOFMEMORY = true := rfl
/-- A failed Win32 call is reported as a failure. -/
@[simp] theorem failed_hresultFromWin32 (e : Win32Error) :
    FAILED (hresultFromWin32 e.code) = true := by
  have hne : e.code.toInt ≠ 0 := fun h0 => e.nonzero (BitVec.eq_of_toInt_eq (by simpa using h0))
  unfold FAILED hresultFromWin32
  split_ifs with h
  · rw [BitVec.msb_eq_toInt, decide_eq_true_eq]
    omega
  · rw [BitVec.msb_or, show (0x80070000#32).msb = true by decide, Bool.or_true]

/-! ## Output to the debugger -/

/-- `ULONG` and `UINT64`. -/
abbrev ULONG := BitVec 32
abbrev UINT64 := BitVec 64

def DEBUG_OUTPUT_NORMAL : ULONG := 0x1#32
def DEBUG_OUTPUT_ERROR : ULONG := 0x2#32
def DEBUG_OUTPUT_VERBOSE : ULONG := 0x8#32

/-- The arguments that follow a format string: `%s` and `%hs`, `%ls`, `%08x`, and
    a time in milliseconds, printed in seconds by `%.2f`. -/
inductive FmtArg where
  | str (s : List CHAR)
  | wstr (s : List WCHAR)
  | hex (hr : HRESULT)
  | millis (ms : BitVec 32)
  deriving DecidableEq

end DbgScript
