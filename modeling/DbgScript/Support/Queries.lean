import DbgScript.Support.Requests

/-!
# Symbol and thread queries

The queries of src/support/util.cpp that the scripts' module functions make: field
offsets, type sizes, the nearest symbol and the threads. A query that fails is reported
on the debugger's console.
-/

namespace DbgScript

open CharBuf (Buf FixedStr)

def STRSAFE_E_INSUFFICIENT_BUFFER : HRESULT := 0x8007007a#32

@[simp] theorem failed_STRSAFE_E_INSUFFICIENT_BUFFER :
    FAILED STRSAFE_E_INSUFFICIENT_BUFFER = true := rfl

/-- `STATUS_NO_MORE_ENTRIES` (src/support/util.h:27). -/
def STATUS_NO_MORE_ENTRIES : BitVec 32 := 0x8000001a#32

/-- `HRESULT_FROM_NT(x)`. -/
def hresultFromNt (x : BitVec 32) : HRESULT := x ||| 0x10000000#32

/-! ## Types -/

/-- A query about the type that is named; without such a type the code is that of
    success and the value is the caller's `0`. -/
def queryType (type : AnsiStr) (query : ModuleAndTypeId → DsM (HRESULT × ULONG)) :
    DsM (HRESULT × ULONG) := do
  match ← ask (.getCachedSymbolType type) with
  | none =>
    outputError "Error: Failed to get type id for type '%s'. Error 0x%08x.\n"
      [.str type.chars, .hr S_OK]
    return (S_OK, 0)
  | some typeInfo => query typeInfo

/-- `UtilGetFieldOffset(hostCtxt, type, field, &offset)` (src/support/util.cpp:78-107). -/
def utilGetFieldOffset (type field : AnsiStr) : DsM (HRESULT × ULONG) :=
  queryType type fun typeInfo => ask (.getFieldOffset typeInfo.moduleBase typeInfo.typeId field)

/-- `UtilGetTypeSize(hostCtxt, type, &size)` (src/support/util.cpp:125-152). -/
def utilGetTypeSize (type : AnsiStr) : DsM (HRESULT × ULONG) :=
  queryType type fun typeInfo => ask (.getTypeSize typeInfo.moduleBase typeInfo.typeId)

/-! ## The nearest symbol -/

/-- `StringCchPrintfA(buf + off, room, ...)`, `text` being the formatted text. -/
def stringCchPrintf {n : ℕ} (buf : Buf CHAR n) (off room : ℕ) (text : List CHAR) :
    Buf CHAR n × HRESULT :=
  (buf.memcpy off (text.take (room - 1) ++ [0]),
    if text.length < room then S_OK else STRSAFE_E_INSUFFICIENT_BUFFER)

/-- `"+%#I64x"`: the displacement in hexadecimal. -/
def displacement (disp : UINT64) : List CHAR :=
  ansi "+0x" ++ (Nat.toDigits 16 disp.toNat).map fun c => c.toNat.toUInt8

/-- `UtilGetNearestSymbol(hostCtxt, addr, buf)` (src/support/util.cpp:174-212) on the
    zero-initialised array of its callers. Nothing is appended to a name that has been
    cut (`S_FALSE`). -/
def utilGetNearestSymbol (addr : UINT64) : DsM (HRESULT × Buf CHAR MAX_SYMBOL_NAME_LEN) := do
  let (hr, name, cchActual, disp) ← ask (.getNameByOffset addr)
  let buf := (Buf.zero CHAR MAX_SYMBOL_NAME_LEN).memcpy 0 name.chars
  let maxLen : ULONG := BitVec.ofNat 32 MAX_SYMBOL_NAME_LEN
  if FAILED hr then
    outputError "Error: Failed to get name from offset %p. Error 0x%08x.\n" [.ptr addr, .hr hr]
    return (hr, buf)
  else if disp ≠ 0 ∧ hr ≠ S_FALSE ∧ maxLen - cchActual ≠ 0 then
    let (buf, hr) := stringCchPrintf buf (cchActual - 1).toNat (maxLen - (cchActual - 1)).toNat
      (displacement disp)
    return (hr, buf)
  else return (hr, buf)

/-! ## Threads -/

/-- `UtilCountThreads(hostCtxt, &cThreads)` (src/support/util.cpp:1148-1164). -/
def utilCountThreads : DsM (HRESULT × ULONG) := do
  let (hr, cThreads) ← ask .getNumberThreads
  if FAILED hr then
    outputError "Error: Failed to get number of threads. Error 0x%08x.\n" [.hr hr]
  return (hr, cThreads)

/-- `UtilEnumThreads(hostCtxt, cThreads, engineThreadIds, sysThreadIds)`
    (src/support/util.cpp:1182-1205): the pairs of ids. -/
def utilEnumThreads (cThreads : ULONG) : DsM (HRESULT × List (ULONG × ULONG)) := do
  let (hr, ids) ← ask (.getThreadIdsByIndex cThreads)
  if FAILED hr then
    outputError "Error: Failed to get thread IDs. Error 0x%08x.\n" [.hr hr]
  return (hr, ids)

end DbgScript
