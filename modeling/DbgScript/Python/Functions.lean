import DbgScript.Python.TypedObject
import DbgScript.Support.Locals
import DbgScript.Support.Queries

/-!
# The functions of the Python provider

The functions that src/pythonprov/dbgscript.cpp, thread.cpp, stackframe.cpp and
dbgscriptio.cpp register, in the order of the source. The argument `args` of a function
is the outcome of `PyArg_ParseTuple`: the arguments, or its exception. Where a function
goes on after `PyTuple_New` has failed, the tuple is null and the exception stays
pending.
-/

namespace DbgScript.Python

open CharBuf (CStr Buf FixedStr)
open Flagged (orNull)

/-! ## Tuples -/

/-- A tuple under construction: null, or the items set so far. -/
abbrev Tuple := Option (List PyObj)

/-- `PyTuple_New(n)`. -/
def newTuple : PyM Tuple := do
  let tuple ← orNull (newObject (.tuple []))
  return tuple.map fun _ => []

/-- Put a new object into the tuple: `E_OUTOFMEMORY` if there is none, or if
    `PyTuple_SetItem` fails. -/
def setItem (tuple : Tuple) (item : Option PyObj) : PyM (HRESULT × Tuple) :=
  match item with
  | none => return (E_OUTOFMEMORY, tuple)
  | some item => do
    let r : Except PyErr Unit ← python .tupleSetItem
    match ← orNull (Flagged.call r) with
    | none => return (E_OUTOFMEMORY, tuple)
    | some () => return (S_OK, tuple.map (· ++ [item]))

/-- The loops of `dbgscript_get_threads` and `Thread_get_stack` over the `i`-th and the
    `k - 1` following objects. -/
def fillTuple (makeItem : ℕ → PyM PyObj) : ℕ → ℕ → Tuple → PyM (HRESULT × Tuple)
  | 0, _, tuple => return (S_OK, tuple)
  | k + 1, i, tuple => do
    let item ← orNull (makeItem i)
    let (hr, tuple) ← setItem tuple item
    if FAILED hr then return (hr, tuple) else fillTuple makeItem k (i + 1) tuple

/-- What the functions that make a tuple return: null if the loop has failed. -/
def returnTuple (hr : HRESULT) (tuple : Tuple) : PyM PyObj :=
  if FAILED hr then Flagged.null
  else
    match tuple with
    | none => Flagged.null
    | some items => return .tuple items

/-! ## Objects -/

/-- `AllocThreadObj` (src/pythonprov/thread.cpp:260-283). -/
def allocThreadObj (engineId threadId : ULONG) : PyM PyObj :=
  newObject (.thread ⟨engineId, threadId⟩)

/-- `AllocStackFrameObj` (src/pythonprov/stackframe.cpp:190-217). -/
def allocStackFrameObj (frame : DbgScriptStackFrame) (thread : DbgScriptThread) : PyM PyObj :=
  newObject (.stackFrame frame thread)

/-! ## The module -/

/-- `createTypedObjectHelper` (src/pythonprov/dbgscript.cpp:37-67). -/
def createTypedObjectHelper (args : Except PyErr (AnsiStr × UINT64)) (wantPointer : Bool) :
    PyM PyObj := do
  checkAbort
  let (typeName, addr) ← Flagged.call args
  match ← ds (ask (.getCachedSymbolType typeName)) with
  | none => raise .ValueError "Failed to get type id for type '%s'." [.str typeName.chars]
  | some typeInfo => allocTypedObject 0 none typeInfo.typeId typeInfo.moduleBase addr wantPointer

/-- `dbgscript_create_typed_object` (src/pythonprov/dbgscript.cpp:81-86). -/
def createTypedObject (args : Except PyErr (AnsiStr × UINT64)) : PyM PyObj :=
  createTypedObjectHelper args false

/-- `dbgscript_create_typed_pointer` (src/pythonprov/dbgscript.cpp:101-106). -/
def createTypedPointer (args : Except PyErr (AnsiStr × UINT64)) : PyM PyObj :=
  createTypedObjectHelper args true

/-- `dbgscript_resolve_enum` (src/pythonprov/dbgscript.cpp:120-159). -/
def resolveEnum (args : Except PyErr (AnsiStr × UINT64)) : PyM PyObj := do
  checkAbort
  let (enumTypeName, value) ← Flagged.call args
  match ← ds (ask (.getCachedSymbolType enumTypeName)) with
  | none => raise .ValueError "Failed to get type id for type '%s'." [.str enumTypeName.chars]
  | some typeInfo =>
    let (hr, enumElementName) ←
      ds (ask (.getConstantName typeInfo.moduleBase typeInfo.typeId value))
    if FAILED hr then
      raise .ValueError
        "Failed to get element name for enum '%s' with value '%llu'. Error 0x%08x."
        [.str enumTypeName.chars, .num value.toNat, .hr hr]
    else newObject (.str enumElementName.chars)

/-- `dbgscript_get_global` (src/pythonprov/dbgscript.cpp:173-212). -/
def getGlobal (args : Except PyErr AnsiStr) : PyM PyObj := do
  checkAbort
  let symbol ← Flagged.call args
  let (hr, addr) ← ds (ask (.getOffsetByName symbol))
  if FAILED hr then
    raise .ValueError "Failed to get virtual address for symbol '%s'. Error 0x%08x."
      [.str symbol.chars, .hr hr]
  else
    match ← ds (ask (.getCachedSymbolType symbol)) with
    | none => raise .ValueError "Failed to get type id for type '%s'." [.str symbol.chars]
    | some typeInfo =>
      allocTypedObject 0 (some symbol) typeInfo.typeId typeInfo.moduleBase addr false

/-- `dbgscript_get_peb` (src/pythonprov/dbgscript.cpp:226-246). -/
def getPeb : PyM PyObj := do
  checkAbort
  let (hr, addr) ← ds (ask .getCurrentProcessPeb)
  if FAILED hr then raise .RuntimeError "Failed to get PEB. Error 0x%08x." [.hr hr]
  else newObject (.int addr.toNat)

/-- `dbgscript_read_ptr` (src/pythonprov/dbgscript.cpp:260-287). -/
def readPtr (args : Except PyErr UINT64) : PyM PyObj := do
  checkAbort
  let addr ← Flagged.call args
  let (hr, ptrVal) ← ds (ask (.readPointer addr))
  if FAILED hr then
    raise .ValueError "Failed to read pointer value from address '%p'. Error 0x%08x."
      [.ptr addr, .hr hr]
  else newObject (.int ptrVal.toNat)

/-- `dbgscript_field_offset` (src/pythonprov/dbgscript.cpp:301-334). -/
def fieldOffset (args : Except PyErr (AnsiStr × AnsiStr)) : PyM PyObj := do
  checkAbort
  let (type, field) ← Flagged.call args
  let (hr, offset) ← ds (utilGetFieldOffset type field)
  if FAILED hr then
    raise .ValueError
      "Failed to get field offset for type '%s' and field '%s'. Error 0x%08x."
      [.str type.chars, .str field.chars, .hr hr]
  else newObject (.int offset.toNat)

/-- `dbgscript_get_type_size` (src/pythonprov/dbgscript.cpp:348-379). -/
def getTypeSize (args : Except PyErr AnsiStr) : PyM PyObj := do
  checkAbort
  let type ← Flagged.call args
  let (hr, size) ← ds (utilGetTypeSize type)
  if FAILED hr then
    raise .ValueError "Failed to get size of type '%s'. Error 0x%08x." [.str type.chars, .hr hr]
  else newObject (.int size.toNat)

/-- `dbgscript_read_bytes` (src/pythonprov/dbgscript.cpp:393-412). -/
def readBytes (args : Except PyErr (UINT64 × ULONG)) : PyM PyObj := do
  checkAbort
  let (addr, count) ← Flagged.call args
  pyReadBytes addr count

/-- `dbgscript_read_string` (src/pythonprov/dbgscript.cpp:426-449). -/
def readString (args : Except PyErr (UINT64 × Option CInt)) : PyM PyObj := do
  checkAbort
  let (addr, count) ← Flagged.call args
  pyReadString addr (count.getD (-1))

/-- `dbgscript_read_wide_string` (src/pythonprov/dbgscript.cpp:463-486). -/
def readWideString (args : Except PyErr (UINT64 × Option CInt)) : PyM PyObj := do
  checkAbort
  let (addr, count) ← Flagged.call args
  pyReadWideString addr (count.getD (-1))

/-- `dbgscript_get_nearest_sym` (src/pythonprov/dbgscript.cpp:500-527). -/
def getNearestSym (args : Except PyErr UINT64) : PyM PyObj := do
  checkAbort
  let addr ← Flagged.call args
  let (hr, name) ← ds (utilGetNearestSymbol addr)
  if FAILED hr then
    raise .ValueError "Failed to resolve symbol from address %p. Error 0x%08x." [.ptr addr, .hr hr]
  else newObject (.str name.str)

/-- `dbgscript_search_memory` (src/pythonprov/dbgscript.cpp:549-594). The length of the pattern
    is passed on as a `ULONG`. -/
def searchMemory (args : Except PyErr (UINT64 × UINT64 × List UInt8 × ULONG)) : PyM PyObj := do
  checkAbort
  let (start, size, pattern, patGran) ← Flagged.call args
  let cbPat := BitVec.ofNat 32 pattern.length
  let (hr, matchAddr) ← ds (ask (.searchVirtual start size (pattern.take cbPat.toNat) patGran))
  if FAILED hr then
    if hr = E_INVALIDARG then raise .ValueError "Invalid argument" []
    else if hr = hresultFromNt STATUS_NO_MORE_ENTRIES then raise .LookupError "Pattern not found" []
    else
      raise .RuntimeError "Failed to search memory from offset %p, size %llu. Error 0x%x"
        [.ptr start, .num size.toNat, .hr hr]
  else newObject (.int matchAddr.toNat)

/-- `dbgscript_get_threads` (src/pythonprov/dbgscript.cpp:608-678). -/
def getThreads : PyM PyObj := do
  checkAbort
  let (hr, cThreads) ← ds utilCountThreads
  if FAILED hr then raise .OSError "UtilCountThreads failed. Error 0x%08x." [.hr hr]
  else
    let (hr, ids) ← ds (utilEnumThreads cThreads)
    if FAILED hr then raise .OSError "UtilEnumThreads failed. Error 0x%08x." [.hr hr]
    else
      let tuple ← newTuple
      let makeThread (i : ℕ) := allocThreadObj (ids.getD i default).1 (ids.getD i default).2
      let (hr, tuple) ← fillTuple makeThread cThreads.toNat 0 tuple
      returnTuple hr tuple

/-- `dbgscript_get_current_thread` (src/pythonprov/dbgscript.cpp:692-724). -/
def getCurrentThread : PyM PyObj := do
  checkAbort
  let (hr, engineThreadId) ← ds (ask .getCurrentThreadId)
  if FAILED hr then raise .OSError "Failed to get engine thread id. Error 0x%08x." [.hr hr]
  else
    let (hr, systemThreadId) ← ds (ask .getCurrentThreadSystemId)
    if FAILED hr then raise .OSError "Failed to get system thread id. Error 0x%08x." [.hr hr]
    else allocThreadObj engineThreadId systemThreadId

/-- `dbgscript_start_buffering` (src/pythonprov/dbgscript.cpp:738-748). -/
def startBuffering : PyM PyObj := do
  ds (ask .incrementIsBuffering)
  returnNone

/-- `dbgscript_stop_buffering` (src/pythonprov/dbgscript.cpp:762-786). -/
def stopBuffering : PyM PyObj := do
  let newVal ← ds (ask .decrementIsBuffering)
  if newVal < 0 then
    ds (ask .clearIsBuffering)
    raise .RuntimeError "Can't stop buffering if it isn't started." []
  else
    if newVal = 0 then ds (ask .flushMessageBuffer)
    returnNone

/-- The end of `dbgscript_execute_command` (src/pythonprov/dbgscript.cpp:814-822): after a
    failure the exception is set and `None` is returned. The command may have run another
    script, and `RunString` leaves a `SystemExit` of it pending
    (src/pythonprov/pythonscriptprovider.cpp:323-335). -/
def commandExecuted (hr : HRESULT) : PyM PyObj := do
  let pending : Option PyErr ← python .pendingException
  Flagged.put pending
  if FAILED hr then
    let _ ← orNull (raise .OSError "UtilExecuteCommand failed. Error 0x%08x." [.hr hr] : PyM PyObj)
  returnNone

/-- `None` is returned, whatever exception is pending. -/
theorem attempt_commandExecuted (hr : HRESULT) (flag : Option PyErr) :
    (commandExecuted hr).attempt flag = .ask (.inr .pendingException) fun pending : Option PyErr =>
      .done (some .none,
        if FAILED hr then some ⟨.OSError, "UtilExecuteCommand failed. Error 0x%08x.", [.hr hr]⟩
        else pending) := by
  by_cases hf : FAILED hr = true
  · simp only [commandExecuted, if_pos hf]
    rfl
  · simp only [commandExecuted, if_neg hf]
    rfl

/-- `dbgscript_execute_command` (src/pythonprov/dbgscript.cpp:800-823). -/
def executeCommand (args : Except PyErr AnsiStr) : PyM PyObj := do
  checkAbort
  let command ← Flagged.call args
  let hr ← ds (ask (.executeCommand command))
  commandExecuted hr

/-! ## Threads -/

/-- `Thread_get_teb` (src/pythonprov/thread.cpp:20-44). -/
def threadGetTeb (thd : DbgScriptThread) : PyM PyObj := do
  checkAbort
  let (hr, teb) ← ds (ask (.threadGetTeb thd))
  if FAILED hr then raise .OSError "DsThreadGetTeb failed. Error 0x%08x." [.hr hr]
  else newObject (.int teb.toNat)

/-- `Thread_get_current_frame` (src/pythonprov/thread.cpp:58-82). -/
def threadGetCurrentFrame (thd : DbgScriptThread) : PyM PyObj := do
  checkAbort
  let (hr, dsframe) ← ds (ask (.getCurrentStackFrame thd))
  if FAILED hr then raise .OSError "DsGetCurrentStackFrame failed. Error 0x%08x." [.hr hr]
  else allocStackFrameObj dsframe thd

/-- The size of the array of `Thread_get_stack` (src/pythonprov/thread.cpp:110). -/
def maxFrames : ℕ := 512

/-- `Thread_get_stack` (src/pythonprov/thread.cpp:96-160). -/
def threadGetStack (thd : DbgScriptThread) : PyM PyObj := do
  checkAbort
  let (hr, frames) ← ds (ask (.getStackTrace thd (BitVec.ofNat 32 maxFrames)))
  if FAILED hr then raise .OSError "DsGetStackTrace failed. Error 0x%08x." [.hr hr]
  else
    let tuple ← newTuple
    let makeFrame (i : ℕ) := allocStackFrameObj (frames.getD i default) thd
    let (hr, tuple) ← fillTuple makeFrame (min frames.length maxFrames) 0 tuple
    returnTuple hr tuple

/-! ## Stack frames -/

/-- `buildTupleFromLocals` (src/pythonprov/stackframe.cpp:22-56). -/
def buildTupleFromLocals (tuple : Tuple) (entry : DebugSymbolEntry)
    (symName : FixedStr CHAR MAX_SYMBOL_NAME_LEN) (_idx : ℕ) : PyM (HRESULT × Tuple) := do
  let typedObj ← orNull (allocTypedObject entry.size (some symName.toCStr) entry.typeId
    entry.moduleBase entry.offset false)
  setItem tuple typedObj

/-- `getVariablesHelper` (src/pythonprov/stackframe.cpp:59-108), `thread` being the thread
    that the frame points to. -/
def getVariablesHelper (frame : DbgScriptStackFrame) (thread : DbgScriptThread) (flags : ULONG) :
    PyM PyObj := do
  checkAbort
  let (hr, numSym) ← ds (ask (.countStackFrameVariables thread frame flags))
  if FAILED hr then raise .OSError "UtilCountStackFrameVariables failed. Error: 0x%08x" [.hr hr]
  else
    let tuple ← newTuple
    let (hr, tuple) ← utilEnumStackFrameVariables ds buildTupleFromLocals numSym tuple
    if FAILED hr then raise .OSError "UtilEnumStackFrameVariables failed. Error: 0x%08x" [.hr hr]
    else returnTuple hr tuple

def DEBUG_SCOPE_GROUP_ARGUMENTS : ULONG := 1#32
def DEBUG_SCOPE_GROUP_LOCALS : ULONG := 2#32

/-- `StackFrame_get_locals` (src/pythonprov/stackframe.cpp:111-117). -/
def stackFrameGetLocals (frame : DbgScriptStackFrame) (thread : DbgScriptThread) : PyM PyObj :=
  getVariablesHelper frame thread DEBUG_SCOPE_GROUP_LOCALS

/-- `StackFrame_get_args` (src/pythonprov/stackframe.cpp:120-126). -/
def stackFrameGetArgs (frame : DbgScriptStackFrame) (thread : DbgScriptThread) : PyM PyObj :=
  getVariablesHelper frame thread DEBUG_SCOPE_GROUP_ARGUMENTS

/-! ## Standard input and output -/

/-- `DbgScriptIO_write` (src/pythonprov/dbgscriptio.cpp:11-34). -/
def ioWrite (args : Except PyErr AnsiStr) : PyM PyObj := do
  checkAbort
  let data ← Flagged.call args
  ds (ask (.write data))
  newObject (.int data.chars.length)

/-- The size of the buffer of `DbgScriptIO_readline` (src/pythonprov/dbgscriptio.cpp:43). -/
def lineBufferSize : ℕ := 4096

/-- The buffer once Ctrl-Z has been translated to the empty string and an empty line,
    of which only the NUL has been read, to a newline. -/
def translateLine (read : List CHAR) : Buf CHAR lineBufferSize :=
  let buf := (Buf.zero CHAR lineBufferSize).memcpy 0 read
  if 1 < read.length ∧ buf.cells.head? = some 0x1a then buf.setCell 0 0
  else if read.length = 1 then buf.setCell 0 0x0a
  else buf

/-- `DbgScriptIO_readline` (src/pythonprov/dbgscriptio.cpp:37-91). The debugger's `Input`
    answers with the characters it writes, the NUL included. -/
def ioReadline (args : Except PyErr (Option ULONG)) : PyM PyObj := do
  checkAbort
  let maxToRead ← Flagged.call args
  let bufferSize : ULONG := BitVec.ofNat 32 lineBufferSize
  let maxToRead := maxToRead.getD bufferSize
  let read ← ds (ask (.input (if maxToRead < bufferSize then maxToRead else bufferSize)))
  newObject (.str (translateLine read).str)

/-- `DbgScriptIO_flush` (src/pythonprov/dbgscriptio.cpp:94-103). -/
def ioFlush : PyM PyObj := do
  checkAbort
  ds (ask .flushCallbacks)
  returnNone

end DbgScript.Python
