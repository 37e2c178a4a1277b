import DbgScript.Ruby.Objects
import DbgScript.Support.Queries

/-!
# The functions of the Ruby module and of its threads and frames

The functions that src/rubyprov/dbgscript.cpp, thread.cpp and stackframe.cpp register, other
than those of `Ruby.Objects`. A script passes integers of any size; `NUM2ULL` and its kin
raise a `RangeError` for those that do not fit.
-/

namespace DbgScript.Ruby

open CharBuf (CStr FixedStr)

/-! ## Errors and arguments -/

/-- An argument of a message. Some messages are given the `VALUE` of an object where the
    format asks for a C string or an address. -/
inductive RaiseArg where
  | c (arg : MsgArg)
  | value (v : RubyValue)

/-- What a function of the module raises: also a `KeyError`, and messages whose arguments
    have not been converted. -/
inductive ModuleError where
  | ruby (err : RubyError)
  | keyError (format : String)
  | unconverted (cls : RubyClass) (format : String) (args : List RaiseArg)

abbrev ModuleM (α : Type) := Throws Request.Answer ModuleError α

/-- A function that raises like those of the classes, among the functions of the module. -/
def ruby {α : Type} (f : RubyM α) : ModuleM α :=
  Dialogue.bind f.attempt fun r => .done (r.mapError ModuleError.ruby)

/-- `rb_raise(cls, format, args...)` with arguments that are objects. -/
def raiseUnconverted {α : Type} (cls : RubyClass) (format : String) (args : List RaiseArg) :
    ModuleM α :=
  Throws.throw (.unconverted cls format args)

/-- `NUM2ULL(i)`: negative integers are taken modulo `2 ^ 64`. -/
def NUM2ULL (i : ℤ) : RubyM UINT64 :=
  if -2 ^ 63 ≤ i ∧ i < 2 ^ 64 then return BitVec.ofInt 64 i
  else rbRaise .RangeError "bignum too big to convert into 'unsigned long long'" []

/-! ## The module -/

/-- `DbgScript_read_ptr` (src/rubyprov/dbgscript.cpp:31-49). -/
def readPtr (addr : ℤ) : ModuleM RubyValue := do
  ruby checkAbort
  let ui64Addr ← ruby (NUM2ULL addr)
  let (hr, ptrVal) ← Throws.lift (ask (.readPointer ui64Addr))
  if FAILED hr then
    raiseUnconverted .ArgumentError "Failed to read pointer value from address '%p'. Error 0x%08x."
      [.value (integer addr), .c (.hr hr)]
  else return ULL2NUM ptrVal

/-- `DbgScript_read_bytes` (src/rubyprov/dbgscript.cpp:62-72). -/
def readBytes (addr count : ℤ) : RubyM RubyValue := do
  checkAbort
  let addr ← NUM2ULL addr
  rbReadBytes addr count

/-- The arguments of `DbgScript_read_string` and `DbgScript_read_wide_string`, an address
    and what follows it: the count is converted first. -/
def stringArgs (addr : ℤ) (rest : List ℤ) : RubyM (UINT64 × CInt) := do
  match rest with
  | [] => return (← NUM2ULL addr, -1)
  | [count] =>
    let count ← NUM2INT count
    return (← NUM2ULL addr, count)
  | _ => rbRaise .ArgumentError "wrong number of arguments" []

/-- `DbgScript_read_wide_string` (src/rubyprov/dbgscript.cpp:88-115) with an argument. -/
def readWideString (addr : ℤ) (rest : List ℤ) : RubyM RubyValue := do
  checkAbort
  let (addr, count) ← stringArgs addr rest
  rbReadWideString addr count

/-- `DbgScript_read_string` (src/rubyprov/dbgscript.cpp:131-158) with an argument. -/
def readString (addr : ℤ) (rest : List ℤ) : RubyM RubyValue := do
  checkAbort
  let (addr, count) ← stringArgs addr rest
  rbReadString addr count

/-- `DbgScript_get_peb` (src/rubyprov/dbgscript.cpp:171-186). -/
def getPeb : RubyM RubyValue := do
  checkAbort
  let (hr, addr) ← Throws.lift (ask .getCurrentProcessPeb)
  if FAILED hr then rbRaise .RuntimeError "Failed to get PEB. Error 0x%08x." [.hr hr]
  else return ULL2NUM addr

/-- `DbgScript_field_offset` (src/rubyprov/dbgscript.cpp:199-223). -/
def fieldOffset (type field : AnsiStr) : ModuleM RubyValue := do
  ruby checkAbort
  let (hr, offset) ← Throws.lift (utilGetFieldOffset type field)
  if FAILED hr then
    raiseUnconverted .ArgumentError
      "Failed to get field offset for type '%s' and field '%s'. Error 0x%08x."
      [.value (.string type.chars), .value (.string field.chars), .c (.hr hr)]
  else return ULONG2NUM offset

/-- `DbgScript_get_type_size` (src/rubyprov/dbgscript.cpp:236-257). -/
def getTypeSize (type : AnsiStr) : ModuleM RubyValue := do
  ruby checkAbort
  let (hr, size) ← Throws.lift (utilGetTypeSize type)
  if FAILED hr then
    raiseUnconverted .ArgumentError "Failed to get size of type '%s'. Error 0x%08x."
      [.value (.string type.chars), .c (.hr hr)]
  else return ULONG2NUM size

/-- `DbgScript_get_nearest_sym` (src/rubyprov/dbgscript.cpp:270-288). -/
def getNearestSym (addr : ℤ) : ModuleM RubyValue := do
  ruby checkAbort
  let ui64Addr ← ruby (NUM2ULL addr)
  let (hr, name) ← Throws.lift (utilGetNearestSymbol ui64Addr)
  if FAILED hr then
    raiseUnconverted .ArgumentError "Failed to resolve symbol from address %p. Error 0x%08x."
      [.value (integer addr), .c (.hr hr)]
  else return .string name.str

/-- `DbgScript_search_memory` (src/rubyprov/dbgscript.cpp:309-349). The length of the pattern
    is a `long` and is passed on as a `ULONG`. -/
def searchMemory (start size : ℤ) (pattern : List UInt8) (patternGranularity : ℤ) :
    ModuleM RubyValue := do
  ruby checkAbort
  let start ← ruby (NUM2ULL start)
  let size ← ruby (NUM2ULL size)
  let patGran ← ruby (NUM2ULONG patternGranularity)
  let cbPat := BitVec.ofNat 32 pattern.length
  let (hr, matchAddr) ← Throws.lift
    (ask (.searchVirtual start size (pattern.take cbPat.toNat) patGran))
  if FAILED hr then
    if hr = E_INVALIDARG then ruby (rbRaise .ArgumentError "Invalid argument" [])
    else if hr = hresultFromNt STATUS_NO_MORE_ENTRIES then
      Throws.throw (.keyError "Pattern not found")
    else
      ruby (rbRaise .ArgumentError "Failed to search memory from offset %p, size %llu. Error 0x%x"
        [.ptr start, .num size.toNat, .hr hr])
  else return ULL2NUM matchAddr

/-- `DbgScript_resolve_enum` (src/rubyprov/dbgscript.cpp:363-394). -/
def resolveEnum (type : AnsiStr) (val : ℤ) : RubyM RubyValue := do
  checkAbort
  let value ← NUM2ULL val
  match ← Throws.lift (ask (.getCachedSymbolType type)) with
  | none => rbRaise .ArgumentError "Failed to get type id for type '%s'." [.str type.chars]
  | some typeInfo =>
    let (hr, enumElementName) ←
      Throws.lift (ask (.getConstantName typeInfo.moduleBase typeInfo.typeId value))
    if FAILED hr then
      rbRaise .ArgumentError
        "Failed to get element name for enum '%s' with value '%llu'. Error 0x%08x."
        [.str type.chars, .num value.toNat, .hr hr]
    else return .string enumElementName.chars

/-- `DbgScript_get_global` (src/rubyprov/dbgscript.cpp:408-438). -/
def getGlobal (symbol : AnsiStr) : RubyM RubyValue := do
  checkAbort
  let (hr, addr) ← Throws.lift (ask (.getOffsetByName symbol))
  if FAILED hr then
    rbRaise .ArgumentError "Failed to get virtual address for symbol '%s'. Error 0x%08x."
      [.str symbol.chars, .hr hr]
  else
    match ← Throws.lift (ask (.getCachedSymbolType symbol)) with
    | none => rbRaise .ArgumentError "Failed to get type id for type '%s'." [.str symbol.chars]
    | some typeInfo =>
      allocTypedObject 0 (some symbol) typeInfo.typeId typeInfo.moduleBase addr false

/-- `DbgScript_current_thread` (src/rubyprov/dbgscript.cpp:451-475). -/
def currentThread : RubyM DbgScriptThread := do
  checkAbort
  let (hr, engineThreadId) ← Throws.lift (ask .getCurrentThreadId)
  if FAILED hr then rbRaise .RuntimeError "Failed to get engine thread id. Error 0x%08x." [.hr hr]
  else
    let (hr, systemThreadId) ← Throws.lift (ask .getCurrentThreadSystemId)
    if FAILED hr then
      rbRaise .RuntimeError "Failed to get system thread id. Error 0x%08x." [.hr hr]
    else return ⟨engineThreadId, systemThreadId⟩

/-- `DbgScript_get_threads` (src/rubyprov/dbgscript.cpp:488-529). -/
def getThreads : RubyM (List DbgScriptThread) := do
  checkAbort
  let (hr, cThreads) ← Throws.lift utilCountThreads
  if FAILED hr then rbRaise .RuntimeError "UtilCountThreads failed. Error 0x%08x." [.hr hr]
  else
    let (hr, ids) ← Throws.lift (utilEnumThreads cThreads)
    if FAILED hr then rbRaise .RuntimeError "UtilEnumThreads failed. Error 0x%08x." [.hr hr]
    else
      let _ ← rbAryNew2 cThreads
      return (List.range cThreads.toNat).map fun i =>
        ⟨(ids.getD i default).1, (ids.getD i default).2⟩

/-- `DbgScript_start_buffering` (src/rubyprov/dbgscript.cpp:545-555). -/
def startBuffering : RubyM Unit := Throws.lift (ask .incrementIsBuffering)

/-- `DbgScript_stop_buffering` (src/rubyprov/dbgscript.cpp:568-593). -/
def stopBuffering : RubyM Unit := do
  checkAbort
  let newVal ← Throws.lift (ask .decrementIsBuffering)
  if newVal < 0 then
    Throws.lift (ask .clearIsBuffering)
    rbRaise .RuntimeError "Can't stop buffering if it isn't started." []
  else if newVal = 0 then Throws.lift (ask .flushMessageBuffer)
  else return ()

/-- `DbgScript_execute_command` (src/rubyprov/dbgscript.cpp:606-624). -/
def executeCommand (command : AnsiStr) : RubyM Unit := do
  checkAbort
  let hr ← Throws.lift (ask (.executeCommand command))
  if FAILED hr then rbRaise .RuntimeError "UtilExecuteCommand failed. Error 0x%08x." [.hr hr]

/-- `createTypedObjectHelper` (src/rubyprov/dbgscript.cpp:633-660). -/
def createTypedObjectHelper (type : AnsiStr) (addr : ℤ) (wantPointer : Bool) :
    RubyM RubyValue := do
  checkAbort
  let addr ← NUM2ULL addr
  match ← Throws.lift (ask (.getCachedSymbolType type)) with
  | none => rbRaise .ArgumentError "Failed to get type id for type '%s'." [.str type.chars]
  | some typeInfo => allocTypedObject 0 none typeInfo.typeId typeInfo.moduleBase addr wantPointer

/-- `DbgScript_create_typed_object` (src/rubyprov/dbgscript.cpp:673-680). -/
def createTypedObject (type : AnsiStr) (addr : ℤ) : RubyM RubyValue :=
  createTypedObjectHelper type addr false

/-- `DbgScript_create_typed_pointer` (src/rubyprov/dbgscript.cpp:694-701). -/
def createTypedPointer (type : AnsiStr) (addr : ℤ) : RubyM RubyValue :=
  createTypedObjectHelper type addr true

/-! ## Threads -/

/-- `Thread_engine_id` (src/rubyprov/thread.cpp:31-43). -/
def threadEngineId (thd : DbgScriptThread) : RubyM RubyValue := getter (ULONG2NUM thd.engineId)

/-- `Thread_thread_id` (src/rubyprov/thread.cpp:56-68). -/
def threadThreadId (thd : DbgScriptThread) : RubyM RubyValue := getter (ULONG2NUM thd.threadId)

/-- A frame with its thread (`StackFrameObj`, src/rubyprov/stackframe.h). -/
structure ThreadFrame where
  frame : DbgScriptStackFrame
  thread : DbgScriptThread

/-- The size of the array of `Thread_get_stack` (src/rubyprov/thread.cpp:88). -/
def maxFrames : ℕ := 512

/-- `Thread_get_stack` (src/rubyprov/thread.cpp:81-132). -/
def threadGetStack (thd : DbgScriptThread) : RubyM (List ThreadFrame) := do
  checkAbort
  let (hr, frames) ← Throws.lift (ask (.getStackTrace thd (BitVec.ofNat 32 maxFrames)))
  if FAILED hr then rbRaise .RuntimeError "DsGetStackTrace failed. Error 0x%08x." [.hr hr]
  else
    return (List.range (min frames.length maxFrames)).map fun i => ⟨frames.getD i default, thd⟩

/-- `Thread_get_teb` (src/rubyprov/thread.cpp:145-165). -/
def threadGetTeb (thd : DbgScriptThread) : RubyM RubyValue := do
  checkAbort
  let (hr, teb) ← Throws.lift (ask (.threadGetTeb thd))
  if FAILED hr then rbRaise .RuntimeError "DsThreadGetTeb failed. Error 0x%08x." [.hr hr]
  else return ULL2NUM teb

/-- `Thread_current_frame` (src/rubyprov/thread.cpp:178-214). -/
def threadCurrentFrame (thd : DbgScriptThread) : RubyM ThreadFrame := do
  checkAbort
  let (hr, dsframe) ← Throws.lift (ask (.getCurrentStackFrame thd))
  if FAILED hr then rbRaise .RuntimeError "DsGetCurrentStackFrame failed. Error 0x%08x." [.hr hr]
  else return ⟨dsframe, thd⟩

/-! ## Stack frames -/

/-- `StackFrame_frame_number` (src/rubyprov/stackframe.cpp:30-39): without `CHECK_ABORT`. -/
def stackFrameFrameNumber (frame : ThreadFrame) : RubyM RubyValue :=
  return ULONG2NUM frame.frame.frameNumber

/-- `StackFrame_instruction_offset` (src/rubyprov/stackframe.cpp:52-61): without
    `CHECK_ABORT`. -/
def stackFrameInstructionOffset (frame : ThreadFrame) : RubyM RubyValue :=
  return ULL2NUM frame.frame.instructionOffset

def DEBUG_SCOPE_GROUP_ARGUMENTS : ULONG := 1#32
def DEBUG_SCOPE_GROUP_LOCALS : ULONG := 2#32

/-- `StackFrame_get_locals` (src/rubyprov/stackframe.cpp:166-174). -/
def stackFrameGetLocals (frame : ThreadFrame) : RubyM RubyArray :=
  getVariablesHelper frame.frame frame.thread DEBUG_SCOPE_GROUP_LOCALS

/-- `StackFrame_get_args` (src/rubyprov/stackframe.cpp:187-195). -/
def stackFrameGetArgs (frame : ThreadFrame) : RubyM RubyArray :=
  getVariablesHelper frame.frame frame.thread DEBUG_SCOPE_GROUP_ARGUMENTS

end DbgScript.Ruby
