import DbgScript.Lua.MemoryFunctions
import DbgScript.Lua.Objects

/-!
# The functions of the Lua module and of its threads and frames

The functions that src/luaprov/dbgscript.cpp, thread.cpp and stackframe.cpp register, other
than those of `Lua.Objects` and `Lua.MemoryFunctions`, on the integers and strings that
`luaL_checkinteger` and `lua_tostring` return. A new userdatum of the class `Thread` or
`StackFrame` is written in full before a script sees it.
-/

namespace DbgScript.Lua

open CharBuf (CStr FixedStr)

/-! ## The module -/

/-- `dbgscript_execCommand` (src/luaprov/dbgscript.cpp:136-149). -/
def execCommand (command : AnsiStr) : LuaM Unit := do
  checkAbort
  let hr ← Throws.lift (ask (.executeCommand command))
  if FAILED hr then raise "UtilExecuteCommand failed. Error 0x%08x." [.hr hr]

/-- `dbgscript_startBuffering` (src/luaprov/dbgscript.cpp:172-183). -/
def startBuffering : LuaM Unit := Throws.lift (ask .incrementIsBuffering)

/-- `dbgscript_stopBuffering` (src/luaprov/dbgscript.cpp:206-230). -/
def stopBuffering : LuaM Unit := do
  let newVal ← Throws.lift (ask .decrementIsBuffering)
  if newVal < 0 then
    Throws.lift (ask .clearIsBuffering)
    raise "can't stop buffering if it isn't started." []
  else if newVal = 0 then Throws.lift (ask .flushMessageBuffer)
  else return ()

/-- `dbgscript_currentThread` (src/luaprov/dbgscript.cpp:253-281). -/
def currentThread : LuaM DbgScriptThread := do
  checkAbort
  let (hr, engineThreadId) ← Throws.lift (ask .getCurrentThreadId)
  if FAILED hr then raise "Failed to get engine thread id. Error 0x%08x." [.hr hr]
  else
    let (hr, systemThreadId) ← Throws.lift (ask .getCurrentThreadSystemId)
    if FAILED hr then raise "Failed to get system thread id. Error 0x%08x." [.hr hr]
    else return ⟨engineThreadId, systemThreadId⟩

/-- `dbgscript_getThreads` (src/luaprov/dbgscript.cpp:304-352): the elements of the table
    from index 1 on. -/
def getThreads : LuaM (List DbgScriptThread) := do
  checkAbort
  let (hr, cThreads) ← Throws.lift utilCountThreads
  if FAILED hr then raise "UtilCountThreads failed. Error 0x%08x." [.hr hr]
  else
    let (hr, ids) ← Throws.lift (utilEnumThreads cThreads)
    if FAILED hr then raise "UtilEnumThreads failed. Error 0x%08x." [.hr hr]
    else
      return (List.range cThreads.toNat).map fun i =>
        ⟨(ids.getD i default).1, (ids.getD i default).2⟩

/-- `dbgscript_resolveEnum` (src/luaprov/dbgscript.cpp:428-458). -/
def resolveEnum (enumTypeName : AnsiStr) (value : BitVec 64) : LuaM LuaResult := do
  checkAbort
  match ← Throws.lift (ask (.getCachedSymbolType enumTypeName)) with
  | none => raise "Failed to get type id for type '%s'." [.str enumTypeName.chars]
  | some typeInfo =>
    let (hr, enumElementName) ←
      Throws.lift (ask (.getConstantName typeInfo.moduleBase typeInfo.typeId value))
    if FAILED hr then
      raise "Failed to get element name for enum '%s' with value '%llu'. Error 0x%08x."
        [.str enumTypeName.chars, .num value.toNat, .hr hr]
    else return .value (.string enumElementName.chars)

/-- `dbgscript_readPtr` (src/luaprov/dbgscript.cpp:481-498). -/
def readPtr (addr : BitVec 64) : LuaM LuaResult := do
  checkAbort
  let (hr, ptrVal) ← Throws.lift (ask (.readPointer addr))
  if FAILED hr then
    raise "Failed to read pointer value from address %p. Error 0x%08x." [.ptr addr, .hr hr]
  else return .value (.integer ptrVal)

/-- `dbgscript_fieldOffset` (src/luaprov/dbgscript.cpp:577-600). -/
def fieldOffset (type field : AnsiStr) : LuaM LuaResult := do
  checkAbort
  let (hr, offset) ← Throws.lift (utilGetFieldOffset type field)
  if FAILED hr then
    raise "Failed to get field offset for type '%s' and field '%s'. Error 0x%08x."
      [.str type.chars, .str field.chars, .hr hr]
  else return .value (.integer (offset.setWidth 64))

/-- `dbgscript_getTypeSize` (src/luaprov/dbgscript.cpp:613-634). -/
def getTypeSize (type : AnsiStr) : LuaM LuaResult := do
  checkAbort
  let (hr, size) ← Throws.lift (utilGetTypeSize type)
  if FAILED hr then raise "Failed to get size of type '%s'. Error 0x%08x." [.str type.chars, .hr hr]
  else return .value (.integer (size.setWidth 64))

/-- `dbgscript_getNearestSym` (src/luaprov/dbgscript.cpp:657-674). -/
def getNearestSym (addr : BitVec 64) : LuaM LuaResult := do
  checkAbort
  let (hr, name) ← Throws.lift (utilGetNearestSymbol addr)
  if FAILED hr then
    raise "Failed to resolve symbol from address %p. Error 0x%08x." [.ptr addr, .hr hr]
  else return .value (.string name.str)

/-- `dbgscript_getPeb` (src/luaprov/dbgscript.cpp:757-772). -/
def getPeb : LuaM LuaResult := do
  checkAbort
  let (hr, addr) ← Throws.lift (ask .getCurrentProcessPeb)
  if FAILED hr then raise "Failed to get PEB. Error 0x%08x." [.hr hr]
  else return .value (.integer addr)

/-! ## Threads -/

/-- `Thread_getEngineId` (src/luaprov/thread.cpp:78-93). -/
def threadGetEngineId (thd : DbgScriptThread) : LuaM LuaResult :=
  getter (.integer (thd.engineId.setWidth 64))

/-- `Thread_getThreadId` (src/luaprov/thread.cpp:116-131). -/
def threadGetThreadId (thd : DbgScriptThread) : LuaM LuaResult :=
  getter (.integer (thd.threadId.setWidth 64))

/-- A userdatum of the class `StackFrame` with the thread in its table of user values
    (`AllocStackFrameObject`, src/luaprov/stackframe.cpp:52-84). -/
structure StackFrameObject where
  frame : DbgScriptStackFrame
  thread : DbgScriptThread

/-- The size of the array of `Thread_getStack` (src/luaprov/thread.cpp:166). -/
def maxFrames : ℕ := 512

/-- `Thread_getStack` (src/luaprov/thread.cpp:154-196): the elements of the table from index
    1 on. -/
def threadGetStack (thd : DbgScriptThread) : LuaM (List StackFrameObject) := do
  checkAbort
  let (hr, frames) ← Throws.lift (ask (.getStackTrace thd (BitVec.ofNat 32 maxFrames)))
  if FAILED hr then raise "DsGetStackTrace failed. Error 0x%08x." [.hr hr]
  else
    return (List.range (min frames.length maxFrames)).map fun i => ⟨frames.getD i default, thd⟩

/-- `Thread_currentFrame` (src/luaprov/thread.cpp:209-234). -/
def threadCurrentFrame (thd : DbgScriptThread) : LuaM StackFrameObject := do
  checkAbort
  let (hr, dsframe) ← Throws.lift (ask (.getCurrentStackFrame thd))
  if FAILED hr then raise "DsGetCurrentStackFrame failed. Error 0x%08x." [.hr hr]
  else return ⟨dsframe, thd⟩

/-- `Thread_getTeb` (src/luaprov/thread.cpp:255-279). -/
def threadGetTeb (thd : DbgScriptThread) : LuaM LuaResult := do
  checkAbort
  let (hr, teb) ← Throws.lift (ask (.threadGetTeb thd))
  if FAILED hr then raise "DsThreadGetTeb failed. Error 0x%08x." [.hr hr]
  else return .value (.integer teb)

/-! ## Stack frames -/

/-- `StackFrame_frameNumber` (src/luaprov/stackframe.cpp:107-122). -/
def stackFrameFrameNumber (frame : StackFrameObject) : LuaM LuaResult :=
  getter (.integer (frame.frame.frameNumber.setWidth 64))

/-- `StackFrame_instructionOffset` (src/luaprov/stackframe.cpp:145-160). -/
def stackFrameInstructionOffset (frame : StackFrameObject) : LuaM LuaResult :=
  getter (.integer frame.frame.instructionOffset)

def DEBUG_SCOPE_GROUP_ARGUMENTS : ULONG := 1#32
def DEBUG_SCOPE_GROUP_LOCALS : ULONG := 2#32

/-- `StackFrame_getLocals` (src/luaprov/stackframe.cpp:303-308), on the blocks of memory of
    the new objects. -/
def stackFrameGetLocals (mem : ℕ → DbgScriptTypedObject) (frame : StackFrameObject) :
    LuaM (List DbgScriptTypedObject) :=
  getVariablesHelper mem frame.thread frame.frame DEBUG_SCOPE_GROUP_LOCALS

/-- `StackFrame_getArgs` (src/luaprov/stackframe.cpp:331-336). -/
def stackFrameGetArgs (mem : ℕ → DbgScriptTypedObject) (frame : StackFrameObject) :
    LuaM (List DbgScriptTypedObject) :=
  getVariablesHelper mem frame.thread frame.frame DEBUG_SCOPE_GROUP_ARGUMENTS

end DbgScript.Lua
