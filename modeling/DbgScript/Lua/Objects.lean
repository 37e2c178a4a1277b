import DbgScript.Lua.TypedObject
import DbgScript.Support.Locals

/-!
# Lua functions that make typed objects

The functions of src/luaprov/dbgscript.cpp and src/luaprov/stackframe.cpp whose results
are typed objects, each on the blocks of memory that `lua_newuserdata` returns to it.
-/

namespace DbgScript.Lua

open CharBuf (CStr FixedStr)

/-- `createTypedObjectHelper` (src/luaprov/dbgscript.cpp:28-56). -/
def createTypedObjectHelper (mem : DbgScriptTypedObject) (typeName : AnsiStr) (addr : UINT64)
    (wantPointer : Bool) : LuaM DbgScriptTypedObject := do
  checkAbort
  match ← Throws.lift (ask (.getCachedSymbolType typeName)) with
  | none => raise "Failed to get type id for type '%s'." [.str typeName.chars]
  | some typeInfo =>
    allocNewTypedObject mem 0 none typeInfo.typeId typeInfo.moduleBase addr wantPointer

/-- `dbgscript_createTypedObject` (src/luaprov/dbgscript.cpp:80-84). -/
def dbgscriptCreateTypedObject (mem : DbgScriptTypedObject) (typeName : AnsiStr) (addr : UINT64) :
    LuaM DbgScriptTypedObject :=
  createTypedObjectHelper mem typeName addr false

/-- `dbgscript_createTypedPointer` (src/luaprov/dbgscript.cpp:109-113). -/
def dbgscriptCreateTypedPointer (mem : DbgScriptTypedObject) (typeName : AnsiStr)
    (addr : UINT64) : LuaM DbgScriptTypedObject :=
  createTypedObjectHelper mem typeName addr true

/-- `dbgscript_getGlobal` (src/luaprov/dbgscript.cpp:375-405). -/
def dbgscriptGetGlobal (mem : DbgScriptTypedObject) (symbol : AnsiStr) :
    LuaM DbgScriptTypedObject := do
  checkAbort
  let (hr, addr) ← Throws.lift (ask (.getOffsetByName symbol))
  if FAILED hr then
    raise "Failed to get virtual address for symbol '%s'. Error 0x%08x." [.str symbol.chars, .hr hr]
  else
    match ← Throws.lift (ask (.getCachedSymbolType symbol)) with
    | none => raise "Failed to get type id for type '%s'." [.str symbol.chars]
    | some typeInfo =>
      allocNewTypedObject mem 0 (some symbol) typeInfo.typeId typeInfo.moduleBase addr false

/-- `buildArrayFromLocals` (src/luaprov/stackframe.cpp:183-207). The `idx`-th object is
    made on the `idx`-th block. -/
def buildArrayFromLocals (mem : ℕ → DbgScriptTypedObject) (objs : List DbgScriptTypedObject)
    (entry : DebugSymbolEntry) (symName : FixedStr CHAR MAX_SYMBOL_NAME_LEN) (idx : ℕ) :
    LuaM (HRESULT × List DbgScriptTypedObject) := do
  let typObj ← allocNewTypedObject (mem idx) entry.size (some symName.toCStr) entry.typeId
    entry.moduleBase entry.offset false
  return (S_OK, objs ++ [typObj])

/-- `getVariablesHelper` (src/luaprov/stackframe.cpp:230-283). -/
def getVariablesHelper (mem : ℕ → DbgScriptTypedObject) (thd : DbgScriptThread)
    (frame : DbgScriptStackFrame) (flags : ULONG) : LuaM (List DbgScriptTypedObject) := do
  checkAbort
  let (hr, numSym) ← Throws.lift (ask (.countStackFrameVariables thd frame flags))
  if FAILED hr then raise "UtilCountStackFrameVariables failed. Error: 0x%08x" [.hr hr]
  else
    let (hr, objs) ← utilEnumStackFrameVariables Throws.lift (buildArrayFromLocals mem) numSym []
    if FAILED hr then raise "UtilEnumStackFrameVariables failed. Error: 0x%08x" [.hr hr]
    else return objs

end DbgScript.Lua
