import DbgScript.Lua.TypedObject
import DbgScript.Support.Queries

/-!
# The memory functions of the Lua module

The functions of src/luaprov/dbgscript.cpp that read or search the target's memory, on the
integers that `luaL_checkinteger` and `luaL_optinteger` return. A count is cast to the type
of the reader below before anything looks at it.
-/

namespace DbgScript.Lua

/-- `dbgscript_readBytes` (src/luaprov/dbgscript.cpp:511-520). -/
def readBytes (addr count : BitVec 64) : LuaM LuaResult := do
  checkAbort
  return .value (← luaReadBytes addr (count.setWidth 32))

/-- `dbgscript_readString` (src/luaprov/dbgscript.cpp:533-542). -/
def readString (addr : BitVec 64) (count : Option (BitVec 64)) : LuaM LuaResult := do
  checkAbort
  return .value (← luaReadString addr (optCount count))

/-- `dbgscript_readWideString` (src/luaprov/dbgscript.cpp:555-564). -/
def readWideString (addr : BitVec 64) (count : Option (BitVec 64)) : LuaM LuaResult := do
  checkAbort
  return .value (← luaReadWideString addr (optCount count))

/-- `dbgscript_searchMemory` (src/luaprov/dbgscript.cpp:695-734). The length of the pattern
    is passed on as a `ULONG`. -/
def searchMemory (start size : BitVec 64) (pat : List UInt8) (patGran : BitVec 64) :
    LuaM LuaResult := do
  checkAbort
  let cbPat := BitVec.ofNat 32 pat.length
  let (hr, matchAddr) ← Throws.lift
    (ask (.searchVirtual start size (pat.take cbPat.toNat) (patGran.setWidth 32)))
  if FAILED hr then
    if hr = E_INVALIDARG then raise "Invalid argument" []
    else if hr = hresultFromNt STATUS_NO_MORE_ENTRIES then raise "Pattern not found" []
    else
      raise "Failed to search memory from offset %p, size %llu. Error 0x%x"
        [.ptr start, .num size.toNat, .hr hr]
  else return .value (.integer matchAddr)

end DbgScript.Lua
