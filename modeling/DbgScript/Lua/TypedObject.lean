import DbgScript.Support.TargetMemory
import DbgScript.Support.TypedObject

/-!
# Typed objects in Lua

The functions of src/luaprov/typedobject.cpp and the readers of src/luaprov/util.cpp
they call. A function that makes a new object gets the block of memory that
`lua_newuserdata` returns, with whatever contents it has. An error is raised by a
non-local jump.
-/

namespace DbgScript.Lua

open CharBuf (CStr Buf)

/-! ## Lua values and errors -/

/-- The values the functions push, other than a new object. -/
inductive LuaValue where
  | boolean (b : Bool)
  | integer (i : BitVec 64)
  | single (bits : BitVec 32)
  | double (bits : BitVec 64)
  | string (s : List CHAR)
  | metafield (name : List CHAR)
  deriving DecidableEq

/-- A result: a value, or a new userdatum with its contents. -/
inductive LuaResult where
  | value (v : LuaValue)
  | userdata (typObj : DbgScriptTypedObject)

/-- An error message, or an argument that Lua's own checks reject. -/
inductive LuaError where
  | error (format : String) (args : List MsgArg)
  | badArgument (arg : ℕ)
  deriving DecidableEq

abbrev LuaM (α : Type) := Throws Request.Answer LuaError α

def raise {α : Type} (format : String) (args : List MsgArg) : LuaM α :=
  Throws.throw (.error format args)

/-- `CHECK_ABORT` (src/luaprov/common.h:52-58). -/
def checkAbort : LuaM Unit := do
  if ← Throws.lift utilCheckAbort then raise "execution interrupted." []

theorem asks_checkAbort {Q : Request → Prop} (h : Q .getInterrupt) : checkAbort.attempt.Asks Q := by
  refine Throws.asks_bind (Throws.asks_lift (asks_utilCheckAbort h)) ?_
  rintro (_ | _) <;> trivial

/-- A user's interrupt is reported and ends the call. -/
theorem run_checkAbort_bind {α : Type} (a : DebuggerAnswers) (n : ℕ) (f : Unit → LuaM α) :
    (checkAbort >>= f).attempt.run a n =
      if a n .getInterrupt = S_OK then
        (.error (.error "execution interrupted." []), [.getInterrupt])
      else
        (((f ()).attempt.run a (n + 1)).1, .getInterrupt :: ((f ()).attempt.run a (n + 1)).2) := by
  split_ifs with habort
  · simp [checkAbort, raise, habort]
  · simp [checkAbort, raise, habort]

/-! ## Readers of src/luaprov/util.cpp -/

/-- `LuaReadBytes(L, addr, count)` (src/luaprov/util.cpp:64-93). -/
def luaReadBytes (addr : UINT64) (count : ULONG) : LuaM LuaValue := do
  let (hr, bytes) ← Throws.lift (utilReadBytes addr count)
  if FAILED hr then raise "UtilReadBytes failed. Error 0x%08x." [.hr hr]
  else return .string bytes

/-- `LuaReadWideString(L, addr, count)` (src/luaprov/util.cpp:110-142). -/
def luaReadWideString (addr : UINT64) (count : CInt) : LuaM LuaValue := do
  if badCount count then
    raise "count supports at most %d and can't be 0" [.num (MAX_READ_STRING_LEN - 1)]
  else
    let (hr, buf) ← Throws.lift (utilReadWideString addr count)
    if FAILED hr then raise "UtilReadWideString failed. Error 0x%08x." [.hr hr]
    else
      match ← Throws.lift (ask (.wideCharToMultiByte buf.str UTF8BUF_LEN)) with
      | .error err => raise "WideCharToMultiByte failed. Error %d." [.num err.code.toNat]
      | .ok utf8buf => return .string utf8buf.chars

/-- `LuaReadString(L, addr, count)` (src/luaprov/util.cpp:159-180). -/
def luaReadString (addr : UINT64) (count : CInt) : LuaM LuaValue := do
  if badCount count then
    raise "count supports at most %d and can't be 0" [.num (MAX_READ_STRING_LEN - 1)]
  else
    let (hr, buf) ← Throws.lift (utilReadAnsiString addr count)
    if FAILED hr then raise "UtilReadAnsiString failed. Error 0x%08x." [.hr hr]
    else return .string buf.str

/-! ## Making objects -/

/-- `allocSubTypedObject` (src/luaprov/typedobject.cpp:74-91) on the block `mem`. -/
def allocSubTypedObject (mem : DbgScriptTypedObject) (name : AnsiStr)
    (typedData : DebugTypedData) : LuaM DbgScriptTypedObject := do
  checkAbort
  let (typObj, hr) ← Throws.lift (dsWrapTypedData name typedData mem.unwritten)
  if FAILED hr then raise "DsWrapTypedData failed. Error 0x%08x." [.hr hr]
  else return typObj

/-- `AllocNewTypedObject` (src/luaprov/typedobject.cpp:111-141) on the block `mem`. -/
def allocNewTypedObject (mem : DbgScriptTypedObject) (size : ULONG) (name : Option AnsiStr)
    (typeId : ULONG) (moduleBase virtualAddress : UINT64) (wantPointer : Bool) :
    LuaM DbgScriptTypedObject := do
  checkAbort
  let (typObj, hr) ← Throws.lift
    (dsInitializeTypedObject size name typeId moduleBase virtualAddress wantPointer
      mem.unwritten)
  if FAILED hr then raise "DsInitializeTypedObject failed. Error 0x%08x." [.hr hr]
  else return typObj

/-- `checkTypedData` (src/luaprov/typedobject.cpp:144-154). -/
def checkTypedData (typObj : DbgScriptTypedObject) : LuaM Unit :=
  if !typObj.typedDataValid then raise "object has no typed data. Can't get fields." []
  else return ()

/-! ## Fields and elements -/

/-- The second argument of an indexer. -/
inductive Key where
  | integer (i : BitVec 64)
  | string (s : List CHAR)
  | other

/-- The rest of `getFieldHelper` once the object is known to have typed data
    (src/luaprov/typedobject.cpp:199-221). -/
def getFieldOf (mem typObj : DbgScriptTypedObject) (key : Key) : LuaM LuaResult := do
  match key with
  | .string s =>
    let fieldName := cstrOfChars s
    let (hr, typedData) ← Throws.lift (dsTypedObjectGetField typObj fieldName true)
    if FAILED hr then raise "DsTypedObjectGetField failed. Error 0x%08x." [.hr hr]
    else return .userdata (← allocSubTypedObject mem fieldName typedData)
  | _ => Throws.throw (.badArgument 2)

/-- `TypedObject_getfield`: `getFieldHelper` without an object
    (src/luaprov/typedobject.cpp:180-222, 814-817). -/
def typedObjectGetfield (mem typObj : DbgScriptTypedObject) (key : Key) : LuaM LuaResult := do
  checkAbort
  checkTypedData typObj
  getFieldOf mem typObj key

/-- An element of the object, named `name` (src/luaprov/typedobject.cpp:265-279, 980-995). -/
def getElement (mem typObj : DbgScriptTypedObject) (index : UINT64) (name : AnsiStr) :
    LuaM LuaResult := do
  let (hr, typedData) ← Throws.lift (dsTypedObjectGetArrayElement typObj index)
  if FAILED hr then raise "DsTypedObjectGetArrayElement failed. Error 0x%08x." [.hr hr]
  else return .userdata (← allocSubTypedObject mem name typedData)

/-- `TypedObject_deref` (src/luaprov/typedobject.cpp:966-996). The object's typed data is
    not checked. -/
def typedObjectDeref (mem typObj : DbgScriptTypedObject) : LuaM LuaResult := do
  checkAbort
  getElement mem typObj 0 (cstrOf typObj.name)

/-- `TypedObject_len` (src/luaprov/typedobject.cpp:349-389). The size of the element is not
    checked. -/
def typedObjectLen (typObj : DbgScriptTypedObject) : LuaM LuaResult := do
  checkAbort
  checkTypedData typObj
  if typObj.typedData.tag ≠ .ArrayType then raise "object not array." []
  else
    let (hr, typedData) ← Throws.lift (dsTypedObjectGetArrayElement typObj 0)
    if FAILED hr then raise "DsTypedObjectGetArrayElement failed. Error 0x%08x." [.hr hr]
    else
      let numElems ← Throws.lift (ulongDiv typObj.typedData.size typedData.size)
      return .value (.integer (numElems.setWidth 64))

/-! ## Properties -/

/-- `luaValueFromCValue` (src/luaprov/typedobject.cpp:414-490). -/
def luaValueFromCValue (typObj : DbgScriptTypedObject) : Except LuaError LuaValue :=
  let cValue := typObj.value
  match typObj.typedData.tag with
  | .PointerType => .ok (.integer cValue.ui64Val)
  | .Enum => .ok (.integer (cValue.dwVal.setWidth 64))
  | _ =>
    match typObj.typedData.baseTypeId with
    | .CHAR => .ok (.string [.ofBitVec cValue.byteVal])
    | .INT8 | .UINT8 => .ok (.integer (cValue.byteVal.setWidth 64))
    | .INT16 | .UINT16 | .WCHAR => .ok (.integer (cValue.wordVal.setWidth 64))
    | .INT32 | .LONG32 | .UINT32 | .ULONG32 => .ok (.integer (cValue.dwVal.setWidth 64))
    | .INT64 | .UINT64 => .ok (.integer cValue.ui64Val)
    | .BOOL => .ok (.boolean cValue.boolVal)
    | .FLOAT32 => .ok (.single cValue.floatVal)
    | .FLOAT64 => .ok (.double cValue.doubleVal)
    | .other id => .error (.error "Unsupported type id: %d (%s)"
        [.baseType (.other id), .str typObj.typeName.str])

/-- What a function leaves of the object it is called on, and its result. -/
abbrev Outcome := DbgScriptTypedObject × Except LuaError LuaResult

/-- A function that leaves its object alone. -/
def reading (typObj : DbgScriptTypedObject) (f : LuaM LuaResult) : DsM Outcome :=
  f.attempt >>= fun r => .done (typObj, r)

/-- `TypedObject_getvalue` (src/luaprov/typedobject.cpp:514-557). -/
def typedObjectGetvalue (typObj : DbgScriptTypedObject) : DsM Outcome := do
  let checks : LuaM Unit := do
    checkAbort
    checkTypedData typObj
    if !dsTypedObjectIsPrimitive typObj then raise "not a primitive type." []
  match ← checks.attempt with
  | .error err => return (typObj, .error err)
  | .ok () =>
    let (typObj, hr) ← readTypedData typObj
    if FAILED hr then
      return (typObj, .error (.error "Failed to read typed data. Error 0x%08x." [.hr hr]))
    else return (typObj, (luaValueFromCValue typObj).map LuaResult.value)

/-- Every run of the getter. -/
theorem run_typedObjectGetvalue (a : DebuggerAnswers) (n : ℕ) (o : DbgScriptTypedObject) :
    (typedObjectGetvalue o).run a n =
      if a n .getInterrupt = S_OK then
        ((o, .error (.error "execution interrupted." [])), [.getInterrupt])
      else if o.typedDataValid = false then
        ((o, .error (.error "object has no typed data. Can't get fields." [])), [.getInterrupt])
      else if dsTypedObjectIsPrimitive o = false then
        ((o, .error (.error "not a primitive type." [])), [.getInterrupt])
      else
        let read : Request :=
          .readTypedData o.typedData.offset o.typedData.modBase o.typedData.typeId
        let r := a (n + 1)
          (.readTypedData o.typedData.offset o.typedData.modBase o.typedData.typeId)
        if FAILED r.1 = true then
          ((o, .error (.error "Failed to read typed data. Error 0x%08x." [.hr r.1])),
            [.getInterrupt, read])
        else ((o.withValue r.2, (luaValueFromCValue (o.withValue r.2)).map LuaResult.value),
          [.getInterrupt, read]) := by
  by_cases hint : a n .getInterrupt = S_OK
  · simp [typedObjectGetvalue, checkAbort, hint, raise]
  rw [if_neg hint]
  by_cases hv : o.typedDataValid = false
  · simp [typedObjectGetvalue, checkAbort, checkTypedData, hint, hv, raise]
  rw [if_neg hv]
  by_cases hp : dsTypedObjectIsPrimitive o = false
  · simp [typedObjectGetvalue, checkAbort, checkTypedData, hint, hv, hp, raise]
  rw [if_neg hp]
  by_cases hf : FAILED (a (n + 1)
      (.readTypedData o.typedData.offset o.typedData.modBase o.typedData.typeId)).1 = true
  · simp [typedObjectGetvalue, checkAbort, checkTypedData, hint, hv, hp, hf, readTypedData]
  · simp [typedObjectGetvalue, checkAbort, checkTypedData, hint, hv, hp, hf, readTypedData]

/-- The properties `name`, `size`, `type`, `module` and `address`
    (src/luaprov/typedobject.cpp:581-746). -/
def getter (v : LuaValue) : LuaM LuaResult := do
  checkAbort
  return .value v

def typedObjectGetname (typObj : DbgScriptTypedObject) : LuaM LuaResult :=
  getter (.string typObj.name.str)
def typedObjectGetsize (typObj : DbgScriptTypedObject) : LuaM LuaResult :=
  getter (.integer (typObj.typedData.size.setWidth 64))
def typedObjectGettype (typObj : DbgScriptTypedObject) : LuaM LuaResult :=
  getter (.string typObj.typeName.str)
def typedObjectGetmodule (typObj : DbgScriptTypedObject) : LuaM LuaResult :=
  getter (.string typObj.moduleName.str)
def typedObjectGetaddress (typObj : DbgScriptTypedObject) : LuaM LuaResult :=
  getter (.integer typObj.typedData.offset)

/-- `x_TypedObjectProps` (src/luaprov/typedobject.cpp:1011-1022): the getter of a
    property. -/
def property? (mem typObj : DbgScriptTypedObject) (name : List CHAR) : Option (DsM Outcome) :=
  if name = ansi "name" then some (reading typObj (typedObjectGetname typObj))
  else if name = ansi "size" then some (reading typObj (typedObjectGetsize typObj))
  else if name = ansi "type" then some (reading typObj (typedObjectGettype typObj))
  else if name = ansi "module" then some (reading typObj (typedObjectGetmodule typObj))
  else if name = ansi "value" then some (typedObjectGetvalue typObj)
  else if name = ansi "address" then some (reading typObj (typedObjectGetaddress typObj))
  else if name = ansi "deref" then some (reading typObj (typedObjectDeref mem typObj))
  else none

/-- The entries of the metatable (src/luaprov/typedobject.cpp:1026-1046): the instance
    methods, what `luaL_newmetatable` puts there, and the table of properties. -/
def metatable : List (List CHAR) :=
  ["__index", "__len", "f", "field", "getRuntimeObject", "readString", "readWideString",
    "readBytes", "__name", "__properties"].map ansi

/-- `TypedObject_index` (src/luaprov/typedobject.cpp:247-325): an element, or an entry of
    the metatable, a property (`LuaClassPropIndexer`, src/luaprov/classprop.cpp:125-209)
    or a field. -/
def typedObjectIndex (mem typObj : DbgScriptTypedObject) (key : Key) : DsM Outcome := do
  if ← utilCheckAbort then return (typObj, .error (.error "execution interrupted." []))
  else
    match key with
    | .integer i =>
      reading typObj do
        checkTypedData typObj
        getElement mem typObj i (ansiStr "<arr-elem>")
    | .string s =>
      if s ∈ metatable then return (typObj, .ok (.value (.metafield s)))
      else
        match property? mem typObj s with
        | some get => get
        | none =>
          reading typObj do
            checkTypedData typObj
            checkAbort
            getFieldOf mem typObj key
    | .other => return (typObj, .error (.badArgument 2))

/-! ## Methods -/

/-- `TypedObject_getRuntimeObject` (src/luaprov/typedobject.cpp:770-790). -/
def typedObjectGetRuntimeObject (mem typObj : DbgScriptTypedObject) : LuaM LuaResult := do
  checkAbort
  let (newTypObj, hr) ← Throws.lift (dsTypedObjectGetRuntimeType typObj mem.unwritten)
  if FAILED hr then raise "DsTypedObjectGetRuntimeType failed. Error 0x%08x." [.hr hr]
  else return .userdata newTypObj

/-- `(int)luaL_optinteger(L, 2, -1)`. -/
def optCount (count : Option (BitVec 64)) : CInt := (count.getD (-1)).setWidth 32

/-- `TypedObject_readString` (src/luaprov/typedobject.cpp:842-858). -/
def typedObjectReadString (typObj : DbgScriptTypedObject) (count : Option (BitVec 64)) :
    LuaM LuaResult := do
  checkAbort
  checkTypedData typObj
  return .value (← luaReadString typObj.typedData.offset (optCount count))

/-- `TypedObject_readWideString` (src/luaprov/typedobject.cpp:883-899). -/
def typedObjectReadWideString (typObj : DbgScriptTypedObject) (count : Option (BitVec 64)) :
    LuaM LuaResult := do
  checkAbort
  checkTypedData typObj
  return .value (← luaReadWideString typObj.typedData.offset (optCount count))

/-- `TypedObject_readBytes` (src/luaprov/typedobject.cpp:925-941). -/
def typedObjectReadBytes (typObj : DbgScriptTypedObject) (count : BitVec 64) :
    LuaM LuaResult := do
  checkAbort
  return .value (← luaReadBytes typObj.typedData.offset (count.setWidth 32))

end DbgScript.Lua
