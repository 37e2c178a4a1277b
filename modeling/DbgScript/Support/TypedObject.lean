import DbgScript.Lib.LittleEndian
import DbgScript.Support.Requests

/-!
# Typed objects

`DbgScriptTypedObject` (include/dstypedobject.h:109-163) and the functions of
src/support/dstypedobject.cpp that fill one in and query the debugger with one. The
character arrays and the value union of an object have contents before anything is
written to them.
-/

namespace DbgScript

open CharBuf (CStr Buf FixedStr)

/-! ## The object -/

/-- `TypedObjectValue` (include/dstypedobject.h:109-127): the eight bytes of the union. -/
abbrev TypedObjectValue := Buf UInt8 8

/-- The number that the first `n` bytes denote, least significant byte first. -/
def TypedObjectValue.low (v : TypedObjectValue) (n : ℕ) : ℕ := leNat (v.cells.take n)

/-- The members of the union. The floating-point members are kept as bit patterns. -/
def TypedObjectValue.byteVal (v : TypedObjectValue) : BitVec 8 := BitVec.ofNat 8 (v.low 1)
def TypedObjectValue.wordVal (v : TypedObjectValue) : BitVec 16 := BitVec.ofNat 16 (v.low 2)
def TypedObjectValue.dwVal (v : TypedObjectValue) : BitVec 32 := BitVec.ofNat 32 (v.low 4)
def TypedObjectValue.i64Val (v : TypedObjectValue) : BitVec 64 := BitVec.ofNat 64 (v.low 8)
def TypedObjectValue.ui64Val (v : TypedObjectValue) : BitVec 64 := BitVec.ofNat 64 (v.low 8)
def TypedObjectValue.boolVal (v : TypedObjectValue) : Bool := v.byteVal ≠ 0
def TypedObjectValue.floatVal (v : TypedObjectValue) : BitVec 32 := BitVec.ofNat 32 (v.low 4)
def TypedObjectValue.doubleVal (v : TypedObjectValue) : BitVec 64 := BitVec.ofNat 64 (v.low 8)

section Members

variable (v : TypedObjectValue)

theorem TypedObjectValue.low_eq_leNat_append {bytes : List UInt8} (h : bytes.length ≤ 8) (n : ℕ) :
    TypedObjectValue.low (v.memcpy 0 bytes) n =
      leNat ((bytes ++ v.cells.drop bytes.length).take n) := by
  rw [low, CharBuf.cells_memcpy v (by omega), List.take_zero, List.nil_append, Nat.zero_add]

/-- All of the bytes just written. -/
theorem TypedObjectValue.low_of_length {bytes : List UInt8} {n : ℕ} (h : bytes.length = n)
    (hn : n ≤ 8) : TypedObjectValue.low (v.memcpy 0 bytes) n = leNat bytes := by
  rw [low_eq_leNat_append v (by omega), ← h, List.take_left]

theorem TypedObjectValue.toNat_ofNat_low {n w : ℕ} (hw : 8 * n ≤ w) :
    (BitVec.ofNat w (v.low n)).toNat = v.low n := by
  apply toNat_ofNat_leNat
  have hlen := List.length_take_le n v.cells
  omega

theorem TypedObjectValue.toNat_byteVal : v.byteVal.toNat = v.low 1 := v.toNat_ofNat_low le_rfl
theorem TypedObjectValue.toNat_wordVal : v.wordVal.toNat = v.low 2 := v.toNat_ofNat_low le_rfl
theorem TypedObjectValue.toNat_dwVal : v.dwVal.toNat = v.low 4 := v.toNat_ofNat_low le_rfl
theorem TypedObjectValue.toNat_ui64Val : v.ui64Val.toNat = v.low 8 := v.toNat_ofNat_low le_rfl

end Members

/-- The fields of an object that have been written: the names, `TypedData.Size` and
    `TypedData.Offset`; or these, the rest of `TypedData` and `TypedDataValid`. -/
inductive Stored where
  | nothing
  | header
  | all
  deriving DecidableEq

/-- `DbgScriptTypedObject` (include/dstypedobject.h:132-163). No function reads `stored` or
    `valueBytes`: they record which fields, and how many bytes of the union, have been
    written. -/
structure DbgScriptTypedObject where
  name : Buf CHAR MAX_SYMBOL_NAME_LEN
  typeName : Buf CHAR MAX_SYMBOL_NAME_LEN
  moduleName : Buf CHAR MAX_MODULE_NAME_LEN
  typedData : DebugTypedData
  typedDataValid : Bool
  value : TypedObjectValue
  valueValid : Bool
  stored : Stored
  valueBytes : ℕ

/-- All bytes zero. -/
def DbgScriptTypedObject.zero : DbgScriptTypedObject where
  name := Buf.zero CHAR MAX_SYMBOL_NAME_LEN
  typeName := Buf.zero CHAR MAX_SYMBOL_NAME_LEN
  moduleName := Buf.zero CHAR MAX_MODULE_NAME_LEN
  typedData := .zero
  typedDataValid := false
  value := Buf.zero UInt8 8
  valueValid := false
  stored := .all
  valueBytes := 8

/-- A block of memory with the contents of `mem`, to which nothing has been written. -/
def DbgScriptTypedObject.unwritten (mem : DbgScriptTypedObject) : DbgScriptTypedObject :=
  { mem with stored := .nothing, valueBytes := 0 }

/-- The C string that starts at the first of `cells`. -/
def cstrOfChars (cells : List CHAR) : AnsiStr := ⟨CharBuf.cstr cells, CharBuf.nulFree_cstr _⟩

/-- An ASCII text as a C string. -/
def ansiStr (s : String) : AnsiStr := cstrOfChars (ansi s)

def cstrOf {n : ℕ} (b : Buf CHAR n) : AnsiStr := cstrOfChars b.cells

/-! ## Filling in an object -/

/-- `fillTypeAndModuleName` (src/support/dstypedobject.cpp:37-85). The cached names fit
    the arrays. -/
def fillTypeAndModuleName (typeId : ULONG) (moduleBase : UINT64) (typObj : DbgScriptTypedObject) :
    DsM (DbgScriptTypedObject × HRESULT) := do
  match ← ask (.getCachedTypeName ⟨typeId, moduleBase⟩) with
  | none =>
    outputError "Error: Failed to get type name.\n" []
    return (typObj, E_FAIL)
  | some cachedTypeName =>
    let typObj := { typObj with typeName := typObj.typeName.cchCopy cachedTypeName.chars }
    match ← ask (.getCachedModuleName moduleBase) with
    | none =>
      outputError "Error: Failed to get module name.\n" []
      return (typObj, E_FAIL)
    | some cachedModName =>
      return ({ typObj with moduleName := typObj.moduleName.cchCopy cachedModName.chars }, S_OK)

/-- The questions about the names of a type and its module. -/
theorem asks_fillTypeAndModuleName {Q : Request → Prop} (htype : ∀ t, Q (.getCachedTypeName t))
    (hmod : ∀ modBase, Q (.getCachedModuleName modBase))
    (houtput : ∀ format args, Q (.output format args)) (typeId : ULONG) (moduleBase : UINT64)
    (typObj : DbgScriptTypedObject) :
    (fillTypeAndModuleName typeId moduleBase typObj).Asks Q := by
  simp only [fillTypeAndModuleName, ask, Dialogue.request, Dialogue.ask_bind, Dialogue.done_bind]
  refine ⟨htype _, fun typeName => ?_⟩
  cases typeName with
  | none => exact ⟨houtput _ _, fun _ => trivial⟩
  | some typeName =>
    refine ⟨hmod _, fun modName => ?_⟩
    cases modName with
    | none => exact ⟨houtput _ _, fun _ => trivial⟩
    | some modName => trivial

/-- `DsWrapTypedData(hostCtxt, name, typedData, typObj)`
    (src/support/dstypedobject.cpp:88-111). -/
def dsWrapTypedData (name : AnsiStr) (typedData : DebugTypedData) (typObj : DbgScriptTypedObject) :
    DsM (DbgScriptTypedObject × HRESULT) :=
  fillTypeAndModuleName typedData.typeId typedData.modBase
    { typObj with
      name := typObj.name.cchCopy name.chars
      typedData := typedData
      typedDataValid := true
      stored := .all }

/-- The names an object gets: those of its type, or `<invalid>` for an optimised-away
    local (src/support/dstypedobject.cpp:127-165). -/
def initializeNames (name : Option AnsiStr) (typeId : ULONG) (moduleBase : UINT64)
    (typObj : DbgScriptTypedObject) : DsM (DbgScriptTypedObject × HRESULT) :=
  let name := (name.map CStr.chars).getD (ansi "<unnamed>")
  let typObj := { typObj with name := typObj.name.cchCopy name }
  if moduleBase ≠ 0 then fillTypeAndModuleName typeId moduleBase typObj
  else
    return ({ typObj with
      typeName := typObj.typeName.cchCopy (ansi "<invalid>")
      moduleName := typObj.moduleName.cchCopy (ansi "<invalid>") }, S_OK)

/-- `DsInitializeTypedObject` (src/support/dstypedobject.cpp:114-210). -/
def dsInitializeTypedObject (size : ULONG) (name : Option AnsiStr) (typeId : ULONG)
    (moduleBase virtualAddress : UINT64) (wantPointer : Bool) (typObj : DbgScriptTypedObject) :
    DsM (DbgScriptTypedObject × HRESULT) := do
  let (typObj, hr) ← initializeNames name typeId moduleBase typObj
  if FAILED hr then return (typObj, hr)
  else if virtualAddress ≠ 0 then
    let (hr, outData) ← ask (.setFromTypeId wantPointer moduleBase virtualAddress typeId)
    if FAILED hr then
      outputError "Error: EXT_TDOP_SET_%sFROM_TYPE_ID_AND_U64 operation failed. Error 0x%08x.\n"
        [.str (ansi (if wantPointer then "PTR_" else "")), .hr hr]
      return (typObj, hr)
    else
      return ({ typObj with typedData := outData, typedDataValid := true, stored := .all }, hr)
  else
    -- of the typed data only these two fields are written, and `TypedDataValid` is not
    return ({ typObj with
      typedData := { typObj.typedData with size := size, offset := virtualAddress }
      stored := if typObj.stored = .all then .all else .header }, hr)

/-! ## Queries with an object -/

/-- `DsTypedObjectGetField` (src/support/dstypedobject.cpp:213-300). -/
def dsTypedObjectGetField (typedObj : DbgScriptTypedObject) (fieldName : AnsiStr)
    (fPrintMissing : Bool) : DsM (HRESULT × DebugTypedData) := do
  let (hr, outData) ← ask (.getField typedObj.typedData fieldName)
  if hr = E_NOINTERFACE then
    if fPrintMissing then outputError "Error: No such field '%s'.\n" [.str fieldName.chars]
    return (hr, .zero)
  else if FAILED hr then
    outputError "Error: EXT_TDOP_GET_FIELD operation failed. Error 0x%08x.\n" [.hr hr]
    return (hr, .zero)
  else return (hr, outData)

/-- `DsTypedObjectGetArrayElement` (src/support/dstypedobject.cpp:303-351). -/
def dsTypedObjectGetArrayElement (typObj : DbgScriptTypedObject) (index : UINT64) :
    DsM (HRESULT × DebugTypedData) := do
  if typObj.typedData.tag ≠ .PointerType ∧ typObj.typedData.tag ≠ .ArrayType then
    outputError "Error: Object not a pointer or array.\n" []
    return (E_INVALIDARG, .zero)
  else
    let (hr, outData) ← ask (.getArrayElement typObj.typedData index)
    if FAILED hr then
      outputError "Error: EXT_TDOP_GET_ARRAY_ELEMENT operation failed. Error 0x%08x.\n" [.hr hr]
      return (hr, .zero)
    else return (hr, outData)

/-- `DsTypedObjectIsPrimitive` (src/support/dstypedobject.cpp:354-369). -/
def dsTypedObjectIsPrimitive (typObj : DbgScriptTypedObject) : Bool :=
  typObj.typedData.tag = .BaseType || typObj.typedData.tag = .PointerType ||
    typObj.typedData.tag = .Enum

/-- The object once `bytes` have been read to the start of its union. -/
def DbgScriptTypedObject.withValue (typObj : DbgScriptTypedObject) (bytes : List UInt8) :
    DbgScriptTypedObject :=
  { typObj with
    value := typObj.value.memcpy 0 bytes
    valueValid := true
    valueBytes := if bytes.length ≤ 8 then max typObj.valueBytes bytes.length
      else typObj.valueBytes }

/-- The `ReadTypedDataVirtual` call of the value getters. -/
def readTypedData (typObj : DbgScriptTypedObject) : DsM (DbgScriptTypedObject × HRESULT) := do
  let (hr, bytes) ← ask (.readTypedData typObj.typedData.offset typObj.typedData.modBase
    typObj.typedData.typeId)
  if FAILED hr then return (typObj, hr)
  else return (typObj.withValue bytes, hr)

/-- The part of the text before the first occurrence of `pat`, if there is one: what
    `strstr` and nulling out the match leave. -/
def beforeMatch (pat : List CHAR) : List CHAR → Option (List CHAR)
  | [] => if pat = [] then some [] else none
  | c :: s => if pat.isPrefixOf (c :: s) then some [] else (beforeMatch pat s).map (c :: ·)

/-- The address of the object and its vtable pointer, through one more indirection if
    the typed object is a pointer (src/support/dstypedobject.cpp:390-428). -/
def readVtablePointer (typObj : DbgScriptTypedObject) : DsM (HRESULT × UINT64 × UINT64) := do
  let failed (addr : UINT64) (hr : HRESULT) : DsM (HRESULT × UINT64 × UINT64) := do
    outputError "Error: Failed to read pointer from offset %p. Error 0x%08x.\n" [.ptr addr, .hr hr]
    return (hr, 0, 0)
  let (hr, ptrVal) ← ask (.readPointer typObj.typedData.offset)
  if FAILED hr then failed typObj.typedData.offset hr
  else if typObj.typedData.tag = .PointerType then
    let (hr, newPtrVal) ← ask (.readPointer ptrVal)
    if FAILED hr then failed ptrVal hr
    else return (hr, ptrVal, newPtrVal)
  else return (hr, typObj.typedData.offset, ptrVal)

/-- `DsTypedObjectGetRuntimeType` (src/support/dstypedobject.cpp:385-493): without a
    vtable symbol, or without a type of its name, it returns the code of the last
    successful call and leaves the new object as it was. -/
def dsTypedObjectGetRuntimeType (typObj newTypObj : DbgScriptTypedObject) :
    DsM (DbgScriptTypedObject × HRESULT) := do
  let (hr, objAddr, ptrVal) ← readVtablePointer typObj
  if FAILED hr then return (newTypObj, hr)
  else
    let (hr, name, _) ← ask (.getNameByOffset ptrVal)
    if FAILED hr then
      outputError "Error: Failed to get name from offset %p. Error 0x%08x.\n" [.ptr ptrVal, .hr hr]
      return (newTypObj, hr)
    else
      match beforeMatch (ansi "::`vftable'") name.chars with
      | none =>
        outputError "Error: Object at %p has no vtable.\n" [.ptr ptrVal]
        return (newTypObj, hr)
      | some typeName =>
        match ← ask (.getCachedSymbolType (cstrOfChars typeName)) with
        | none =>
          outputError "Error: Failed to get type id for type '%s'. Error 0x%08x.\n"
            [.str typeName, .hr hr]
          return (newTypObj, hr)
        | some typeInfo =>
          let (newTypObj, hr) ← dsInitializeTypedObject typObj.typedData.size
            (some (cstrOf typObj.name)) typeInfo.typeId typeInfo.moduleBase objAddr false newTypObj
          if FAILED hr then outputError "DsInitializeTypedObject failed. Error 0x%08x." [.hr hr]
          return (newTypObj, hr)

end DbgScript
