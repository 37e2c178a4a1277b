import DbgScript.Python.Api

/-!
# Typed objects in Python

The functions of src/pythonprov/typedobject.cpp and the readers of
src/pythonprov/util.cpp they call. New objects are zeroed by the allocator
(`PyType_GenericNew`).
-/

namespace DbgScript.Python

open CharBuf (CStr Buf)

/-! ## Readers of src/pythonprov/util.cpp -/

/-- `PyReadBytes(addr, count)` (src/pythonprov/util.cpp:41-72). -/
def pyReadBytes (addr : UINT64) (count : ULONG) : PyM PyObj := do
  let (hr, bytes) ← ds (utilReadBytes addr count)
  if FAILED hr then raise .RuntimeError "UtilReadBytes failed. Error 0x%08x." [.hr hr]
  else newObject (.bytes bytes)

/-- `PyReadString(addr, count)` (src/pythonprov/util.cpp:86-112). -/
def pyReadString (addr : UINT64) (count : CInt) : PyM PyObj := do
  if badCount count then
    raise .ValueError "count supports at most %d and can't be 0" [.num (MAX_READ_STRING_LEN - 1)]
  else
    let (hr, buf) ← ds (utilReadAnsiString addr count)
    if FAILED hr then raise .RuntimeError "UtilReadAnsiString failed. Error 0x%08x." [.hr hr]
    else newObject (.str buf.str)

/-- `PyReadWideString(addr, count)` (src/pythonprov/util.cpp:126-152). -/
def pyReadWideString (addr : UINT64) (count : CInt) : PyM PyObj := do
  if badCount count then
    raise .ValueError "count supports at most %d and can't be 0" [.num (MAX_READ_STRING_LEN - 1)]
  else
    let (hr, buf) ← ds (utilReadWideString addr count)
    if FAILED hr then raise .RuntimeError "UtilReadWideString failed. Error 0x%08x." [.hr hr]
    else newObject (.wstr buf.str)

/-! ## Making objects -/

/-- `allocSubTypedObject(name, typedData)` (src/pythonprov/typedobject.cpp:52-94). -/
def allocSubTypedObject (name : AnsiStr) (typedData : DebugTypedData) : PyM PyObj := do
  let _ ← newObject (.typedObject .zero)
  let (data, hr) ← ds (dsWrapTypedData name typedData .zero)
  if FAILED hr then raise .RuntimeError "DsWrapTypedData failed. Error 0x%08x." [.hr hr]
  else return .typedObject data

/-- `AllocTypedObject` (src/pythonprov/typedobject.cpp:873-927). -/
def allocTypedObject (size : ULONG) (name : Option AnsiStr) (typeId : ULONG)
    (moduleBase virtualAddress : UINT64) (wantPointer : Bool) : PyM PyObj := do
  let _ ← newObject (.typedObject .zero)
  let (data, hr) ←
    ds (dsInitializeTypedObject size name typeId moduleBase virtualAddress wantPointer .zero)
  if FAILED hr then raise .RuntimeError "DsInitializeTypedObject failed. Error 0x%08x." [.hr hr]
  else return .typedObject data

/-- `checkTypedData` (src/pythonprov/typedobject.cpp:97-108). -/
def checkTypedData (typedObj : DbgScriptTypedObject) : PyM Unit :=
  if !typedObj.typedDataValid then
    raise .ValueError "Object has no typed data. Can't get fields." []
  else return ()

/-! ## Fields and elements -/

/-- An element of the object, named `name`; `exc` is raised if there is none. -/
def getElement (exc : PyExc) (typObj : DbgScriptTypedObject) (index : UINT64) (name : AnsiStr) :
    PyM PyObj := do
  let (hr, typedData) ← ds (dsTypedObjectGetArrayElement typObj index)
  if FAILED hr then raise exc "DsTypedObjectGetArrayElement failed. Error 0x%08x." [.hr hr]
  else allocSubTypedObject name typedData

/-- `TypedObject_deref` (src/pythonprov/typedobject.cpp:123-158). -/
def typedObjectDeref (typObj : DbgScriptTypedObject) : PyM PyObj := do
  checkAbort
  checkTypedData typObj
  getElement .OSError typObj 0 (cstrOf typObj.name)

/-- `TypedObject_sequence_get_item` (src/pythonprov/typedobject.cpp:174-207). -/
def typedObjectSequenceGetItem (typObj : DbgScriptTypedObject) (index : BitVec 64) :
    PyM PyObj := do
  checkAbort
  checkTypedData typObj
  getElement .RuntimeError typObj index (ansiStr "<arr-elem>")

/-- `PyLong_AsSsize_t(i)`: `-1` with an exception for an integer that does not fit. -/
def asSsizeT (i : ℤ) : PyM (BitVec 64) := fun flag =>
  if -2 ^ 63 ≤ i ∧ i < 2 ^ 63 then .done (some (BitVec.ofInt 64 i), flag)
  else .done (some (-1), some ⟨.OverflowError, "Python int too large to convert to C ssize_t", []⟩)

/-- All characters of `s` are ASCII. -/
def isAscii (s : List Char) : Bool := s.all (·.toNat < 128)

/-- `PyUnicode_AsASCIIString` and `PyBytes_AsString`, as a C string: another character
    raises an exception. -/
def asFieldName (s : List Char) : PyM AnsiStr := do
  if !isAscii s then raise (.other "UnicodeEncodeError") "ordinal not in range(128)" []
  else
    let chars := s.map fun c => c.toNat.toUInt8
    let _ ← newObject (.bytes chars)
    return cstrOfChars chars

/-- `DsTypedObjectGetField` and the object it yields. -/
def getFieldOf (typObj : DbgScriptTypedObject) (fieldName : AnsiStr) : PyM PyObj := do
  let (hr, typedData) ← ds (dsTypedObjectGetField typObj fieldName true)
  if FAILED hr then raise .RuntimeError "DsTypedObjectGetField failed. Error 0x%08x." [.hr hr]
  else allocSubTypedObject fieldName typedData

/-- The key of a subscript: an `int`, a `str`, or another object. -/
inductive Key where
  | int (i : ℤ)
  | str (s : List Char)
  | other

/-- `TypedObject_mapping_subscript` (src/pythonprov/typedobject.cpp:222-298). An index
    of `-1` is taken for an error of `PyLong_AsSsize_t`. -/
def typedObjectMappingSubscript (typObj : DbgScriptTypedObject) (key : Key) : PyM PyObj := do
  checkAbort
  match key with
  | .int i =>
    let index ← asSsizeT i
    if index = -1 then Flagged.null else typedObjectSequenceGetItem typObj index
  | .str s =>
    checkTypedData typObj
    let fieldName ← asFieldName s
    getFieldOf typObj fieldName
  | .other => raise .KeyError "key must be a unicode object" []

/-- What `TypedObject_getattro` does with the outcome of the generic lookup: if there is no
    such attribute, it looks for a field. The object's typed data is not checked. -/
def attributeOrField (typObj : DbgScriptTypedObject) (attr : List Char) :
    Except PyErr PyObj → PyM PyObj
  | .ok ret => return ret
  | .error err => do
    if err.exc ≠ .AttributeError then Flagged.raise err
    else
      Flagged.clear
      let fieldName ← asFieldName attr
      getFieldOf typObj fieldName

/-- `TypedObject_getattro` (src/pythonprov/typedobject.cpp:429-494). -/
def typedObjectGetattro (typObj : DbgScriptTypedObject) (attr : List Char) : PyM PyObj := do
  let r : Except PyErr PyObj ← python (.genericGetAttr attr)
  attributeOrField typObj attr r

/-- `TypedObject_sequence_length` (src/pythonprov/typedobject.cpp:573-610); null stands
    for `-1`. There is no `CHECK_ABORT`, and the size of the element is not checked. -/
def typedObjectSequenceLength (typObj : DbgScriptTypedObject) : PyM ℕ := do
  checkTypedData typObj
  if typObj.typedData.tag ≠ .ArrayType then raise .ValueError "Object not array." []
  else
    let (hr, typedData) ← ds (dsTypedObjectGetArrayElement typObj 0)
    if FAILED hr then
      raise .RuntimeError "DsTypedObjectGetArrayElement failed. Error 0x%08x." [.hr hr]
    else
      let numElems ← ds (ulongDiv typObj.typedData.size typedData.size)
      return numElems.toNat

/-! ## Properties -/

/-- `pyValueFromCValue` (src/pythonprov/typedobject.cpp:308-388). A `long` has 32 bits. -/
def pyValueFromCValue (typObj : DbgScriptTypedObject) : PyM PyObj :=
  let cValue := typObj.value
  match typObj.typedData.tag with
  | .PointerType => newObject (.int cValue.ui64Val.toNat)
  | .Enum => newObject (.int cValue.dwVal.toNat)
  | _ =>
    match typObj.typedData.baseTypeId with
    | .CHAR => newObject (.str [.ofBitVec cValue.byteVal])
    | .INT8 | .UINT8 => newObject (.int cValue.byteVal.toNat)
    | .INT16 | .UINT16 => newObject (.int cValue.wordVal.toNat)
    | .WCHAR => newObject (.wstr [.ofBitVec cValue.wordVal])
    | .INT32 | .LONG32 => newObject (.int cValue.dwVal.toInt)
    | .UINT32 | .ULONG32 => newObject (.int cValue.dwVal.toNat)
    | .INT64 => newObject (.int cValue.i64Val.toInt)
    | .UINT64 => newObject (.int cValue.ui64Val.toNat)
    | .BOOL => newObject (.bool cValue.boolVal)
    | .FLOAT32 => newObject (.single cValue.floatVal)
    | .FLOAT64 => newObject (.double cValue.doubleVal)
    | .other id => raise .ValueError "Unsupported type id: %d (%s)"
        [.baseType (.other id), .str typObj.typeName.str]

/-- What a function leaves of the object it is called on, with what it returns. -/
abbrev Outcome := DbgScriptTypedObject × (Option PyObj × Option PyErr)

/-- `TypedObject_get_value` (src/pythonprov/typedobject.cpp:509-559). -/
def typedObjectGetValue (typObj : DbgScriptTypedObject) (flag : Option PyErr) :
    Dialogue PyAnswer Outcome := do
  let checks : PyM Unit := do
    checkAbort
    checkTypedData typObj
    if !dsTypedObjectIsPrimitive typObj then raise .ValueError "Not a primitive type." []
  match ← checks.attempt flag with
  | (none, flag) => return (typObj, none, flag)
  | (some (), flag) =>
    let (typObj, hr) ← (readTypedData typObj).inl
    if FAILED hr then
      return (typObj, none,
        some ⟨.RuntimeError, "Failed to read typed data. Error 0x%08x.", [.hr hr]⟩)
    else
      let r ← (pyValueFromCValue typObj).attempt flag
      return (typObj, r)

/-- The same, as seen by the interpreter. -/
def typedObjectGetValueResult (typObj : DbgScriptTypedObject) : PyM PyObj :=
  fun flag => typedObjectGetValue typObj flag >>= fun r => .done r.2

/-- `TypedObject_str` (src/pythonprov/typedobject.cpp:403-413). -/
def typedObjectStr : PyM PyObj := do
  checkAbort
  newObject (.str (ansi "dbgscript.TypedObject"))

/-! ## Methods -/

/-- `TypedObject_read_wide_string` (src/pythonprov/typedobject.cpp:626-656) with the
    outcome of parsing `"|i:read_wide_string"`. -/
def typedObjectReadWideString (typObj : DbgScriptTypedObject) (args : Except PyErr (Option CInt)) :
    PyM PyObj := do
  checkAbort
  checkTypedData typObj
  let count ← Flagged.call args
  pyReadWideString typObj.typedData.offset (count.getD (-1))

/-- `TypedObject_read_string` (src/pythonprov/typedobject.cpp:673-704). -/
def typedObjectReadString (typObj : DbgScriptTypedObject) (args : Except PyErr (Option CInt)) :
    PyM PyObj := do
  checkAbort
  checkTypedData typObj
  let count ← Flagged.call args
  pyReadString typObj.typedData.offset (count.getD (-1))

/-- `TypedObject_read_bytes` (src/pythonprov/typedobject.cpp:719-736). -/
def typedObjectReadBytes (typObj : DbgScriptTypedObject) (args : Except PyErr ULONG) :
    PyM PyObj := do
  checkAbort
  let count ← Flagged.call args
  pyReadBytes typObj.typedData.offset count

/-- `TypedObject_get_runtime_obj` (src/pythonprov/typedobject.cpp:752-790). -/
def typedObjectGetRuntimeObj (typObj : DbgScriptTypedObject) : PyM PyObj := do
  checkAbort
  let _ ← newObject (.typedObject .zero)
  let (data, hr) ← ds (dsTypedObjectGetRuntimeType typObj .zero)
  if FAILED hr then
    raise .RuntimeError "DsTypedObjectGetRuntimeType failed. Error 0x%08x." [.hr hr]
  else return .typedObject data

end DbgScript.Python
