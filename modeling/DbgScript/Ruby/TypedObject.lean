import DbgScript.Support.TargetMemory
import DbgScript.Support.TypedObject

/-!
# Typed objects in Ruby

The functions of src/rubyprov/typedobject.cpp and the readers of src/rubyprov/util.cpp
they call. New objects are zeroed by the allocator, and an error is raised by a
non-local jump.

The provider is built against Ruby 2.3 for 64-bit Windows, where `long` has 32 bits and
`VALUE` has 64. An `Integer` is a `Fixnum` there if it has at most 31 bits, and a
`Bignum` otherwise.
-/

namespace DbgScript.Ruby

open CharBuf (CStr Buf)

/-! ## Ruby values and errors -/

/-- The values the functions return. A `Fixnum` is its `VALUE`, flag bit included. -/
inductive RubyValue where
  | fixnum (word : BitVec 64)
  | bignum (i : ℤ)
  | single (bits : BitVec 32)
  | double (bits : BitVec 64)
  | boolean (b : Bool)
  | string (s : List CHAR)
  | typedObject (typObj : DbgScriptTypedObject)

/-- `FIXABLE(i)`: the integer fits in a `long` without its lowest bit. -/
def fixable (i : ℤ) : Bool := -2 ^ 30 ≤ i && i < 2 ^ 30

/-- The `Integer` `i`. `==` and `hash` take two `Fixnum`s for equal iff their words are,
    so this is the only `VALUE` that is that integer. -/
def integer (i : ℤ) : RubyValue :=
  if fixable i then .fixnum (BitVec.ofInt 64 (2 * i + 1)) else .bignum i

/-- `INT2FIX(i)`: shift the `VALUE` and set the flag, for integers of at most 31 bits. -/
def INT2FIX (i : BitVec 64) : RubyValue := .fixnum (i <<< 1 ||| 1)

/-- `ULONG2NUM`, `ULL2NUM` and `LL2NUM`. -/
def ULONG2NUM (i : BitVec 32) : RubyValue := integer i.toNat
def ULL2NUM (i : BitVec 64) : RubyValue := integer i.toNat
def LL2NUM (i : BitVec 64) : RubyValue := integer i.toInt

/-- The exception classes the functions name. -/
inductive RubyClass where
  | RuntimeError
  | TypeError
  | ArgumentError
  | RangeError
  | Interrupt
  deriving DecidableEq

/-- A raised exception, or what `method_missing` of the superclass raises. -/
inductive RubyError where
  | raised (cls : RubyClass) (format : String) (args : List MsgArg)
  | superMethodMissing
  deriving DecidableEq

abbrev RubyM (α : Type) := Throws Request.Answer RubyError α

def rbRaise {α : Type} (cls : RubyClass) (format : String) (args : List MsgArg) : RubyM α :=
  Throws.throw (.raised cls format args)

/-- `NUM2INT(i)`: an `Integer` that is no `int` raises a `RangeError`. -/
def NUM2INT (i : ℤ) : RubyM CInt :=
  if -2 ^ 31 ≤ i ∧ i < 2 ^ 31 then return BitVec.ofInt 32 i
  else rbRaise .RangeError "integer %d does not fit in an int" [.num i]

/-- `NUM2ULONG(i)`: negative integers are taken modulo `2 ^ 32`. -/
def NUM2ULONG (i : ℤ) : RubyM ULONG :=
  if -2 ^ 31 ≤ i ∧ i < 2 ^ 32 then return BitVec.ofInt 32 i
  else rbRaise .RangeError "integer %d does not fit in an unsigned long" [.num i]

/-- `CHECK_ABORT` (src/rubyprov/common.h:42-48). -/
def checkAbort : RubyM Unit := do
  if ← Throws.lift utilCheckAbort then rbRaise .Interrupt "Execution interrupted." []

theorem asks_checkAbort {Q : Request → Prop} (h : Q .getInterrupt) : checkAbort.attempt.Asks Q := by
  refine Throws.asks_bind (Throws.asks_lift (asks_utilCheckAbort h)) ?_
  rintro (_ | _) <;> trivial

/-- A user's interrupt is reported and ends the call. -/
theorem run_checkAbort_bind {α : Type} (a : DebuggerAnswers) (n : ℕ) (f : Unit → RubyM α) :
    (checkAbort >>= f).attempt.run a n =
      if a n .getInterrupt = S_OK then
        (.error (.raised .Interrupt "Execution interrupted." []), [.getInterrupt])
      else
        (((f ()).attempt.run a (n + 1)).1, .getInterrupt :: ((f ()).attempt.run a (n + 1)).2) := by
  split_ifs with habort
  · simp [checkAbort, rbRaise, habort]
  · simp [checkAbort, rbRaise, habort]

/-! ## Readers of src/rubyprov/util.cpp -/

/-- `RbReadBytes(addr, count)` (src/rubyprov/util.cpp:57-83). -/
def rbReadBytes (addr : UINT64) (count : ℤ) : RubyM RubyValue := do
  let cb ← NUM2ULONG count
  let (hr, bytes) ← Throws.lift (utilReadBytes addr cb)
  if FAILED hr then rbRaise .RuntimeError "UtilReadBytes failed. Error 0x%08x." [.hr hr]
  else return .string bytes

/-- `RbReadString(addr, count)` (src/rubyprov/util.cpp:97-116). -/
def rbReadString (addr : UINT64) (count : CInt) : RubyM RubyValue := do
  if badCount count then
    rbRaise .ArgumentError "count supports at most %d and can't be 0"
      [.num (MAX_READ_STRING_LEN - 1)]
  else
    let (hr, buf) ← Throws.lift (utilReadAnsiString addr count)
    if FAILED hr then rbRaise .RuntimeError "UtilReadAnsiString failed. Error 0x%08x." [.hr hr]
    else return .string buf.str

/-- `RbReadWideString(addr, count)` (src/rubyprov/util.cpp:130-159). -/
def rbReadWideString (addr : UINT64) (count : CInt) : RubyM RubyValue := do
  if badCount count then
    rbRaise .ArgumentError "count supports at most %d and can't be 0"
      [.num (MAX_READ_STRING_LEN - 1)]
  else
    let (hr, buf) ← Throws.lift (utilReadWideString addr count)
    if FAILED hr then rbRaise .RuntimeError "UtilReadWideString failed. Error 0x%08x." [.hr hr]
    else
      match ← Throws.lift (ask (.wideCharToMultiByte buf.str UTF8BUF_LEN)) with
      | .error err =>
        rbRaise .RuntimeError "WideCharToMultiByte failed. Error %d." [.num err.code.toNat]
      | .ok utf8buf => return .string utf8buf.chars

/-! ## Making objects -/

/-- `allocTypedObjFromTypedData` (src/rubyprov/typedobject.cpp:37-56). -/
def allocTypedObjFromTypedData (name : AnsiStr) (typedData : DebugTypedData) :
    RubyM RubyValue := do
  let (obj, hr) ← Throws.lift (dsWrapTypedData name typedData .zero)
  if FAILED hr then rbRaise .RuntimeError "DsWrapTypedData failed. Error 0x%08x." [.hr hr]
  else return .typedObject obj

/-- `AllocTypedObject` (src/rubyprov/typedobject.cpp:742-776). -/
def allocTypedObject (size : ULONG) (name : Option AnsiStr) (typeId : ULONG)
    (moduleBase virtualAddress : UINT64) (wantPointer : Bool) : RubyM RubyValue := do
  let (obj, hr) ← Throws.lift
    (dsInitializeTypedObject size name typeId moduleBase virtualAddress wantPointer .zero)
  if FAILED hr then rbRaise .RuntimeError "DsInitializeTypedObject failed. Error 0x%08x." [.hr hr]
  else return .typedObject obj

/-- `checkTypedData(typedObj, true)` (src/rubyprov/typedobject.cpp:99-117). -/
def checkTypedData (typedObj : DbgScriptTypedObject) : RubyM Unit :=
  if !typedObj.typedDataValid then rbRaise .TypeError "Object has no typed data." []
  else return ()

/-! ## Properties -/

/-- `rbValueFromCValue` (src/rubyprov/typedobject.cpp:131-208). -/
def rbValueFromCValue (typObj : DbgScriptTypedObject) : Except RubyError RubyValue :=
  let cValue := typObj.value
  match typObj.typedData.tag with
  | .PointerType => .ok (ULL2NUM cValue.ui64Val)
  | .Enum => .ok (ULONG2NUM cValue.dwVal)
  | _ =>
    match typObj.typedData.baseTypeId with
    | .CHAR => .ok (.string [.ofBitVec cValue.byteVal])
    | .INT8 | .UINT8 => .ok (INT2FIX (cValue.byteVal.setWidth 64))
    | .INT16 | .UINT16 | .WCHAR => .ok (INT2FIX (cValue.wordVal.setWidth 64))
    | .INT32 | .LONG32 => .ok (INT2FIX (cValue.dwVal.setWidth 64))
    | .UINT32 | .ULONG32 => .ok (ULONG2NUM cValue.dwVal)
    | .INT64 => .ok (LL2NUM cValue.i64Val)
    | .UINT64 => .ok (ULL2NUM cValue.ui64Val)
    | .BOOL => .ok (.boolean cValue.boolVal)
    | .FLOAT32 => .ok (.single cValue.floatVal)
    | .FLOAT64 => .ok (.double cValue.doubleVal)
    | .other id => .error (.raised .RuntimeError "Unsupported type id: %d (%s)"
        [.baseType (.other id), .str typObj.typeName.str])

/-- What a function leaves of the object it is called on, and its result. -/
abbrev Outcome := DbgScriptTypedObject × Except RubyError RubyValue

/-- A function that leaves its object alone. -/
def reading (typObj : DbgScriptTypedObject) (f : RubyM RubyValue) : DsM Outcome :=
  f.attempt >>= fun r => .done (typObj, r)

/-- `TypedObject_value` (src/rubyprov/typedobject.cpp:430-472). -/
def typedObjectValue (typObj : DbgScriptTypedObject) : DsM Outcome := do
  let checks : RubyM Unit := do
    checkAbort
    checkTypedData typObj
    if !dsTypedObjectIsPrimitive typObj then rbRaise .TypeError "Not a primitive type." []
  match ← checks.attempt with
  | .error err => return (typObj, .error err)
  | .ok () =>
    let (typObj, hr) ← readTypedData typObj
    if FAILED hr then
      return (typObj,
        .error (.raised .RuntimeError "Failed to read typed data. Error 0x%08x." [.hr hr]))
    else return (typObj, rbValueFromCValue typObj)

/-- The methods `data_size`, `name`, `type`, `module` and `address`
    (src/rubyprov/typedobject.cpp:491-607). -/
def getter (v : RubyValue) : RubyM RubyValue := do
  checkAbort
  return v

def typedObjectDataSize (typObj : DbgScriptTypedObject) : RubyM RubyValue :=
  getter (ULONG2NUM typObj.typedData.size)
def typedObjectName (typObj : DbgScriptTypedObject) : RubyM RubyValue :=
  getter (.string typObj.name.str)
def typedObjectType (typObj : DbgScriptTypedObject) : RubyM RubyValue :=
  getter (.string typObj.typeName.str)
def typedObjectModule (typObj : DbgScriptTypedObject) : RubyM RubyValue :=
  getter (.string typObj.moduleName.str)
def typedObjectAddress (typObj : DbgScriptTypedObject) : RubyM RubyValue :=
  getter (ULL2NUM typObj.typedData.offset)

/-! ## Fields and elements -/

/-- An element of the object, named `name`. -/
def getElement (typObj : DbgScriptTypedObject) (index : UINT64) (name : AnsiStr) :
    RubyM RubyValue := do
  let (hr, typedData) ← Throws.lift (dsTypedObjectGetArrayElement typObj index)
  if FAILED hr then
    rbRaise .RuntimeError "DsTypedObjectGetArrayElement failed. Error 0x%08x." [.hr hr]
  else allocTypedObjFromTypedData name typedData

/-- `TypedObject_deref` (src/rubyprov/typedobject.cpp:386-415). -/
def typedObjectDeref (typObj : DbgScriptTypedObject) : RubyM RubyValue := do
  checkAbort
  checkTypedData typObj
  getElement typObj 0 (cstrOf typObj.name)

/-- `TypedObject_method_missing` (src/rubyprov/typedobject.cpp:630-670): the name of the
    missing method is taken for that of a field. -/
def typedObjectMethodMissing (typObj : DbgScriptTypedObject) (method : List CHAR) :
    RubyM RubyValue := do
  checkAbort
  if !typObj.typedDataValid then Throws.throw .superMethodMissing
  else
    let fieldName := cstrOfChars method
    let (hr, typedData) ← Throws.lift (dsTypedObjectGetField typObj fieldName false)
    if FAILED hr then Throws.throw .superMethodMissing
    else allocTypedObjFromTypedData fieldName typedData

/-- `TypedObject_length` (src/rubyprov/typedobject.cpp:684-718). The size of the element is
    not checked. -/
def typedObjectLength (typObj : DbgScriptTypedObject) : RubyM RubyValue := do
  checkAbort
  checkTypedData typObj
  if typObj.typedData.tag ≠ .ArrayType then rbRaise .TypeError "Object not array." []
  else
    let (hr, typedData) ← Throws.lift (dsTypedObjectGetArrayElement typObj 0)
    if FAILED hr then
      rbRaise .RuntimeError "DsTypedObjectGetArrayElement failed. Error 0x%08x." [.hr hr]
    else
      let numElems ← Throws.lift (ulongDiv typObj.typedData.size typedData.size)
      return ULONG2NUM numElems

/-- The argument of `[]`: a `String`, an object that converts to an `Integer`, or
    another one. -/
inductive Key where
  | string (s : List CHAR)
  | integer (i : ℤ)
  | other

/-- `TypedObject_get_item` (src/rubyprov/typedobject.cpp:791-846). -/
def typedObjectGetItem (typObj : DbgScriptTypedObject) (key : Key) : RubyM RubyValue := do
  checkAbort
  checkTypedData typObj
  match key with
  | .string s =>
    let field := cstrOfChars s
    let (hr, typedData) ← Throws.lift (dsTypedObjectGetField typObj field true)
    if FAILED hr then
      rbRaise .RuntimeError "DsTypedObjectGetField failed. Error 0x%08x." [.hr hr]
    else allocTypedObjFromTypedData field typedData
  | .integer i =>
    let index ← NUM2INT i
    -- an `int` index is sign-extended to the `UINT64` of the request
    getElement typObj (index.signExtend 64) (ansiStr "<arr-elem>")
  | .other => rbRaise .TypeError "no implicit conversion to integer" []

/-! ## Methods -/

/-- `TypedObject_get_runtime_obj` (src/rubyprov/typedobject.cpp:224-249). -/
def typedObjectGetRuntimeObj (typObj : DbgScriptTypedObject) : RubyM RubyValue := do
  checkAbort
  let (newObj, hr) ← Throws.lift (dsTypedObjectGetRuntimeType typObj .zero)
  if FAILED hr then
    rbRaise .RuntimeError "DsTypedObjectGetRuntimeType failed. Error: 0x%08x" [.hr hr]
  else return .typedObject newObj

/-- `TypedObject_read_bytes` (src/rubyprov/typedobject.cpp:264-275). -/
def typedObjectReadBytes (typObj : DbgScriptTypedObject) (count : ℤ) : RubyM RubyValue := do
  checkAbort
  rbReadBytes typObj.typedData.offset count

/-- The optional `count` of the string readers: `-1` if it is missing. -/
def countArg (argv : List ℤ) : RubyM CInt :=
  match argv with
  | [] => return -1
  | [count] => NUM2INT count
  | _ => rbRaise .ArgumentError "wrong number of arguments" []

/-- `TypedObject_read_string` (src/rubyprov/typedobject.cpp:292-323). -/
def typedObjectReadString (typObj : DbgScriptTypedObject) (argv : List ℤ) :
    RubyM RubyValue := do
  checkAbort
  checkTypedData typObj
  let count ← countArg argv
  rbReadString typObj.typedData.offset count

/-- `TypedObject_read_wide_string` (src/rubyprov/typedobject.cpp:340-371). -/
def typedObjectReadWideString (typObj : DbgScriptTypedObject) (argv : List ℤ) :
    RubyM RubyValue := do
  checkAbort
  checkTypedData typObj
  let count ← countArg argv
  rbReadWideString typObj.typedData.offset count

end DbgScript.Ruby
