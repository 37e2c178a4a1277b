import DbgScript.Support.Locals
import DbgScript.Support.Queries
import DbgScript.Support.TargetMemory
import DbgScript.Support.TypedObject

/-!
# What the scripting interface promises

One interface stands behind the modules, classes and methods that the three languages see:
this is what it promises of each call, in terms of the questions that reach the debugger.
Of an object it knows the names, and the typed data if the debugger has given them. It
leaves open (`unspecified`) what depends on the language or on memory that nothing has
written: text that is not ASCII, typed data that are missing, 32-bit signed values from
`2 ^ 30` on, indices of 32 bits, arrays that Ruby cannot make, and wide strings, which Lua and
Ruby convert in a buffer of their own and Python does not.

The calls are those of the module and of the three classes by their names. A field is asked
for by name (`obj:f(name)` in Lua, `obj[name]` in the others): `obj.name`, which each language
resolves among its own names first, and the standard streams are left out.
-/

namespace DbgScript.ScriptApi

open CharBuf (CStr Buf FixedStr)

/-! ## Objects, replies and errors -/

/-- The typed data of an object, or only its size and address. -/
inductive Contents where
  | typed (data : DebugTypedData)
  | bare (size : ULONG) (address : UINT64)

def Contents.size : Contents → ULONG
  | typed data => data.size
  | bare size _ => size

def Contents.address : Contents → UINT64
  | typed data => data.offset
  | bare _ address => address

/-- A typed object. -/
structure Datum where
  name : List CHAR
  typeName : List CHAR
  moduleName : List CHAR
  contents : Contents

/-- What a script holds on to, the typed objects being represented by `O`. -/
inductive Entity (O : Type) where
  | object (o : O)
  | thread (thd : DbgScriptThread)
  | frame (frame : DbgScriptStackFrame) (thd : DbgScriptThread)

/-- What a call returns. An integer is known up to `2 ^ 64`; `other` is any value that the
    languages do not share. -/
inductive Reply (O : Type) where
  | other
  | nothing
  | integer (i : UINT64)
  | boolean (b : Bool)
  | single (bits : BitVec 32)
  | double (bits : BitVec 64)
  | text (s : List CHAR)
  | entity (e : Entity O)
  | entities (es : List (Entity O))

/-- An error that the script sees, or the end of what is promised. -/
inductive ApiError where
  | raised
  | unspecified
  deriving DecidableEq

abbrev Outcome (O : Type) := Except ApiError (Reply O)

abbrev ApiM (α : Type) := Throws Request.Answer ApiError α

def raised {α : Type} : ApiM α := Throws.throw .raised

def unspecified {α : Type} : ApiM α := Throws.throw .unspecified

/-! ## Calls -/

/-- The functions of the module. -/
inductive ModuleCall where
  | readPtr (addr : UINT64)
  | readBytes (addr : UINT64) (count : ULONG)
  | readString (addr : UINT64) (count : Option CInt)
  | readWideString (addr : UINT64) (count : Option CInt)
  | fieldOffset (type field : AnsiStr)
  | getTypeSize (type : AnsiStr)
  | getNearestSym (addr : UINT64)
  | searchMemory (start size : UINT64) (pattern : List UInt8) (patGran : ULONG)
  | resolveEnum (type : AnsiStr) (value : UINT64)
  | getGlobal (symbol : AnsiStr)
  | createTypedObject (type : AnsiStr) (addr : UINT64)
  | createTypedPointer (type : AnsiStr) (addr : UINT64)
  | getPeb
  | currentThread
  | getThreads
  | startBuffering
  | stopBuffering
  | executeCommand (command : AnsiStr)

/-- What can be done with a typed object. -/
inductive ObjectCall where
  | name
  | type
  | module
  | size
  | address
  | value
  | deref
  | field (name : AnsiStr)
  | element (index : ℕ)
  | length
  | readString (count : Option CInt)
  | readWideString (count : Option CInt)
  | readBytes (count : ULONG)
  | runtimeObject

inductive ThreadCall where
  | engineId
  | threadId
  | teb
  | currentFrame
  | stack

inductive FrameCall where
  | frameNumber
  | instructionOffset
  | locals
  | args

/-! ## Queries -/

/-- A query that fails raises an error. -/
def query {α : Type} (q : DsM (HRESULT × α)) : ApiM α := do
  let (hr, a) ← Throws.lift q
  if FAILED hr then raised else return a

def integer {O : Type} {n : ℕ} (i : BitVec n) : ApiM (Reply O) := return .integer (i.setWidth 64)

def isAscii (s : List CHAR) : Bool := s.all (· < 128)

/-- Text for a script. -/
def text {O : Type} (s : List CHAR) : ApiM (Reply O) :=
  if isAscii s then return .text s else unspecified

/-- The type of a symbol. -/
def symbolType (sym : AnsiStr) : ApiM ModuleAndTypeId := do
  match ← Throws.lift (ask (.getCachedSymbolType sym)) with
  | none => raised
  | some typeInfo => return typeInfo

/-- The string at an address, up to a count of characters or its end. -/
def stringAt (addr : UINT64) (count : Option CInt) : ApiM (Reply Datum) := do
  let count := count.getD (-1)
  if badCount count then raised
  else
    let buf ← query (utilReadAnsiString addr count)
    text buf.str

/-- The wide string at an address: what a script sees of it is left open. -/
def wideStringAt (addr : UINT64) (count : Option CInt) : ApiM (Reply Datum) := do
  let count := count.getD (-1)
  if badCount count then raised
  else
    let _ ← query (utilReadWideString addr count)
    unspecified

def bytesAt (addr : UINT64) (count : ULONG) : ApiM (Reply Datum) := do
  let bytes ← query (utilReadBytes addr count)
  return .text bytes

/-! ## Making objects -/

/-- A new object, or the code that says why there is none. -/
abbrev MakeM (α : Type) := Throws Request.Answer HRESULT α

/-- The names of a type and of its module. -/
def typeNames (typeId : ULONG) (moduleBase : UINT64) : MakeM (List CHAR × List CHAR) := do
  match ← Throws.lift (ask (.getCachedTypeName ⟨typeId, moduleBase⟩)) with
  | none =>
    Throws.lift (outputError "Error: Failed to get type name.\n" [])
    Throws.throw E_FAIL
  | some typeName =>
    match ← Throws.lift (ask (.getCachedModuleName moduleBase)) with
    | none =>
      Throws.lift (outputError "Error: Failed to get module name.\n" [])
      Throws.throw E_FAIL
    | some moduleName => return (typeName.chars, moduleName.chars)

/-- The same, also in module 0, which has no types. -/
def namesOf (typeId : ULONG) (moduleBase : UINT64) : MakeM (List CHAR × List CHAR) :=
  if moduleBase ≠ 0 then typeNames typeId moduleBase
  else return (ansi "<invalid>", ansi "<invalid>")

/-- The longest prefix that an object can hold as its name. -/
def objectName (name : List CHAR) : List CHAR := name.take (MAX_SYMBOL_NAME_LEN - 1)

/-- An object with the typed data. -/
def wrap (name : AnsiStr) (data : DebugTypedData) : MakeM Datum := do
  let (typeName, moduleName) ← typeNames data.typeId data.modBase
  return ⟨objectName name.chars, typeName, moduleName, .typed data⟩

/-- The contents of an object of the type at the address. At address 0 there are no typed
    data. -/
def contentsAt (size typeId : ULONG) (moduleBase address : UINT64) (wantPointer : Bool) :
    MakeM Contents :=
  if address = 0 then return .bare size address
  else do
    let (hr, data) ← Throws.lift (ask (.setFromTypeId wantPointer moduleBase address typeId))
    if FAILED hr then
      Throws.lift (outputError
        "Error: EXT_TDOP_SET_%sFROM_TYPE_ID_AND_U64 operation failed. Error 0x%08x.\n"
        [.str (ansi (if wantPointer then "PTR_" else "")), .hr hr])
      Throws.throw hr
    else return .typed data

/-- An object of the type at the address. -/
def initObject (size : ULONG) (name : Option AnsiStr) (typeId : ULONG)
    (moduleBase address : UINT64) (wantPointer : Bool) : MakeM Datum := do
  let (typeName, moduleName) ← namesOf typeId moduleBase
  let contents ← contentsAt size typeId moduleBase address wantPointer
  return ⟨objectName ((name.map CStr.chars).getD (ansi "<unnamed>")), typeName, moduleName,
    contents⟩

/-- Go on with the new object. Without one, `e` is the end. -/
def orElse {α : Type} (e : ApiError) (d : MakeM α) : ApiM α :=
  Dialogue.bind d.attempt fun
    | .error _ => Throws.throw e
    | .ok x => Throws.attempt (return x)

/-- A call that returns the new object. -/
def object (d : MakeM Datum) : ApiM (Reply Datum) := do
  let x ← orElse .raised d
  return .entity (.object x)

/-- An object of the named type at the address. -/
def create (type : AnsiStr) (addr : UINT64) (wantPointer : Bool) : ApiM (Reply Datum) := do
  let typeInfo ← symbolType type
  object (initObject 0 none typeInfo.typeId typeInfo.moduleBase addr wantPointer)

/-! ## The module -/

/-- `ARY_MAX_SIZE` of Ruby: the length of the longest array that all languages can make. -/
def maxLength : ℕ := (2 ^ 31 - 1) / 8

/-- As many threads as have been counted, by their ids. -/
def threadsOf (cThreads : ULONG) (ids : List (ULONG × ULONG)) : List DbgScriptThread :=
  (List.range cThreads.toNat).map fun i => ⟨(ids.getD i default).1, (ids.getD i default).2⟩

def moduleCall : ModuleCall → ApiM (Reply Datum)
  | .readPtr addr => do integer (← query (ask (.readPointer addr)))
  | .readBytes addr count => bytesAt addr count
  | .readString addr count => stringAt addr count
  | .readWideString addr count => wideStringAt addr count
  | .fieldOffset type field => do integer (← query (utilGetFieldOffset type field))
  | .getTypeSize type => do integer (← query (utilGetTypeSize type))
  | .getNearestSym addr => do
    let name ← query (utilGetNearestSymbol addr)
    text name.str
  | .searchMemory start size pattern patGran =>
    if 2 ^ 31 ≤ pattern.length then unspecified
    else do integer (← query (ask (.searchVirtual start size pattern patGran)))
  | .resolveEnum type value => do
    let typeInfo ← symbolType type
    let name ← query (ask (.getConstantName typeInfo.moduleBase typeInfo.typeId value))
    text name.chars
  | .getGlobal symbol => do
    let addr ← query (ask (.getOffsetByName symbol))
    let typeInfo ← symbolType symbol
    object (initObject 0 (some symbol) typeInfo.typeId typeInfo.moduleBase addr false)
  | .createTypedObject type addr => create type addr false
  | .createTypedPointer type addr => create type addr true
  | .getPeb => do integer (← query (ask .getCurrentProcessPeb))
  | .currentThread => do
    let engineId ← query (ask .getCurrentThreadId)
    let threadId ← query (ask .getCurrentThreadSystemId)
    return .entity (.thread ⟨engineId, threadId⟩)
  | .getThreads => do
    let cThreads ← query utilCountThreads
    let ids ← query (utilEnumThreads cThreads)
    if maxLength < cThreads.toNat then unspecified
    else
      return .entities ((threadsOf cThreads ids).map .thread)
  | .startBuffering => do
    Throws.lift (ask .incrementIsBuffering)
    return .nothing
  | .stopBuffering => do
    let newVal ← Throws.lift (ask .decrementIsBuffering)
    if newVal < 0 then
      Throws.lift (ask .clearIsBuffering)
      raised
    else if newVal = 0 then
      Throws.lift (ask .flushMessageBuffer)
      return .nothing
    else return .nothing
  | .executeCommand command => do
    let hr ← Throws.lift (ask (.executeCommand command))
    if FAILED hr then raised else return .nothing

/-! ## Objects -/

/-- The typed data of the object. -/
def typed (x : Datum) : ApiM DebugTypedData :=
  match x.contents with
  | .typed data => return data
  | .bare _ _ => unspecified

/-- The field of that name. -/
def fieldOf (data : DebugTypedData) (fieldName : AnsiStr) : ApiM DebugTypedData := do
  let (hr, outData) ← Throws.lift (ask (.getField data fieldName))
  if hr = E_NOINTERFACE then
    Throws.lift (outputError "Error: No such field '%s'.\n" [.str fieldName.chars])
    raised
  else if FAILED hr then
    Throws.lift (outputError "Error: EXT_TDOP_GET_FIELD operation failed. Error 0x%08x.\n" [.hr hr])
    raised
  else return outData

/-- The element at that index. -/
def elementOf (data : DebugTypedData) (index : UINT64) : ApiM DebugTypedData := do
  if data.tag ≠ .PointerType ∧ data.tag ≠ .ArrayType then
    Throws.lift (outputError "Error: Object not a pointer or array.\n" [])
    raised
  else
    let (hr, outData) ← Throws.lift (ask (.getArrayElement data index))
    if FAILED hr then
      Throws.lift (outputError
        "Error: EXT_TDOP_GET_ARRAY_ELEMENT operation failed. Error 0x%08x.\n" [.hr hr])
      raised
    else return outData

/-- The first `n` bytes as a number, if the debugger has given that many, and no more than
    there is room for. -/
def low (bytes : List UInt8) (n : ℕ) : ApiM ℕ :=
  if n ≤ bytes.length ∧ bytes.length ≤ 8 then return leNat (bytes.take n) else unspecified

/-- The type has a value. -/
def isPrimitive (data : DebugTypedData) : Bool :=
  data.tag = .BaseType || data.tag = .PointerType || data.tag = .Enum

/-- The value of a primitive type in these bytes. -/
def valueOf (data : DebugTypedData) (bytes : List UInt8) : ApiM (Reply Datum) :=
  match data.tag with
  | .PointerType => do return .integer (BitVec.ofNat 64 (← low bytes 8))
  | .Enum => do return .integer (BitVec.ofNat 64 (← low bytes 4))
  | _ =>
    match data.baseTypeId with
    | .CHAR => do text [.ofBitVec (BitVec.ofNat 8 (← low bytes 1))]
    | .INT8 | .UINT8 => do return .integer (BitVec.ofNat 64 (← low bytes 1))
    | .INT16 | .UINT16 => do return .integer (BitVec.ofNat 64 (← low bytes 2))
    | .WCHAR => unspecified
    | .INT32 | .LONG32 => do
      let n ← low bytes 4
      if n < 2 ^ 30 then return .integer (BitVec.ofNat 64 n) else unspecified
    | .UINT32 | .ULONG32 => do return .integer (BitVec.ofNat 64 (← low bytes 4))
    | .INT64 | .UINT64 => do return .integer (BitVec.ofNat 64 (← low bytes 8))
    | .BOOL => do return .boolean (decide (BitVec.ofNat 8 (← low bytes 1) ≠ 0))
    | .FLOAT32 => do return .single (BitVec.ofNat 32 (← low bytes 4))
    | .FLOAT64 => do return .double (BitVec.ofNat 64 (← low bytes 8))
    | .other _ => raised

/-- The code of a failure is reported once more. -/
def reporting (d : MakeM Datum) : MakeM Datum :=
  Dialogue.bind d.attempt fun
    | .error hr => Throws.attempt do
      Throws.lift (outputError "DsInitializeTypedObject failed. Error 0x%08x." [.hr hr])
      Throws.throw hr
    | .ok x => Throws.attempt (return x)

/-- The pointer at the address. -/
def pointerAt (addr : UINT64) : ApiM UINT64 := do
  let (hr, ptrVal) ← Throws.lift (ask (.readPointer addr))
  if FAILED hr then
    Throws.lift (outputError "Error: Failed to read pointer from offset %p. Error 0x%08x.\n"
      [.ptr addr, .hr hr])
    raised
  else return ptrVal

/-- The address of the object and its vtable pointer. -/
def vtablePointer (data : DebugTypedData) : ApiM (UINT64 × UINT64) := do
  let ptrVal ← pointerAt data.offset
  if data.tag = .PointerType then
    let newPtrVal ← pointerAt ptrVal
    return (ptrVal, newPtrVal)
  else return (data.offset, ptrVal)

/-- An object of the type that the vtable belongs to. -/
def runtimeObject (name : List CHAR) (data : DebugTypedData) : ApiM Datum := do
  let (objAddr, ptrVal) ← vtablePointer data
  let (hr, symbol, _) ← Throws.lift (ask (.getNameByOffset ptrVal))
  if FAILED hr then
    Throws.lift (outputError "Error: Failed to get name from offset %p. Error 0x%08x.\n"
      [.ptr ptrVal, .hr hr])
    raised
  else
    match beforeMatch (ansi "::`vftable'") symbol.chars with
    | none => unspecified
    | some typeName =>
      match ← Throws.lift (ask (.getCachedSymbolType (cstrOfChars typeName))) with
      | none => unspecified
      | some typeInfo =>
        orElse .raised (reporting (initObject data.size (some (cstrOfChars name)) typeInfo.typeId
          typeInfo.moduleBase objAddr false))

def objectCall (x : Datum) : ObjectCall → ApiM (Reply Datum)
  | .name => text x.name
  | .type => text x.typeName
  | .module => text x.moduleName
  | .size => integer x.contents.size
  | .address => integer x.contents.address
  | .value => do
    let data ← typed x
    if isPrimitive data then
      valueOf data (← query (ask (.readTypedData data.offset data.modBase data.typeId)))
    else raised
  | .deref => do
    let elem ← elementOf (← typed x) 0
    object (wrap (cstrOfChars x.name) elem)
  | .field name => do
    let data ← typed x
    if isAscii name.chars then object (wrap name (← fieldOf data name)) else unspecified
  | .element index => do
    let data ← typed x
    if index < 2 ^ 31 then
      object (wrap (ansiStr "<arr-elem>") (← elementOf data (BitVec.ofNat 64 index)))
    else unspecified
  | .length => do
    let data ← typed x
    if data.tag ≠ .ArrayType then raised
    else
      let elem ← elementOf data 0
      integer (← Throws.lift (ulongDiv data.size elem.size))
  | .readString count => do
    let data ← typed x
    stringAt data.offset count
  | .readWideString count => do
    let data ← typed x
    wideStringAt data.offset count
  | .readBytes count => bytesAt x.contents.address count
  | .runtimeObject => do
    let data ← typed x
    let obj ← runtimeObject x.name data
    return .entity (.object obj)

/-! ## Threads and frames -/

/-- The longest stack. -/
def maxFrames : ℕ := 512

def threadCall (thd : DbgScriptThread) : ThreadCall → ApiM (Reply Datum)
  | .engineId => integer thd.engineId
  | .threadId => integer thd.threadId
  | .teb => do integer (← query (ask (.threadGetTeb thd)))
  | .currentFrame => do
    let frame ← query (ask (.getCurrentStackFrame thd))
    return .entity (.frame frame thd)
  | .stack => do
    let frames ← query (ask (.getStackTrace thd (BitVec.ofNat 32 maxFrames)))
    return .entities ((frames.take maxFrames).map fun frame => .frame frame thd)

/-- One more object, of the variable of that name. If it cannot be made nothing is
    promised. -/
def appendVariable (objs : List Datum) (entry : DebugSymbolEntry)
    (symName : FixedStr CHAR MAX_SYMBOL_NAME_LEN) : ApiM (List Datum) := do
  let obj ← orElse .unspecified (initObject entry.size (some symName.toCStr) entry.typeId
    entry.moduleBase entry.offset false)
  return objs ++ [obj]

/-- The objects of the variables from the `i`-th on, unless one of them cannot be read. -/
def variablesFrom : ℕ → ℕ → List Datum → ApiM (Option (List Datum))
  | 0, _, objs => return some objs
  | k + 1, i, objs => do
    match ← Throws.lift (readSymbol i) with
    | .error _ => return none
    | .ok (entry, symName) =>
      let objs ← appendVariable objs entry symName
      variablesFrom k (i + 1) objs

/-- The objects of all variables of a symbol group, which is released. -/
def variablesOf (numSym : ULONG) : ApiM (Option (List Datum)) := do
  let objs ← variablesFrom numSym.toNat 0 []
  Throws.lift (ask .releaseSymbolGroup)
  return objs

/-- The variables of the frame that the flags select. -/
def frameVariables (frame : DbgScriptStackFrame) (thd : DbgScriptThread) (flags : ULONG) :
    ApiM (Reply Datum) := do
  let numSym ← query (ask (.countStackFrameVariables thd frame flags))
  if maxLength < numSym.toNat then unspecified
  else
    match ← variablesOf numSym with
    | none => raised
    | some objs => return .entities (objs.map .object)

def DEBUG_SCOPE_GROUP_ARGUMENTS : ULONG := 1#32
def DEBUG_SCOPE_GROUP_LOCALS : ULONG := 2#32

def frameCall (frame : DbgScriptStackFrame) (thd : DbgScriptThread) :
    FrameCall → ApiM (Reply Datum)
  | .frameNumber => integer frame.frameNumber
  | .instructionOffset => integer frame.instructionOffset
  | .locals => frameVariables frame thd DEBUG_SCOPE_GROUP_LOCALS
  | .args => frameVariables frame thd DEBUG_SCOPE_GROUP_ARGUMENTS

end DbgScript.ScriptApi
