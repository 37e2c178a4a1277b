import DbgScript.Lib.Dialogue
import DbgScript.Support.DebuggerScope
import DbgScript.Support.SymbolCache

/-!
# What the script providers ask the debugger

The objects of the support library that the three providers share
(include/dstypedobject.h) and the questions their functions put to the debugger engine,
to Windows, to the parts of the support library that are modelled on their own (symbol
cache, scope switches, output), and to the processor where C++ leaves the outcome open.
Each comes with the type of its answers; a
`HRESULT` that denotes failure makes the rest of the answer meaningless.
-/

namespace DbgScript

open CharBuf (CStr Buf FixedStr)

def E_NOINTERFACE : HRESULT := 0x80004002#32
def S_FALSE : HRESULT := 1#32

@[simp] theorem failed_E_NOINTERFACE : FAILED E_NOINTERFACE = true := rfl

/-- An ASCII text as `char`s. -/
def ansi (s : String) : List CHAR := s.toList.map fun c => c.toNat.toUInt8

instance : LawfulBEq (List CHAR) := inferInstance

/-! ## Typed data -/

/-- The `SymTag…` values the code compares with. -/
inductive SymTag where
  | Enum
  | PointerType
  | ArrayType
  | BaseType
  | other (tag : ULONG)
  deriving DecidableEq, Inhabited

/-- The values of `BuiltinType` (include/dstypedobject.h:38-106) that have a case of
    their own. -/
inductive BuiltinType where
  | CHAR
  | WCHAR
  | INT8
  | INT16
  | INT32
  | INT64
  | UINT8
  | UINT16
  | UINT32
  | UINT64
  | LONG32
  | ULONG32
  | BOOL
  | FLOAT32
  | FLOAT64
  | other (id : ULONG)
  deriving DecidableEq, Inhabited

/-- `DEBUG_TYPED_DATA`. `internal` stands for the fields that only the engine reads. -/
structure DebugTypedData where
  modBase : UINT64
  offset : UINT64
  size : ULONG
  typeId : ULONG
  baseTypeId : BuiltinType
  tag : SymTag
  internal : ℕ
  deriving DecidableEq, Inhabited

/-- `{0}`. -/
def DebugTypedData.zero : DebugTypedData := ⟨0, 0, 0, 0, .other 0, .other 0, 0⟩

/-- `DEBUG_SYMBOL_ENTRY`, less what nothing reads. -/
structure DebugSymbolEntry where
  moduleBase : UINT64
  offset : UINT64
  size : ULONG
  typeId : ULONG
  deriving DecidableEq, Inhabited

def DebugSymbolEntry.zero : DebugSymbolEntry := ⟨0, 0, 0, 0⟩

/-! ## Messages -/

/-- The arguments of a formatted message. -/
inductive MsgArg where
  | hr (hr : HRESULT)
  | str (s : List CHAR)
  | ptr (addr : UINT64)
  | num (n : ℤ)
  | baseType (t : BuiltinType)
  deriving DecidableEq

/-! ## Questions and answers -/

/-- What a string reader of the engine reports: the characters it has copied to the
    buffer, and the full size in bytes. -/
structure StringRead (α : Type) where
  hr : HRESULT
  copied : List α
  cbActual : ULONG
  deriving Inhabited

inductive Request where
  -- the debugger engine
  | getInterrupt
  | output (format : String) (args : List MsgArg)
  | setFromTypeId (wantPointer : Bool) (modBase offset : UINT64) (typeId : ULONG)
  | getField (inData : DebugTypedData) (fieldName : AnsiStr)
  | getArrayElement (inData : DebugTypedData) (index : UINT64)
  | readTypedData (offset modBase : UINT64) (typeId : ULONG)
  | readPointer (addr : UINT64)
  | readVirtual (addr : UINT64) (count : ULONG)
  | readMultiByteString (addr : UINT64) (maxBytes bufferSize : ULONG)
  | readUnicodeString (addr : UINT64) (maxBytes bufferSize : ULONG)
  | getNameByOffset (addr : UINT64)
  | getOffsetByName (symbol : AnsiStr)
  | getConstantName (modBase : UINT64) (typeId : ULONG) (value : UINT64)
  | getFieldOffset (modBase : UINT64) (typeId : ULONG) (field : AnsiStr)
  | getTypeSize (modBase : UINT64) (typeId : ULONG)
  | getCurrentProcessPeb
  | searchVirtual (start size : UINT64) (pattern : List UInt8) (patGran : ULONG)
  | getNumberThreads
  | getThreadIdsByIndex (count : ULONG)
  | getCurrentThreadId
  | getCurrentThreadSystemId
  | getSymbolEntryInformation (i : ℕ)
  | getSymbolName (i : ℕ)
  | releaseSymbolGroup
  | input (bufferSize : ULONG)
  | flushCallbacks
  -- Windows
  | wideCharToMultiByte (text : List WCHAR) (cbMultiByte : ℕ)
  -- the support library
  | getCachedSymbolType (sym : AnsiStr)
  | getCachedModuleName (modBase : UINT64)
  | getCachedTypeName (modAndTypeId : ModuleAndTypeId)
  | threadGetTeb (thread : DbgScriptThread)
  | getCurrentStackFrame (thread : DbgScriptThread)
  | getStackTrace (thread : DbgScriptThread) (cFrames : ULONG)
  | countStackFrameVariables (thread : DbgScriptThread) (frame : DbgScriptStackFrame)
      (flags : ULONG)
  | executeCommand (command : AnsiStr)
  | incrementIsBuffering
  | decrementIsBuffering
  | clearIsBuffering
  | flushMessageBuffer
  | write (text : AnsiStr)
  -- the processor
  | divideByZero
  deriving DecidableEq

/-- The type of the answers to a question. -/
@[reducible] def Request.Answer : Request → Type
  | .getInterrupt => HRESULT
  | .output _ _ => Unit
  | .setFromTypeId _ _ _ _ | .getField _ _ | .getArrayElement _ _ => HRESULT × DebugTypedData
  | .readTypedData _ _ _ => HRESULT × List UInt8
  | .readPointer _ => HRESULT × UINT64
  | .readVirtual _ _ => HRESULT × List UInt8
  | .readMultiByteString _ _ _ => StringRead CHAR
  | .readUnicodeString _ _ _ => StringRead WCHAR
  | .getNameByOffset _ => HRESULT × FixedStr CHAR MAX_SYMBOL_NAME_LEN × ULONG × UINT64
  | .getOffsetByName _ => HRESULT × UINT64
  | .getConstantName _ _ _ => HRESULT × FixedStr CHAR MAX_SYMBOL_NAME_LEN
  | .getFieldOffset _ _ _ | .getTypeSize _ _ => HRESULT × ULONG
  | .getCurrentProcessPeb => HRESULT × UINT64
  | .searchVirtual _ _ _ _ => HRESULT × UINT64
  | .getNumberThreads => HRESULT × ULONG
  | .getThreadIdsByIndex _ => HRESULT × List (ULONG × ULONG)
  | .getCurrentThreadId | .getCurrentThreadSystemId => HRESULT × ULONG
  | .getSymbolEntryInformation _ => HRESULT × DebugSymbolEntry
  | .getSymbolName _ => HRESULT × FixedStr CHAR MAX_SYMBOL_NAME_LEN
  | .releaseSymbolGroup => Unit
  | .input _ => List CHAR
  | .flushCallbacks => Unit
  | .wideCharToMultiByte _ _ => Except Win32Error AnsiStr
  | .getCachedSymbolType _ => Option ModuleAndTypeId
  | .getCachedModuleName _ => Option (FixedStr CHAR MAX_MODULE_NAME_LEN)
  | .getCachedTypeName _ => Option (FixedStr CHAR MAX_SYMBOL_NAME_LEN)
  | .threadGetTeb _ => HRESULT × UINT64
  | .getCurrentStackFrame _ => HRESULT × DbgScriptStackFrame
  | .getStackTrace _ _ => HRESULT × List DbgScriptStackFrame
  | .countStackFrameVariables _ _ _ => HRESULT × ULONG
  | .executeCommand _ => HRESULT
  | .incrementIsBuffering => Unit
  | .decrementIsBuffering => ℤ
  | .clearIsBuffering | .flushMessageBuffer | .write _ => Unit
  | .divideByZero => ULONG

instance : NeZero MAX_SYMBOL_NAME_LEN := ⟨by decide⟩

instance : NeZero MAX_MODULE_NAME_LEN := ⟨by decide⟩

/-- There is an answer to every question. -/
instance (r : Request) : Inhabited r.Answer := by
  cases r <;> infer_instance

/-- A function of the support library. -/
abbrev DsM (α : Type) := Dialogue Request.Answer α

/-- The debugger's answer to the `n`-th question. -/
abbrev DebuggerAnswers := ℕ → (r : Request) → r.Answer

/-- Ask the debugger. -/
@[simp] def ask (r : Request) : DsM r.Answer := Dialogue.request r

/-- `UtilCheckAbort(hostCtxt)` (src/support/util.cpp:385-393). -/
def utilCheckAbort : DsM Bool := do
  let hr : HRESULT ← ask .getInterrupt
  return decide (hr = S_OK)

@[simp] theorem run_utilCheckAbort (a : DebuggerAnswers) (n : ℕ) :
    utilCheckAbort.run a n = (decide (a n .getInterrupt = S_OK), [.getInterrupt]) := by
  simp [utilCheckAbort]

theorem asks_utilCheckAbort {Q : Request → Prop} (h : Q .getInterrupt) : utilCheckAbort.Asks Q :=
  ⟨h, fun _ => trivial⟩

/-- `a / b` on `ULONG`s. By zero it is undefined: nothing is known of a quotient. -/
def ulongDiv (a b : ULONG) : DsM ULONG :=
  if b = 0 then ask .divideByZero else return a / b

theorem run_ulongDiv_zero (a : DebuggerAnswers) (n : ℕ) (x : ULONG) :
    (ulongDiv x 0).run a n = (a n .divideByZero, [.divideByZero]) := rfl

theorem run_ulongDiv (a : DebuggerAnswers) (n : ℕ) (x : ULONG) {y : ULONG} (hy : y ≠ 0) :
    (ulongDiv x y).run a n = (x / y, []) := by
  rw [ulongDiv, if_neg hy]
  rfl

/-- `DebugControl->Output(DEBUG_OUTPUT_ERROR, format, args...)`. -/
def outputError (format : String) (args : List MsgArg) : DsM Unit := ask (.output format args)

end DbgScript
