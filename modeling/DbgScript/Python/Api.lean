import DbgScript.Support.TargetMemory
import DbgScript.Support.TypedObject

/-!
# The CPython API as the provider uses it

A function of the provider returns an object or null, and CPython keeps one pending
exception. The calls on CPython are questions like those to the debugger: each gives a
value, or null with an exception pending, as documented.
-/

namespace DbgScript.Python

open CharBuf (CStr Buf)

/-! ## Objects and exceptions -/

/-- The exception classes the provider names, and any other. -/
inductive PyExc where
  | AttributeError
  | KeyboardInterrupt
  | KeyError
  | LookupError
  | MemoryError
  | OSError
  | OverflowError
  | RuntimeError
  | ValueError
  | other (name : String)
  deriving DecidableEq

structure PyErr where
  exc : PyExc
  format : String
  args : List MsgArg
  deriving DecidableEq

/-- The objects the functions return. -/
inductive PyObj where
  | none
  | int (i : ℤ)
  | single (bits : BitVec 32)
  | double (bits : BitVec 64)
  | bool (b : Bool)
  | str (s : List CHAR)
  | wstr (s : List WCHAR)
  | bytes (s : List UInt8)
  | typedObject (data : DbgScriptTypedObject)
  | thread (thread : DbgScriptThread)
  | stackFrame (frame : DbgScriptStackFrame) (thread : DbgScriptThread)
  | tuple (items : List PyObj)
  | attribute

/-! ## Calls on CPython -/

/-- The calls whose outcome CPython decides: making an object (`PyLong_From…`,
    `PyUnicode_From…`, `PyTuple_New`, `tp_new`), `PyTuple_SetItem` and
    `PyObject_GenericGetAttr`; and `PyErr_Occurred` once a command has been executed, whose
    own scripts may leave an exception pending. -/
inductive PyCall where
  | newObject
  | tupleSetItem
  | genericGetAttr (name : List Char)
  | pendingException
  deriving DecidableEq

@[reducible] def PyCall.Answer : PyCall → Type
  | .newObject | .tupleSetItem => Except PyErr Unit
  | .genericGetAttr _ => Except PyErr PyObj
  | .pendingException => Option PyErr

/-- The answer of a call that succeeds, and leaves nothing pending. -/
def PyCall.succeeds : (c : PyCall) → c.Answer
  | .newObject => .ok ()
  | .tupleSetItem => .ok ()
  | .genericGetAttr _ => .ok .attribute
  | .pendingException => none

/-- The answers of the debugger and of CPython. -/
abbrev PyAnswer : Request ⊕ PyCall → Type := Sum.elim Request.Answer PyCall.Answer

abbrev PyAnswers := ℕ → (r : Request ⊕ PyCall) → PyAnswer r

/-- A function of the provider. -/
abbrev PyM (α : Type) := Flagged PyAnswer PyErr α

/-- A call of the support library. -/
def ds {α : Type} (d : DsM α) : PyM α := Flagged.lift d.inl

/-- A call on CPython. -/
def python (c : PyCall) : PyM c.Answer := (Flagged.request (Sum.inr c) : PyM (PyAnswer (.inr c)))

/-- Make the object `o`. -/
def newObject (o : PyObj) : PyM PyObj := do
  let r : Except PyErr Unit ← python .newObject
  Flagged.call r
  return o

/-- What the caller sees of a call that makes `o`. -/
def made (o : PyObj) (flag : Option PyErr) : Except PyErr Unit → Option PyObj × Option PyErr
  | .ok () => (some o, flag)
  | .error e => (none, some e)

theorem attempt_newObject (o : PyObj) (flag : Option PyErr) :
    (newObject o).attempt flag = .ask (.inr .newObject) fun r => .done (made o flag r) := by
  show Dialogue.ask _ _ = _
  congr 1
  funext r
  rcases r with _ | ⟨⟩ <;> rfl

theorem run_newObject (a : PyAnswers) (n : ℕ) (o : PyObj)
    (flag : Option PyErr) :
    (((newObject o).attempt flag).run a n).1 = made o flag (a n (.inr .newObject)) := by
  rw [attempt_newObject]
  rfl

/-- `PyErr_Format(exc, format, args...)`, and null. -/
def raise {α : Type} (exc : PyExc) (format : String) (args : List MsgArg) : PyM α :=
  Flagged.raise ⟨exc, format, args⟩

/-- `CHECK_ABORT` (src/pythonprov/util.h:32-40). -/
def checkAbort : PyM Unit := do
  if ← ds utilCheckAbort then raise .KeyboardInterrupt "" []

theorem asks_ds {α : Type} {Q : Request ⊕ PyCall → Prop} {d : DsM α}
    (h : d.Asks fun r => Q (.inl r))
    (flag : Option PyErr) : ((ds d).attempt flag).Asks Q :=
  Flagged.asks_lift (Dialogue.asks_inl h)

theorem asks_checkAbort {Q : Request ⊕ PyCall → Prop} (h : Q (.inl .getInterrupt))
    (flag : Option PyErr) : (checkAbort.attempt flag).Asks Q := by
  refine Flagged.asks_bind (asks_ds (asks_utilCheckAbort h) flag) ?_
  rintro (_ | _) flag' <;> trivial

/-- A user's interrupt is reported and ends the call. -/
theorem run_checkAbort_bind {α : Type} (a : PyAnswers) (n : ℕ) (flag : Option PyErr)
    (f : Unit → PyM α) :
    ((checkAbort >>= f).attempt flag).run a n =
      if Dialogue.left a n .getInterrupt = S_OK then
        ((none, some ⟨.KeyboardInterrupt, "", []⟩), [.inl .getInterrupt])
      else ((((f ()).attempt flag).run a (n + 1)).1,
        .inl .getInterrupt :: (((f ()).attempt flag).run a (n + 1)).2) := by
  split_ifs with habort
  · simp [checkAbort, ds, raise, habort]
  · simp [checkAbort, ds, raise, habort]

/-- `Py_RETURN_NONE`. -/
def returnNone : PyM PyObj := return .none

/-! ## Arguments -/

/-- The format unit `k` of `PyArg_ParseTuple` on the integer `i`: an `unsigned long`, which
    has 32 bits, without an overflow check. -/
def formatK (i : ℤ) : ULONG := BitVec.ofInt 32 i

/-- The format unit `i` on the integer `i`: an `int`, or an exception. -/
def formatI (i : ℤ) : Except PyErr CInt :=
  if -2 ^ 31 ≤ i ∧ i < 2 ^ 31 then .ok (BitVec.ofInt 32 i)
  else .error ⟨.OverflowError, "Python int too large to convert to C long", []⟩

end DbgScript.Python
