import DbgScript.Python.Functions

/-!
# Null and the pending exception

CPython expects that a function that returns null (or `-1` for a length) leaves an
exception pending, and that any other leaves none.

* `conventional_…`: each function keeps to this, also when it is called while an
  exception is pending.
* `leaves_fillTuple`, `leaves_enumSymbols`: the loops that fill a tuple stop with a
  failure code when they have left an exception.
* `nullIffPending_iff`: the calls that break the convention are those of
  `execute_command` whose command fails or leaves an exception pending, and the subscripts
  `-1`.
-/

namespace DbgScript.Python

open CharBuf (CStr Buf FixedStr)
open Flagged (Conventional Conforms InStep conventional_bind conventional_pure conventional_raise
  conventional_call conventional_lift conventional_request conforms_bind leaves_lift leaves_orNull)

/-! ## Building blocks -/

variable {α β : Type}

theorem conventional_ite {c : Prop} [Decidable c] {d e : PyM α} (hd : Conventional d)
    (he : Conventional e) : Conventional (if c then d else e) := by
  split_ifs
  · exact hd
  · exact he

theorem conventional_ds (d : DsM α) : Conventional (ds d) := conventional_lift _

theorem conventional_python (c : PyCall) : Conventional (python c) := by
  show Conventional (Flagged.request (Sum.inr c) : PyM (PyAnswer (.inr c)))
  exact conventional_request _

theorem leaves_python {c : PyCall} {f : c.Answer → PyM α} {flag : Option PyErr}
    {P : Option α × Option PyErr → Prop} (h : ∀ r, ((f r).attempt flag).Leaves P) :
    ((python c >>= f).attempt flag).Leaves P := h

theorem conventional_checkAbort : Conventional checkAbort := by
  refine conventional_bind (conventional_ds _) ?_
  intro aborted
  exact conventional_ite (conventional_raise _) (conventional_pure _)

theorem conventional_newObject (o : PyObj) : Conventional (newObject o) := by
  refine conventional_bind (conventional_python .newObject) ?_
  intro r
  refine conventional_bind (conventional_call r) ?_
  intro _
  exact conventional_pure o

/-- A function that checks for an interrupt, parses its arguments and goes on. -/
theorem conventional_parsed {args : Except PyErr α} {body : α → PyM β}
    (h : ∀ a, Conventional (body a)) :
    Conventional (do checkAbort; let a ← Flagged.call args; body a) := by
  refine conventional_bind conventional_checkAbort ?_
  intro _
  exact conventional_bind (conventional_call args) h

/-- A call of the support library that returns a code. -/
theorem conventional_query {q : DsM (HRESULT × α)} {f : HRESULT × α → PyM β}
    (h : ∀ hr a, Conventional (f (hr, a))) : Conventional (ds q >>= f) :=
  conventional_bind (conventional_ds q) fun r => h r.1 r.2

theorem conventional_unless {c : Prop} [Decidable c] {exc : PyExc} {format : String}
    {args : List MsgArg} {d : PyM α} (hd : Conventional d) :
    Conventional (if c then raise exc format args else d) :=
  conventional_ite (conventional_raise _) hd

theorem conforms_query {q : DsM (HRESULT × α)} {f : HRESULT × α → PyM β}
    (h : ∀ hr a, Conforms (f (hr, a))) : Conforms (ds q >>= f) :=
  conforms_bind (conventional_ds q).conforms fun r => h r.1 r.2

theorem conforms_unless {c : Prop} [Decidable c] {exc : PyExc} {format : String}
    {args : List MsgArg} {d : PyM α} (hd : Conforms d) :
    Conforms (if c then raise exc format args else d) := by
  split_ifs
  · exact (conventional_raise _).conforms
  · exact hd

/-! ## Readers -/

theorem conventional_pyReadBytes (addr : UINT64) (count : ULONG) :
    Conventional (pyReadBytes addr count) := by
  refine conventional_query ?_
  intro hr bytes
  exact conventional_unless (conventional_newObject _)

theorem conventional_pyReadString (addr : UINT64) (count : CInt) :
    Conventional (pyReadString addr count) := by
  refine conventional_unless (conventional_query ?_)
  intro hr buf
  exact conventional_unless (conventional_newObject _)

theorem conventional_pyReadWideString (addr : UINT64) (count : CInt) :
    Conventional (pyReadWideString addr count) := by
  refine conventional_unless (conventional_query ?_)
  intro hr buf
  exact conventional_unless (conventional_newObject _)

/-! ## Typed objects -/

theorem conventional_allocSubTypedObject (name : AnsiStr) (typedData : DebugTypedData) :
    Conventional (allocSubTypedObject name typedData) := by
  refine conventional_bind (conventional_newObject _) ?_
  intro _
  refine conventional_bind (conventional_ds _) ?_
  rintro ⟨data, hr⟩
  exact conventional_unless (conventional_pure _)

theorem conventional_allocTypedObject (size : ULONG) (name : Option AnsiStr) (typeId : ULONG)
    (moduleBase virtualAddress : UINT64) (wantPointer : Bool) :
    Conventional (allocTypedObject size name typeId moduleBase virtualAddress wantPointer) := by
  refine conventional_bind (conventional_newObject _) ?_
  intro _
  refine conventional_bind (conventional_ds _) ?_
  rintro ⟨data, hr⟩
  exact conventional_unless (conventional_pure _)

theorem conventional_checkTypedData (typObj : DbgScriptTypedObject) :
    Conventional (checkTypedData typObj) :=
  conventional_unless (conventional_pure _)

/-- A function that checks for an interrupt and that the object has typed data. -/
theorem conventional_checked {typObj : DbgScriptTypedObject} {d : PyM α} (hd : Conventional d) :
    Conventional (do checkAbort; checkTypedData typObj; d) := by
  refine conventional_bind conventional_checkAbort ?_
  intro _
  refine conventional_bind (conventional_checkTypedData typObj) ?_
  intro _
  exact hd

theorem conventional_getElement (exc : PyExc) (typObj : DbgScriptTypedObject) (index : UINT64)
    (name : AnsiStr) : Conventional (getElement exc typObj index name) := by
  refine conventional_query ?_
  intro hr typedData
  exact conventional_unless (conventional_allocSubTypedObject _ _)

theorem conventional_getFieldOf (typObj : DbgScriptTypedObject) (fieldName : AnsiStr) :
    Conventional (getFieldOf typObj fieldName) := by
  refine conventional_query ?_
  intro hr typedData
  exact conventional_unless (conventional_allocSubTypedObject _ _)

theorem conventional_asFieldName (s : List Char) : Conventional (asFieldName s) := by
  refine conventional_unless (conventional_bind (conventional_newObject _) ?_)
  intro _
  exact conventional_pure _

theorem conventional_typedObjectDeref (typObj : DbgScriptTypedObject) :
    Conventional (typedObjectDeref typObj) :=
  conventional_checked (conventional_getElement _ _ _ _)

theorem conventional_typedObjectSequenceGetItem (typObj : DbgScriptTypedObject)
    (index : BitVec 64) : Conventional (typedObjectSequenceGetItem typObj index) :=
  conventional_checked (conventional_getElement _ _ _ _)

theorem conventional_typedObjectSequenceLength (typObj : DbgScriptTypedObject) :
    Conventional (typedObjectSequenceLength typObj) := by
  refine conventional_bind (conventional_checkTypedData typObj) ?_
  intro _
  refine conventional_unless (conventional_query ?_)
  intro hr typedData
  exact conventional_unless (conventional_bind (conventional_ds _) fun _ => conventional_pure _)

theorem conventional_pyValueFromCValue (typObj : DbgScriptTypedObject) :
    Conventional (pyValueFromCValue typObj) := by
  unfold pyValueFromCValue
  split
  · exact conventional_newObject _
  · exact conventional_newObject _
  · split
    all_goals first
      | exact conventional_newObject _
      | exact conventional_raise _

/-- The outcome keeps the convention: the flag was `flag` before. -/
def KeepsConvention (flag : Option PyErr) (r : Option α × Option PyErr) : Prop :=
  r.2.isSome ↔ flag.isSome ∨ r.1 = none

theorem conventional_typedObjectGetValueResult (typObj : DbgScriptTypedObject) :
    Conventional (typedObjectGetValueResult typObj) := by
  have hchecks : Conventional (do
      checkAbort
      checkTypedData typObj
      if !dsTypedObjectIsPrimitive typObj then
        raise .ValueError "Not a primitive type." [] : PyM Unit) :=
    conventional_checked (conventional_ite (conventional_raise _) (conventional_pure _))
  intro flag
  suffices h : (typedObjectGetValue typObj flag).Leaves fun r => KeepsConvention flag r.2 from
    Dialogue.leaves_bind h fun _ hr => hr
  refine Dialogue.leaves_bind (hchecks flag) ?_
  rintro ⟨_ | ⟨⟩, flag'⟩ hflag
  · show KeepsConvention flag (none, flag')
    simpa [KeepsConvention] using hflag
  · have hsame : flag'.isSome ↔ flag.isSome := by simpa using hflag
    refine Dialogue.leaves_bind (Dialogue.leaves_true _) ?_
    rintro ⟨typObj', hr⟩ -
    show Dialogue.Leaves _ (if FAILED hr then _ else _)
    split_ifs with hf
    · simp [KeepsConvention]
    · refine Dialogue.leaves_bind (conventional_pyValueFromCValue typObj' flag') ?_
      intro r hr
      rw [hsame] at hr
      exact hr

theorem conventional_typedObjectStr : Conventional typedObjectStr := by
  refine conventional_bind conventional_checkAbort ?_
  intro _
  exact conventional_newObject _

theorem conventional_typedObjectReadWideString (typObj : DbgScriptTypedObject)
    (args : Except PyErr (Option CInt)) : Conventional (typedObjectReadWideString typObj args) := by
  refine conventional_checked (conventional_bind (conventional_call args) ?_)
  intro count
  exact conventional_pyReadWideString _ _

theorem conventional_typedObjectReadString (typObj : DbgScriptTypedObject)
    (args : Except PyErr (Option CInt)) : Conventional (typedObjectReadString typObj args) := by
  refine conventional_checked (conventional_bind (conventional_call args) ?_)
  intro count
  exact conventional_pyReadString _ _

theorem conventional_typedObjectReadBytes (typObj : DbgScriptTypedObject)
    (args : Except PyErr ULONG) : Conventional (typedObjectReadBytes typObj args) := by
  refine conventional_parsed ?_
  intro count
  exact conventional_pyReadBytes _ _

theorem conventional_typedObjectGetRuntimeObj (typObj : DbgScriptTypedObject) :
    Conventional (typedObjectGetRuntimeObj typObj) := by
  refine conventional_bind conventional_checkAbort ?_
  intro _
  refine conventional_bind (conventional_newObject _) ?_
  intro _
  refine conventional_bind (conventional_ds _) ?_
  rintro ⟨data, hr⟩
  exact conventional_unless (conventional_pure _)

/-! ## Tuples -/

/-- The tuple is null iff an exception is pending. -/
def TupleInStep (tuple : Tuple) (flag : Option PyErr) : Prop := flag.isSome ↔ tuple = none

/-- The loop has gone through all its objects or has left an exception. -/
def LoopInStep (r : Option (HRESULT × Tuple) × Option PyErr) : Prop :=
  ∃ hr tuple, r.1 = some (hr, tuple) ∧ (r.2.isSome ↔ FAILED hr ∨ tuple = none)

theorem leaves_newTuple :
    (newTuple.attempt none).Leaves fun r => ∃ tuple, r.1 = some tuple ∧ TupleInStep tuple r.2 := by
  refine leaves_orNull (conventional_newObject (.tuple []) none) ?_
  intro tuple flag htuple
  refine ⟨_, rfl, ?_⟩
  simpa [TupleInStep] using htuple

theorem leaves_setItem {tuple : Tuple} {flag flag' : Option PyErr} {item : Option PyObj}
    (htuple : TupleInStep tuple flag) (hitem : flag'.isSome ↔ flag.isSome ∨ item = none) :
    ((setItem tuple item).attempt flag').Leaves LoopInStep := by
  rw [TupleInStep] at htuple
  rw [htuple] at hitem
  cases item with
  | none =>
    refine ⟨_, _, rfl, ?_⟩
    simpa using hitem
  | some item =>
    have hflag : flag'.isSome ↔ tuple = none := by simpa using hitem
    refine leaves_python ?_
    intro r
    refine leaves_orNull (conventional_call r flag') ?_
    rintro (_ | ⟨⟩) flag'' hr
    · refine ⟨_, _, rfl, ?_⟩
      simpa using hr
    · refine ⟨_, _, rfl, ?_⟩
      simpa [hflag] using hr

theorem leaves_fillTuple {makeItem : ℕ → PyM PyObj} (hmake : ∀ i, Conventional (makeItem i))
    (k i : ℕ) {tuple : Tuple} {flag : Option PyErr} (htuple : TupleInStep tuple flag) :
    ((fillTuple makeItem k i tuple).attempt flag).Leaves LoopInStep := by
  induction k generalizing i tuple flag with
  | zero =>
    refine ⟨_, _, rfl, ?_⟩
    simpa [TupleInStep] using htuple
  | succ k ih =>
    refine leaves_orNull (hmake i flag) ?_
    intro item flag' hitem
    refine Dialogue.leaves_bind (leaves_setItem htuple hitem) ?_
    rintro ⟨_, flag''⟩ ⟨hr, tuple', rfl, hloop⟩
    show Dialogue.Leaves _ (Flagged.attempt (if FAILED hr then _ else _) _)
    split_ifs with hf
    · exact ⟨_, _, rfl, hloop⟩
    · refine ih (i + 1) ?_
      simpa [TupleInStep, hf] using hloop

/-- What is returned after the loop. -/
theorem inStep_returnTuple {hr : HRESULT} {tuple : Tuple} {flag : Option PyErr}
    (h : flag.isSome ↔ FAILED hr ∨ tuple = none) :
    ((returnTuple hr tuple).attempt flag).Leaves InStep := by
  unfold returnTuple
  split_ifs with hf
  · simpa [InStep, hf] using h
  · cases tuple with
    | none => simpa [InStep, hf] using h
    | some items => simpa [InStep, hf] using h

/-- The functions that make a tuple of objects. -/
theorem conforms_tuple {makeItem : ℕ → PyM PyObj} (hmake : ∀ i, Conventional (makeItem i))
    (k : ℕ) : Conforms (do
      let tuple ← newTuple
      let (hr, tuple) ← fillTuple makeItem k 0 tuple
      returnTuple hr tuple) := by
  refine Dialogue.leaves_bind leaves_newTuple ?_
  rintro ⟨_, flag⟩ ⟨tuple, rfl, htuple⟩
  refine Dialogue.leaves_bind (leaves_fillTuple hmake k 0 htuple) ?_
  rintro ⟨_, flag'⟩ ⟨hr, tuple', rfl, hloop⟩
  exact inStep_returnTuple hloop

/-! ## The variables of a frame -/

/-- The loop over the variables has failed, or the tuple is null iff an exception is
    pending. -/
def Enumerated (r : Option (HRESULT × Tuple) × Option PyErr) : Prop :=
  ∃ hr tuple, r.1 = some (hr, tuple) ∧ (FAILED hr ∨ TupleInStep tuple r.2)

theorem leaves_buildTupleFromLocals {tuple : Tuple} {flag : Option PyErr}
    (htuple : TupleInStep tuple flag) {entry : DebugSymbolEntry}
    {symName : FixedStr CHAR MAX_SYMBOL_NAME_LEN} {idx : ℕ} :
    ((buildTupleFromLocals tuple entry symName idx).attempt flag).Leaves LoopInStep := by
  refine leaves_orNull (conventional_allocTypedObject _ _ _ _ _ _ flag) ?_
  intro item flag' hitem
  exact leaves_setItem htuple hitem

theorem leaves_enumSymbols (k i : ℕ) {tuple : Tuple} {flag : Option PyErr}
    (htuple : TupleInStep tuple flag) :
    ((enumSymbols ds buildTupleFromLocals k i tuple).attempt flag).Leaves Enumerated := by
  induction k generalizing i tuple flag with
  | zero => exact ⟨_, _, rfl, .inr htuple⟩
  | succ k ih =>
    refine leaves_lift ?_
    rintro (hr | ⟨entry, symName⟩)
    · exact ⟨_, _, rfl, .inr htuple⟩
    · refine Dialogue.leaves_bind (leaves_buildTupleFromLocals htuple) ?_
      rintro ⟨_, flag'⟩ ⟨hr, tuple', rfl, hloop⟩
      show Dialogue.Leaves _ (Flagged.attempt (if FAILED hr then _ else _) _)
      split_ifs with hf
      · exact ⟨_, _, rfl, .inl hf⟩
      · refine ih (i + 1) ?_
        simpa [TupleInStep, hf] using hloop

/-- The symbol group is released after the loop. -/
theorem leaves_enumStackFrameVariables (numSym : ULONG) {tuple : Tuple} {flag : Option PyErr}
    (htuple : TupleInStep tuple flag) :
    ((utilEnumStackFrameVariables ds buildTupleFromLocals numSym tuple).attempt flag).Leaves
      Enumerated := by
  refine Dialogue.leaves_bind (leaves_enumSymbols numSym.toNat 0 htuple) ?_
  rintro ⟨_, flag'⟩ ⟨hr, tuple', rfl, henum⟩
  refine leaves_lift ?_
  intro _
  exact ⟨_, _, rfl, henum⟩

theorem conforms_getVariablesHelper (frame : DbgScriptStackFrame) (thread : DbgScriptThread)
    (flags : ULONG) : Conforms (getVariablesHelper frame thread flags) := by
  refine conforms_bind conventional_checkAbort.conforms ?_
  intro _
  refine conforms_query ?_
  intro hr numSym
  refine conforms_unless ?_
  refine Dialogue.leaves_bind leaves_newTuple ?_
  rintro ⟨_, flag⟩ ⟨tuple, rfl, htuple⟩
  refine Dialogue.leaves_bind (leaves_enumStackFrameVariables numSym htuple) ?_
  rintro ⟨_, flag'⟩ ⟨hr, tuple', rfl, henum⟩
  show Dialogue.Leaves _ (Flagged.attempt (if FAILED hr then _ else _) _)
  split_ifs with hf
  · show InStep (none, some _)
    simp [InStep]
  · refine inStep_returnTuple ?_
    simpa [TupleInStep, hf] using henum

/-! ## The functions of the module -/

theorem conventional_createTypedObjectHelper (args : Except PyErr (AnsiStr × UINT64))
    (wantPointer : Bool) : Conventional (createTypedObjectHelper args wantPointer) := by
  refine conventional_parsed ?_
  rintro ⟨typeName, addr⟩
  refine conventional_bind (conventional_ds _) ?_
  rintro (_ | typeInfo)
  · exact conventional_raise _
  · exact conventional_allocTypedObject _ _ _ _ _ _

theorem conventional_resolveEnum (args : Except PyErr (AnsiStr × UINT64)) :
    Conventional (resolveEnum args) := by
  refine conventional_parsed ?_
  rintro ⟨enumTypeName, value⟩
  refine conventional_bind (conventional_ds _) ?_
  rintro (_ | typeInfo)
  · exact conventional_raise _
  · refine conventional_query ?_
    intro hr enumElementName
    exact conventional_unless (conventional_newObject _)

theorem conventional_getGlobal (args : Except PyErr AnsiStr) : Conventional (getGlobal args) := by
  refine conventional_parsed ?_
  intro symbol
  refine conventional_query ?_
  intro hr addr
  refine conventional_unless ?_
  refine conventional_bind (conventional_ds _) ?_
  rintro (_ | typeInfo)
  · exact conventional_raise _
  · exact conventional_allocTypedObject _ _ _ _ _ _

theorem conventional_getPeb : Conventional getPeb := by
  refine conventional_bind conventional_checkAbort ?_
  intro _
  refine conventional_query ?_
  intro hr addr
  exact conventional_unless (conventional_newObject _)

theorem conventional_readPtr (args : Except PyErr UINT64) : Conventional (readPtr args) := by
  refine conventional_parsed ?_
  intro addr
  refine conventional_query ?_
  intro hr ptrVal
  exact conventional_unless (conventional_newObject _)

theorem conventional_fieldOffset (args : Except PyErr (AnsiStr × AnsiStr)) :
    Conventional (fieldOffset args) := by
  refine conventional_parsed ?_
  rintro ⟨type, field⟩
  refine conventional_query ?_
  intro hr offset
  exact conventional_unless (conventional_newObject _)

theorem conventional_getTypeSize (args : Except PyErr AnsiStr) :
    Conventional (getTypeSize args) := by
  refine conventional_parsed ?_
  intro type
  refine conventional_query ?_
  intro hr size
  exact conventional_unless (conventional_newObject _)

theorem conventional_readBytes (args : Except PyErr (UINT64 × ULONG)) :
    Conventional (readBytes args) := by
  refine conventional_parsed ?_
  rintro ⟨addr, count⟩
  exact conventional_pyReadBytes addr count

theorem conventional_readString (args : Except PyErr (UINT64 × Option CInt)) :
    Conventional (readString args) := by
  refine conventional_parsed ?_
  rintro ⟨addr, count⟩
  exact conventional_pyReadString addr _

theorem conventional_readWideString (args : Except PyErr (UINT64 × Option CInt)) :
    Conventional (readWideString args) := by
  refine conventional_parsed ?_
  rintro ⟨addr, count⟩
  exact conventional_pyReadWideString addr _

theorem conventional_getNearestSym (args : Except PyErr UINT64) :
    Conventional (getNearestSym args) := by
  refine conventional_parsed ?_
  intro addr
  refine conventional_query ?_
  intro hr name
  exact conventional_unless (conventional_newObject _)

theorem conventional_searchMemory (args : Except PyErr (UINT64 × UINT64 × List UInt8 × ULONG)) :
    Conventional (searchMemory args) := by
  refine conventional_parsed ?_
  rintro ⟨start, size, pattern, patGran⟩
  refine conventional_query ?_
  intro hr matchAddr
  refine conventional_ite ?_ (conventional_newObject _)
  exact conventional_unless (conventional_unless (conventional_raise _))

theorem conforms_getThreads : Conforms getThreads := by
  refine conforms_bind conventional_checkAbort.conforms ?_
  intro _
  refine conforms_query ?_
  intro hr cThreads
  refine conforms_unless (conforms_query ?_)
  intro hr ids
  exact conforms_unless (conforms_tuple (fun i => conventional_newObject _) _)

theorem conventional_getCurrentThread : Conventional getCurrentThread := by
  refine conventional_bind conventional_checkAbort ?_
  intro _
  refine conventional_query ?_
  intro hr engineThreadId
  refine conventional_unless (conventional_query ?_)
  intro hr systemThreadId
  exact conventional_unless (conventional_newObject _)

theorem conventional_startBuffering : Conventional startBuffering := by
  refine conventional_bind (conventional_ds _) ?_
  intro _
  exact conventional_pure _

theorem conventional_stopBuffering : Conventional stopBuffering := by
  refine conventional_bind (conventional_ds _) ?_
  intro newVal
  refine conventional_ite ?_ ?_
  · refine conventional_bind (conventional_ds _) ?_
    intro _
    exact conventional_raise _
  · refine conventional_ite ?_ (conventional_pure _)
    refine conventional_bind (conventional_ds _) ?_
    intro _
    exact conventional_pure _

/-! ## Subscripts and attributes -/

theorem conforms_attributeOrField (typObj : DbgScriptTypedObject) (attr : List Char)
    (r : Except PyErr PyObj) : Conforms (attributeOrField typObj attr r) := by
  cases r with
  | ok ret => exact (conventional_pure ret).conforms
  | error err =>
    show Conforms (if err.exc ≠ .AttributeError then _ else _)
    split_ifs
    · exact (conventional_raise err).conforms
    · show Conforms (Flagged.clear >>= fun _ => asFieldName attr >>= fun fieldName =>
        getFieldOf typObj fieldName)
      refine (conventional_bind (conventional_asFieldName attr) ?_).conforms
      intro fieldName
      exact conventional_getFieldOf typObj fieldName

theorem conforms_typedObjectGetattro (typObj : DbgScriptTypedObject) (attr : List Char) :
    Conforms (typedObjectGetattro typObj attr) := by
  refine conforms_bind (conventional_python (.genericGetAttr attr)).conforms ?_
  intro r
  exact conforms_attributeOrField typObj attr r

theorem ofInt_ne_neg_one {i : ℤ} (hfits : -2 ^ 63 ≤ i ∧ i < 2 ^ 63) (hi : i ≠ -1) :
    BitVec.ofInt 64 i ≠ -1 := by
  intro h
  have htoInt := congrArg BitVec.toInt h
  rw [BitVec.toInt_ofInt, Int.bmod_eq_of_le (by omega) (by omega)] at htoInt
  exact hi htoInt

/-- An index other than `-1`, also one that does not fit. -/
theorem conforms_index (typObj : DbgScriptTypedObject) {i : ℤ} (hi : i ≠ -1) :
    Conforms (asSsizeT i >>= fun index =>
      if index = -1 then Flagged.null else typedObjectSequenceGetItem typObj index) := by
  by_cases hfits : -2 ^ 63 ≤ i ∧ i < 2 ^ 63
  · have hindex : (asSsizeT i).attempt none = .done (some (BitVec.ofInt 64 i), none) :=
      if_pos hfits
    rw [Conforms, Flagged.attempt_bind, hindex, Dialogue.done_bind, Flagged.andThen_some,
      if_neg (ofInt_ne_neg_one hfits hi)]
    exact (conventional_typedObjectSequenceGetItem typObj _).conforms
  · have hindex : (asSsizeT i).attempt none = .done (some (-1), some ⟨.OverflowError,
        "Python int too large to convert to C ssize_t", []⟩) := if_neg hfits
    rw [Conforms, Flagged.attempt_bind, hindex, Dialogue.done_bind, Flagged.andThen_some,
      if_pos rfl]
    simp [InStep]

theorem conforms_typedObjectMappingSubscript (typObj : DbgScriptTypedObject) {key : Key}
    (hkey : key ≠ .int (-1)) : Conforms (typedObjectMappingSubscript typObj key) := by
  refine conforms_bind conventional_checkAbort.conforms ?_
  intro _
  cases key with
  | int i =>
    have hi : i ≠ -1 := fun h => hkey (congrArg Key.int h)
    exact conforms_index typObj hi
  | str s =>
    refine (conventional_bind (conventional_checkTypedData typObj) ?_).conforms
    intro _
    refine conventional_bind (conventional_asFieldName s) ?_
    intro fieldName
    exact conventional_getFieldOf typObj fieldName
  | other => exact (conventional_raise _).conforms

/-! ## Threads, standard input and output -/

theorem conventional_threadGetTeb (thd : DbgScriptThread) : Conventional (threadGetTeb thd) := by
  refine conventional_bind conventional_checkAbort ?_
  intro _
  refine conventional_query ?_
  intro hr teb
  exact conventional_unless (conventional_newObject _)

theorem conventional_threadGetCurrentFrame (thd : DbgScriptThread) :
    Conventional (threadGetCurrentFrame thd) := by
  refine conventional_bind conventional_checkAbort ?_
  intro _
  refine conventional_query ?_
  intro hr dsframe
  exact conventional_unless (conventional_newObject _)

theorem conforms_threadGetStack (thd : DbgScriptThread) : Conforms (threadGetStack thd) := by
  refine conforms_bind conventional_checkAbort.conforms ?_
  intro _
  refine conforms_query ?_
  intro hr frames
  exact conforms_unless (conforms_tuple (fun i => conventional_newObject _) _)

theorem conventional_ioWrite (args : Except PyErr AnsiStr) : Conventional (ioWrite args) := by
  refine conventional_parsed ?_
  intro data
  refine conventional_bind (conventional_ds _) ?_
  intro _
  exact conventional_newObject _

theorem conventional_ioReadline (args : Except PyErr (Option ULONG)) :
    Conventional (ioReadline args) := by
  refine conventional_parsed ?_
  intro maxToRead
  refine conventional_bind (conventional_ds _) ?_
  intro read
  exact conventional_newObject _

theorem conventional_ioFlush : Conventional ioFlush := by
  refine conventional_bind conventional_checkAbort ?_
  intro _
  refine conventional_bind (conventional_ds _) ?_
  intro _
  exact conventional_pure _

/-! ## The registered functions -/

/-- A registered function with the object it is called on and its arguments. -/
inductive PyFunction where
  -- `dbgscript_MethodsDef` (src/pythonprov/dbgscript.cpp:825-936)
  | executeCommand (args : Except PyErr AnsiStr)
  | startBuffering
  | stopBuffering
  | getThreads
  | currentThread
  | createTypedObject (args : Except PyErr (AnsiStr × UINT64))
  | createTypedPointer (args : Except PyErr (AnsiStr × UINT64))
  | readPtr (args : Except PyErr UINT64)
  | readBytes (args : Except PyErr (UINT64 × ULONG))
  | readString (args : Except PyErr (UINT64 × Option CInt))
  | readWideString (args : Except PyErr (UINT64 × Option CInt))
  | fieldOffset (args : Except PyErr (AnsiStr × AnsiStr))
  | getTypeSize (args : Except PyErr AnsiStr)
  | getNearestSym (args : Except PyErr UINT64)
  | getGlobal (args : Except PyErr AnsiStr)
  | getPeb
  | resolveEnum (args : Except PyErr (AnsiStr × UINT64))
  | searchMemory (args : Except PyErr (UINT64 × UINT64 × List UInt8 × ULONG))
  -- the slots, properties and methods of `TypedObject` (src/pythonprov/typedobject.cpp:300-856)
  | mappingSubscript (typObj : DbgScriptTypedObject) (key : Key)
  | sequenceGetItem (typObj : DbgScriptTypedObject) (index : BitVec 64)
  | sequenceLength (typObj : DbgScriptTypedObject)
  | getattro (typObj : DbgScriptTypedObject) (attr : List Char)
  | str
  | getValue (typObj : DbgScriptTypedObject)
  | deref (typObj : DbgScriptTypedObject)
  | getRuntimeObj (typObj : DbgScriptTypedObject)
  | objReadWideString (typObj : DbgScriptTypedObject) (args : Except PyErr (Option CInt))
  | objReadString (typObj : DbgScriptTypedObject) (args : Except PyErr (Option CInt))
  | objReadBytes (typObj : DbgScriptTypedObject) (args : Except PyErr ULONG)
  -- `Thread` (src/pythonprov/thread.cpp:164-194)
  | getTeb (thd : DbgScriptThread)
  | getCurrentFrame (thd : DbgScriptThread)
  | getStack (thd : DbgScriptThread)
  -- `StackFrame` (src/pythonprov/stackframe.cpp:146-161)
  | getLocals (frame : DbgScriptStackFrame) (thread : DbgScriptThread)
  | getArgs (frame : DbgScriptStackFrame) (thread : DbgScriptThread)
  -- `DbgScriptIO` (src/pythonprov/dbgscriptio.cpp:105-111)
  | write (args : Except PyErr AnsiStr)
  | readline (args : Except PyErr (Option ULONG))
  | flush

/-- A length, or an object. -/
@[reducible] def PyFunction.Result : PyFunction → Type
  | .sequenceLength _ => ℕ
  | _ => PyObj

/-- The function under its name in the source. -/
def PyFunction.call : (f : PyFunction) → PyM f.Result
  | .executeCommand args => Python.executeCommand args
  | .startBuffering => Python.startBuffering
  | .stopBuffering => Python.stopBuffering
  | .getThreads => Python.getThreads
  | .currentThread => getCurrentThread
  | .createTypedObject args => Python.createTypedObject args
  | .createTypedPointer args => Python.createTypedPointer args
  | .readPtr args => Python.readPtr args
  | .readBytes args => Python.readBytes args
  | .readString args => Python.readString args
  | .readWideString args => Python.readWideString args
  | .fieldOffset args => Python.fieldOffset args
  | .getTypeSize args => Python.getTypeSize args
  | .getNearestSym args => Python.getNearestSym args
  | .getGlobal args => Python.getGlobal args
  | .getPeb => Python.getPeb
  | .resolveEnum args => Python.resolveEnum args
  | .searchMemory args => Python.searchMemory args
  | .mappingSubscript typObj key => typedObjectMappingSubscript typObj key
  | .sequenceGetItem typObj index => typedObjectSequenceGetItem typObj index
  | .sequenceLength typObj => typedObjectSequenceLength typObj
  | .getattro typObj attr => typedObjectGetattro typObj attr
  | .str => typedObjectStr
  | .getValue typObj => typedObjectGetValueResult typObj
  | .deref typObj => typedObjectDeref typObj
  | .getRuntimeObj typObj => typedObjectGetRuntimeObj typObj
  | .objReadWideString typObj args => typedObjectReadWideString typObj args
  | .objReadString typObj args => typedObjectReadString typObj args
  | .objReadBytes typObj args => typedObjectReadBytes typObj args
  | .getTeb thd => threadGetTeb thd
  | .getCurrentFrame thd => threadGetCurrentFrame thd
  | .getStack thd => threadGetStack thd
  | .getLocals frame thread => stackFrameGetLocals frame thread
  | .getArgs frame thread => stackFrameGetArgs frame thread
  | .write args => ioWrite args
  | .readline args => ioReadline args
  | .flush => ioFlush

/-- Called with no exception pending, the function returns null iff it leaves one. -/
def PyFunction.NullIffPending (f : PyFunction) (a : PyAnswers) : Prop :=
  InStep ((f.call.attempt none).run a 0).1

/-- The command fails or leaves an exception pending, or the index is `-1`, and the user has
    not interrupted the call. -/
def PyFunction.Misreports (a : PyAnswers) : PyFunction → Prop
  | .executeCommand (.ok command) =>
    Dialogue.left a 0 .getInterrupt ≠ S_OK ∧
      (FAILED (Dialogue.left a 1 (.executeCommand command)) ∨ a 2 (.inr .pendingException) ≠ none)
  | .mappingSubscript _ (.int i) => Dialogue.left a 0 .getInterrupt ≠ S_OK ∧ i = -1
  | _ => False

/-- All functions but two conform, whatever they are given. -/
theorem PyFunction.conforms_call (f : PyFunction) :
    Conforms f.call ∨ (∃ command, f = .executeCommand (.ok command)) ∨
      ∃ typObj, f = .mappingSubscript typObj (.int (-1)) := by
  cases f with
  | executeCommand args =>
    cases args with
    | ok command => exact .inr (.inl ⟨command, rfl⟩)
    | error err =>
      have hparse : Conforms (Flagged.raise err : PyM PyObj) := (conventional_raise err).conforms
      exact .inl (conforms_bind conventional_checkAbort.conforms fun _ => hparse)
  | mappingSubscript typObj key =>
    by_cases hkey : key = .int (-1)
    · rw [hkey]
      exact .inr (.inr ⟨typObj, rfl⟩)
    · exact .inl (conforms_typedObjectMappingSubscript typObj hkey)
  | startBuffering => exact .inl conventional_startBuffering.conforms
  | stopBuffering => exact .inl conventional_stopBuffering.conforms
  | getThreads => exact .inl conforms_getThreads
  | currentThread => exact .inl conventional_getCurrentThread.conforms
  | createTypedObject args => exact .inl (conventional_createTypedObjectHelper args false).conforms
  | createTypedPointer args => exact .inl (conventional_createTypedObjectHelper args true).conforms
  | readPtr args => exact .inl (conventional_readPtr args).conforms
  | readBytes args => exact .inl (conventional_readBytes args).conforms
  | readString args => exact .inl (conventional_readString args).conforms
  | readWideString args => exact .inl (conventional_readWideString args).conforms
  | fieldOffset args => exact .inl (conventional_fieldOffset args).conforms
  | getTypeSize args => exact .inl (conventional_getTypeSize args).conforms
  | getNearestSym args => exact .inl (conventional_getNearestSym args).conforms
  | getGlobal args => exact .inl (conventional_getGlobal args).conforms
  | getPeb => exact .inl conventional_getPeb.conforms
  | resolveEnum args => exact .inl (conventional_resolveEnum args).conforms
  | searchMemory args => exact .inl (conventional_searchMemory args).conforms
  | sequenceGetItem typObj index =>
    exact .inl (conventional_typedObjectSequenceGetItem typObj index).conforms
  | sequenceLength typObj => exact .inl (conventional_typedObjectSequenceLength typObj).conforms
  | getattro typObj attr => exact .inl (conforms_typedObjectGetattro typObj attr)
  | str => exact .inl conventional_typedObjectStr.conforms
  | getValue typObj => exact .inl (conventional_typedObjectGetValueResult typObj).conforms
  | deref typObj => exact .inl (conventional_typedObjectDeref typObj).conforms
  | getRuntimeObj typObj => exact .inl (conventional_typedObjectGetRuntimeObj typObj).conforms
  | objReadWideString typObj args =>
    exact .inl (conventional_typedObjectReadWideString typObj args).conforms
  | objReadString typObj args =>
    exact .inl (conventional_typedObjectReadString typObj args).conforms
  | objReadBytes typObj args => exact .inl (conventional_typedObjectReadBytes typObj args).conforms
  | getTeb thd => exact .inl (conventional_threadGetTeb thd).conforms
  | getCurrentFrame thd => exact .inl (conventional_threadGetCurrentFrame thd).conforms
  | getStack thd => exact .inl (conforms_threadGetStack thd)
  | getLocals frame thread => exact .inl (conforms_getVariablesHelper frame thread _)
  | getArgs frame thread => exact .inl (conforms_getVariablesHelper frame thread _)
  | write args => exact .inl (conventional_ioWrite args).conforms
  | readline args => exact .inl (conventional_ioReadline args).conforms
  | flush => exact .inl conventional_ioFlush.conforms

variable {a : PyAnswers}

/-- After a command that fails or leaves an exception, `None` is returned with the exception
    pending. -/
theorem inStep_executeCommand (command : AnsiStr) :
    InStep (((executeCommand (.ok command)).attempt none).run a 0).1 ↔
      ¬ (Dialogue.left a 0 .getInterrupt ≠ S_OK ∧
        (FAILED (Dialogue.left a 1 (.executeCommand command)) ∨
          a 2 (.inr .pendingException) ≠ none)) := by
  rw [executeCommand, run_checkAbort_bind]
  split_ifs with habort
  · simp [InStep, habort]
  · show InStep (((commandExecuted (Dialogue.left a 1 (.executeCommand command))).attempt none).run
      a 2).1 ↔ _
    rw [attempt_commandExecuted]
    show InStep (some PyObj.none, if FAILED (Dialogue.left a 1 (.executeCommand command)) = true
      then some _ else a 2 (.inr .pendingException)) ↔ _
    by_cases hf : FAILED (Dialogue.left a 1 (.executeCommand command)) = true
    · simp [InStep, habort, hf]
    · generalize (a 2 (.inr .pendingException) : Option PyErr) = pending
      cases pending with
      | none => simp [InStep, hf]
      | some e => simp [InStep, habort, hf]

/-- The index `-1` is taken for an error. -/
theorem inStep_mappingSubscript (typObj : DbgScriptTypedObject) :
    InStep (((typedObjectMappingSubscript typObj (.int (-1))).attempt none).run a 0).1 ↔
      ¬ (Dialogue.left a 0 .getInterrupt ≠ S_OK ∧ (-1 : ℤ) = -1) := by
  rw [typedObjectMappingSubscript, run_checkAbort_bind]
  split_ifs with habort
  · simp [InStep, habort]
  · have hnull : (asSsizeT (-1) >>= fun index =>
        if index = -1 then Flagged.null else typedObjectSequenceGetItem typObj index).attempt none =
          .done (none, none) := rfl
    rw [hnull]
    simp [InStep, habort]

theorem PyFunction.Misreports.not_nullIffPending {f : PyFunction} (h : f.Misreports a) :
    ¬ f.NullIffPending a := by
  intro hstep
  unfold Misreports at h
  split at h
  · exact (inStep_executeCommand _).1 hstep h
  · obtain ⟨habort, rfl⟩ := h
    exact (inStep_mappingSubscript _).1 hstep ⟨habort, rfl⟩
  · exact h

/-- A function returns null (for a length, `-1`) iff it leaves an exception pending, except
    for a command that fails or leaves an exception itself, and for the subscript `-1`. -/
theorem PyFunction.nullIffPending_iff (f : PyFunction) (a : PyAnswers) :
    f.NullIffPending a ↔ ¬ f.Misreports a := by
  constructor
  · intro hstep hmis
    exact hmis.not_nullIffPending hstep
  · intro h
    obtain hconf | ⟨command, rfl⟩ | ⟨typObj, rfl⟩ := f.conforms_call
    · exact hconf.run 0
    · exact (inStep_executeCommand command).2 h
    · exact (inStep_mappingSubscript typObj).2 h

/-- The user does not interrupt, and the debugger refuses the command. -/
def refusedCommand : PyAnswers
  | _, .inl .getInterrupt => S_FALSE
  | _, .inl (.executeCommand _) => E_FAIL
  | _, .inl r => (default : r.Answer)
  | _, .inr c => c.succeeds

/-- The command is `!evalstring` with a script that exits, which `RunString` reports as a
    success. -/
def exitedScript : PyAnswers
  | _, .inl .getInterrupt => S_FALSE
  | _, .inl r => (default : r.Answer)
  | _, .inr .pendingException => some ⟨.other "SystemExit", "", []⟩
  | _, .inr c => c.succeeds

/-- `dbgscript.execute_command('!bogus')` returns `None` with an `OSError` pending, the same
    call with `!evalstring -l py raise SystemExit` with the `SystemExit`, and `obj[-1]`
    returns null without an exception. -/
theorem misreported_calls :
    ¬ (PyFunction.executeCommand (.ok (ansiStr "!bogus"))).NullIffPending refusedCommand ∧
      ¬ (PyFunction.executeCommand (.ok (ansiStr "!evalstring -l py raise SystemExit"))
        ).NullIffPending exitedScript ∧
      ¬ (PyFunction.mappingSubscript .zero (.int (-1))).NullIffPending refusedCommand :=
  ⟨PyFunction.Misreports.not_nullIffPending ⟨by decide, .inl (by decide)⟩,
    PyFunction.Misreports.not_nullIffPending ⟨by decide, .inr (Option.some_ne_none _)⟩,
    PyFunction.Misreports.not_nullIffPending ⟨by decide, rfl⟩⟩

end DbgScript.Python
