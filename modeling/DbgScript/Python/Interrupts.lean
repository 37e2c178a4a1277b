import DbgScript.Providers.Interrupts
import DbgScript.Python.ScriptApi

/-!
# Ctrl-C in Python

Apart from the subscript, a function asks for an interrupt at most once, at the beginning.

* `pyHeeds_moduleCall`, `pyHeedsOn_objectCall`, `pyHeeds_threadCall`, `pyHeeds_frameCall`: the
  Python functions return null as soon as they hear of an interrupt.
-/

namespace DbgScript.Python

open ScriptApi
open CharBuf (FixedStr)
open Dialogue (EndsAfter)

variable {α γ : Type}

/-! ## Functions that return null -/

/-- The function does not ask for an interrupt. -/
structure Uninterrupted (f : PyM α) : Prop where
  asks : ∀ flag, (f.attempt flag).Asks fun r => ∀ x, interrupted ⟨r, x⟩ = false

/-- The function returns null as soon as it hears of an interrupt. -/
structure PyHeeds (f : PyM α) : Prop where
  ends : ∀ flag, (f.attempt flag).EndsAfter interrupted fun r => r.1 = none

theorem Uninterrupted.heeds {f : PyM α} (h : Uninterrupted f) : PyHeeds f :=
  ⟨fun flag => .of_asks (h.asks flag)⟩

theorem un_bind {f : PyM α} {k : α → PyM γ} (hf : Uninterrupted f) (hk : ∀ a, Uninterrupted (k a)) :
    Uninterrupted (f >>= k) :=
  ⟨fun flag => Flagged.asks_bind (hf.asks flag) fun a flag' => (hk a).asks flag'⟩

theorem un_pure (a : α) : Uninterrupted (pure a : PyM α) := ⟨fun _ => trivial⟩

theorem un_raise (e : PyErr) : Uninterrupted (Flagged.raise e : PyM α) := ⟨fun _ => trivial⟩

theorem un_null : Uninterrupted (Flagged.null : PyM α) := ⟨fun _ => trivial⟩

theorem un_ite {c : Prop} [Decidable c] {f g : PyM α} (hf : Uninterrupted f)
    (hg : Uninterrupted g) :
    Uninterrupted (if c then f else g) := by
  split_ifs
  · exact hf
  · exact hg

theorem un_unless {c : Prop} [Decidable c] {e : PyErr} {f : PyM α} (hf : Uninterrupted f) :
    Uninterrupted (if c then Flagged.raise e else f) := un_ite (un_raise e) hf

theorem un_ds {q : DsM α} (hq : q.Asks Visible) : Uninterrupted (ds q) :=
  ⟨fun flag => asks_ds (hq.mono fun _ hr x => interrupted_visible hr x) flag⟩

theorem un_query {q : DsM (HRESULT × α)} {k : HRESULT × α → PyM γ} (hq : q.Asks Visible)
    (hk : ∀ hr a, Uninterrupted (k (hr, a))) : Uninterrupted (ds q >>= k) :=
  un_bind (un_ds hq) fun r => hk r.1 r.2

theorem un_call (r : Except PyErr α) : Uninterrupted (Flagged.call r : PyM α) := by
  cases r with
  | ok a => exact un_pure a
  | error e => exact un_raise e

theorem un_python (c : PyCall) : Uninterrupted (python c) :=
  ⟨fun _ => ⟨fun _ => rfl, fun _ => trivial⟩⟩

theorem un_newObject (o : PyObj) : Uninterrupted (newObject o) :=
  un_bind (un_python .newObject) fun r => un_bind (un_call r) fun _ => un_pure _

theorem un_orNull {f : PyM α} (hf : Uninterrupted f) : Uninterrupted (Flagged.orNull f) :=
  ⟨fun flag => Dialogue.asks_bind (hf.asks flag) (Dialogue.leaves_true _) fun _ _ => trivial⟩

theorem un_symbolType {sym : AnsiStr} {k : Option ModuleAndTypeId → PyM γ}
    (hnone : Uninterrupted (k none)) (hsome : ∀ typeInfo, Uninterrupted (k (some typeInfo))) :
    Uninterrupted (ds (ask (.getCachedSymbolType sym)) >>= k) := by
  refine un_bind (un_ds ⟨rfl, fun _ => trivial⟩) ?_
  rintro (_ | typeInfo)
  · exact hnone
  · exact hsome typeInfo

theorem un_checkTypedData (o : DbgScriptTypedObject) : Uninterrupted (checkTypedData o) :=
  un_unless (un_pure _)

theorem un_pyReadBytes (addr : UINT64) (count : ULONG) : Uninterrupted (pyReadBytes addr count) :=
  un_query ⟨rfl, fun _ => trivial⟩ fun _ _ => un_unless (un_newObject _)

theorem un_pyReadString (addr : UINT64) (count : CInt) :
    Uninterrupted (pyReadString addr count) :=
  un_unless (un_query (visible_utilReadAnsiString _ _) fun _ _ => un_unless (un_newObject _))

theorem un_pyReadWideString (addr : UINT64) (count : CInt) :
    Uninterrupted (pyReadWideString addr count) :=
  un_unless (un_query (visible_utilReadWideString _ _) fun _ _ => un_unless (un_newObject _))

theorem un_allocSubTypedObject (name : AnsiStr) (data : DebugTypedData) :
    Uninterrupted (allocSubTypedObject name data) :=
  un_bind (un_newObject _) fun _ => un_bind (un_ds (visible_dsWrapTypedData _ _ _)) fun _ =>
    un_unless (un_pure _)

theorem un_allocTypedObject (size : ULONG) (name : Option AnsiStr) (typeId : ULONG)
    (moduleBase address : UINT64) (wantPointer : Bool) :
    Uninterrupted (allocTypedObject size name typeId moduleBase address wantPointer) :=
  un_bind (un_newObject _) fun _ =>
    un_bind (un_ds (visible_dsInitializeTypedObject _ _ _ _ _ _ _)) fun _ => un_unless (un_pure _)

theorem un_getElement (exc : PyExc) (o : DbgScriptTypedObject) (index : UINT64) (name : AnsiStr) :
    Uninterrupted (getElement exc o index name) :=
  un_query (visible_dsTypedObjectGetArrayElement _ _) fun _ _ =>
    un_unless (un_allocSubTypedObject _ _)

theorem un_getFieldOf (o : DbgScriptTypedObject) (name : AnsiStr) :
    Uninterrupted (getFieldOf o name) :=
  un_query (visible_dsTypedObjectGetField _ _) fun _ _ => un_unless (un_allocSubTypedObject _ _)

theorem un_asSsizeT (i : ℤ) : Uninterrupted (asSsizeT i) := by
  refine ⟨fun flag => ?_⟩
  show Dialogue.Asks _ (if -2 ^ 63 ≤ i ∧ i < 2 ^ 63 then _ else _)
  split_ifs
  · trivial
  · trivial

theorem un_asFieldName (s : List Char) : Uninterrupted (asFieldName s) :=
  un_unless (un_bind (un_newObject _) fun _ => un_pure _)

theorem un_pyValueFromCValue (o : DbgScriptTypedObject) :
    Uninterrupted (pyValueFromCValue o) := by
  rw [pyValueFromCValue]
  split
  · exact un_newObject _
  · exact un_newObject _
  · split
    all_goals first
      | exact un_newObject _
      | exact un_raise _

/-! ## Tuples -/

theorem un_newTuple : Uninterrupted newTuple :=
  un_bind (un_orNull (un_newObject _)) fun _ => un_pure _

theorem un_setItem (tuple : Tuple) (item : Option PyObj) :
    Uninterrupted (setItem tuple item) := by
  cases item with
  | none => exact un_pure _
  | some item =>
    refine un_bind (un_python .tupleSetItem) fun (r : Except PyErr Unit) =>
      un_bind (un_orNull (un_call r)) ?_
    rintro (_ | ⟨⟩)
    · exact un_pure _
    · exact un_pure _

theorem un_fillTuple {makeItem : ℕ → PyM PyObj} (hmake : ∀ i, Uninterrupted (makeItem i)) (k i : ℕ)
    (tuple : Tuple) : Uninterrupted (fillTuple makeItem k i tuple) := by
  induction k generalizing i tuple with
  | zero => exact un_pure _
  | succ k ih =>
    exact un_bind (un_orNull (hmake i)) fun _ => un_bind (un_setItem _ _) fun r =>
      un_ite (un_pure _) (ih (i + 1) r.2)

theorem un_returnTuple (hr : HRESULT) (tuple : Tuple) :
    Uninterrupted (returnTuple hr tuple) := by
  refine un_ite un_null ?_
  cases tuple with
  | none => exact un_null
  | some items => exact un_pure _

/-- What follows once the tuple has been sized. -/
theorem un_tuple {makeItem : ℕ → PyM PyObj} (hmake : ∀ i, Uninterrupted (makeItem i)) (k : ℕ) :
    Uninterrupted (do
      let tuple ← newTuple
      let (hr, tuple) ← fillTuple makeItem k 0 tuple
      returnTuple hr tuple) :=
  un_bind un_newTuple fun _ => un_bind (un_fillTuple hmake _ _ _) fun _ => un_returnTuple _ _

theorem un_buildTupleFromLocals (tuple : Tuple) (entry : DebugSymbolEntry)
    (symName : FixedStr CHAR MAX_SYMBOL_NAME_LEN) (idx : ℕ) :
    Uninterrupted (buildTupleFromLocals tuple entry symName idx) :=
  un_bind (un_orNull (un_allocTypedObject _ _ _ _ _ _)) fun _ => un_setItem _ _

theorem un_enumSymbols (k i : ℕ) (tuple : Tuple) :
    Uninterrupted (enumSymbols ds buildTupleFromLocals k i tuple) := by
  induction k generalizing i tuple with
  | zero => exact un_pure _
  | succ k ih =>
    refine un_bind (un_ds (visible_readSymbol i)) ?_
    rintro (hr | ⟨entry, symName⟩)
    · exact un_pure _
    · exact un_bind (un_buildTupleFromLocals _ _ _ _) fun r => un_ite (un_pure _) (ih (i + 1) r.2)

/-! ## Calls -/

theorem pyHeeds_bind {f : PyM α} {k : α → PyM γ} (hf : PyHeeds f) (hk : ∀ a, PyHeeds (k a)) :
    PyHeeds (f >>= k) := by
  refine ⟨fun flag => (hf.ends flag).bind ?_ ?_⟩
  · rintro ⟨_, flag'⟩ rfl
    exact ⟨_, rfl, rfl⟩
  · rintro ⟨_ | a, flag'⟩
    · trivial
    · exact (hk a).ends flag'

theorem pyHeeds_checkAbort : PyHeeds checkAbort := by
  refine ⟨fun flag => ?_⟩
  rw [checkAbort, attempt_ds_bind]
  refine endsAfter_utilCheckAbort.bind ?_ ?_
  · rintro _ rfl
    exact ⟨_, rfl, rfl⟩
  · rintro (_ | _)
    · trivial
    · trivial

/-- A check, and a function without one. -/
theorem pyHeeds_checked {f : PyM α} (hf : Uninterrupted f) :
    PyHeeds (checkAbort >>= fun _ => f) :=
  pyHeeds_bind pyHeeds_checkAbort fun _ => hf.heeds

/-- The same with arguments. -/
theorem pyHeeds_parsed {a : α} {body : α → PyM γ} (h : Uninterrupted (body a)) :
    PyHeeds (checkAbort >>= fun _ => Flagged.call (.ok a) >>= body) :=
  pyHeeds_checked h

theorem pyHeeds_call {f : PyM PyObj} (hf : PyHeeds f) : PyHeeds (call f) := by
  refine ⟨fun flag => ?_⟩
  rw [attempt_call]
  refine (hf.ends flag).bind ?_ fun _ => trivial
  rintro ⟨_, flag'⟩ rfl
  exact ⟨_, rfl, rfl⟩

theorem un_startBuffering : Uninterrupted startBuffering :=
  un_bind (un_ds ⟨rfl, fun _ => trivial⟩) fun _ => un_pure _

theorem un_stopBuffering : Uninterrupted stopBuffering :=
  un_bind (un_ds ⟨rfl, fun _ => trivial⟩) fun _ => un_ite
    (un_bind (un_ds ⟨rfl, fun _ => trivial⟩) fun _ => un_raise _)
    (un_ite (un_bind (un_ds ⟨rfl, fun _ => trivial⟩) fun _ => un_pure _) (un_pure _))

theorem un_createTypedObject (type : AnsiStr) (wantPointer : Bool) (addr : UINT64) :
    Uninterrupted (do
      match ← ds (ask (.getCachedSymbolType type)) with
      | none => raise .ValueError "Failed to get type id for type '%s'." [.str type.chars]
      | some typeInfo =>
        allocTypedObject 0 none typeInfo.typeId typeInfo.moduleBase addr wantPointer) :=
  un_symbolType (un_raise _) fun _ => un_allocTypedObject _ _ _ _ _ _

theorem un_commandExecuted (hr : HRESULT) : Uninterrupted (commandExecuted hr) := by
  refine ⟨fun flag => ?_⟩
  rw [attempt_commandExecuted]
  exact ⟨fun _ => rfl, fun _ => trivial⟩

theorem pyHeeds_moduleCall (c : ModuleCall) : PyHeeds (moduleCall c) := by
  cases c with
  | readPtr addr =>
    exact pyHeeds_call (pyHeeds_parsed (un_query ⟨rfl, fun _ => trivial⟩ fun _ _ =>
      un_unless (un_newObject _)))
  | readBytes addr count => exact pyHeeds_call (pyHeeds_parsed (un_pyReadBytes _ _))
  | readString addr count => exact pyHeeds_call (pyHeeds_parsed (un_pyReadString _ _))
  | readWideString addr count => exact pyHeeds_call (pyHeeds_parsed (un_pyReadWideString _ _))
  | fieldOffset type field =>
    exact pyHeeds_call (pyHeeds_parsed
      (un_query (visible_queryType fun _ => ⟨rfl, fun _ => trivial⟩) fun _ _ =>
        un_unless (un_newObject _)))
  | getTypeSize type =>
    exact pyHeeds_call (pyHeeds_parsed
      (un_query (visible_queryType fun _ => ⟨rfl, fun _ => trivial⟩) fun _ _ =>
        un_unless (un_newObject _)))
  | getNearestSym addr =>
    exact pyHeeds_call (pyHeeds_parsed (un_query (visible_utilGetNearestSymbol addr) fun _ _ =>
      un_unless (un_newObject _)))
  | searchMemory start size pattern patGran =>
    exact pyHeeds_call (pyHeeds_parsed (un_query ⟨rfl, fun _ => trivial⟩ fun _ _ =>
      un_ite (un_unless (un_unless (un_raise _))) (un_newObject _)))
  | resolveEnum type value =>
    exact pyHeeds_call (pyHeeds_parsed (un_symbolType (un_raise _) fun _ =>
      un_query ⟨rfl, fun _ => trivial⟩ fun _ _ => un_unless (un_newObject _)))
  | getGlobal symbol =>
    exact pyHeeds_call (pyHeeds_parsed (un_query ⟨rfl, fun _ => trivial⟩ fun _ _ =>
      un_unless (un_symbolType (un_raise _) fun _ => un_allocTypedObject _ _ _ _ _ _)))
  | createTypedObject type addr =>
    exact pyHeeds_call (pyHeeds_parsed (un_createTypedObject type false addr))
  | createTypedPointer type addr =>
    exact pyHeeds_call (pyHeeds_parsed (un_createTypedObject type true addr))
  | getPeb =>
    exact pyHeeds_call (pyHeeds_checked (un_query ⟨rfl, fun _ => trivial⟩ fun _ _ =>
      un_unless (un_newObject _)))
  | currentThread =>
    exact pyHeeds_call (pyHeeds_checked (un_query ⟨rfl, fun _ => trivial⟩ fun _ _ => un_unless
      (un_query ⟨rfl, fun _ => trivial⟩ fun _ _ => un_unless (un_newObject _))))
  | getThreads =>
    exact pyHeeds_call (pyHeeds_checked (un_query visible_utilCountThreads fun _ _ => un_unless
      (un_query (visible_utilEnumThreads _) fun _ _ => un_unless
        (un_tuple (fun _ => un_newObject _) _))))
  | startBuffering => exact pyHeeds_call un_startBuffering.heeds
  | stopBuffering => exact pyHeeds_call un_stopBuffering.heeds
  | executeCommand command =>
    exact pyHeeds_call (pyHeeds_parsed (un_bind (un_ds ⟨rfl, fun _ => trivial⟩)
      un_commandExecuted))

/-- The call on the object `o` returns null as soon as it hears of an interrupt, and leaves the
    object as it was. -/
structure PyHeedsOn (o : DbgScriptTypedObject) (d : Dialogue PyAnswer Called) : Prop where
  ends : d.EndsAfter interrupted fun r => ∃ flag, r = (o, none, flag)

theorem pyHeedsOn_call {f : PyM PyObj} (hf : PyHeeds f) (o : DbgScriptTypedObject) :
    PyHeedsOn o (callOn o f) := by
  refine ⟨((pyHeeds_call hf).ends none).bind ?_ fun _ => trivial⟩
  rintro ⟨_, flag⟩ rfl
  exact ⟨_, rfl, flag, rfl⟩

theorem pyHeeds_subscript (o : DbgScriptTypedObject) (key : Key) :
    PyHeeds (typedObjectMappingSubscript o key) := by
  refine pyHeeds_bind pyHeeds_checkAbort fun _ => ?_
  cases key with
  | int i =>
    refine pyHeeds_bind (un_asSsizeT i).heeds fun index => ?_
    split_ifs
    · exact un_null.heeds
    · exact pyHeeds_checked (un_bind (un_checkTypedData o) fun _ => un_getElement _ _ _ _)
  | str s =>
    exact (un_bind (un_checkTypedData o) fun _ =>
      un_bind (un_asFieldName s) fun _ => un_getFieldOf _ _).heeds
  | other => exact (un_raise _).heeds

theorem pyHeedsOn_value (o : DbgScriptTypedObject) :
    PyHeedsOn o (objectCall o .value) := by
  have hchecks : PyHeeds (do
      checkAbort
      checkTypedData o
      if !dsTypedObjectIsPrimitive o then raise .ValueError "Not a primitive type." []) :=
    pyHeeds_checked (un_bind (un_checkTypedData o) fun _ => un_unless (un_pure _))
  have hvalue : (typedObjectGetValue o none).EndsAfter interrupted
      fun r => ∃ flag, r = (o, none, flag) := by
    refine (hchecks.ends none).bind ?_ ?_
    · rintro ⟨_, flag⟩ rfl
      exact ⟨_, rfl, flag, rfl⟩
    · rintro ⟨_ | ⟨⟩, flag⟩
      · trivial
      · refine EndsAfter.of_asks (Dialogue.asks_bind (Dialogue.asks_inl
          ((visible_readTypedData o).mono fun _ hr x => interrupted_visible hr x))
          (Dialogue.leaves_true _) ?_)
        rintro ⟨o, hr⟩ -
        simp only
        split_ifs
        · trivial
        · exact Dialogue.asks_bind ((un_pyValueFromCValue o).asks flag) (Dialogue.leaves_true _)
            fun _ _ => trivial
  refine ⟨hvalue.bind ?_ fun _ => trivial⟩
  rintro _ ⟨flag, rfl⟩
  exact ⟨_, rfl, flag, rfl⟩

theorem un_len (o : DbgScriptTypedObject) : Uninterrupted (len o) :=
  un_bind (un_bind (un_checkTypedData o) fun _ => un_unless
    (un_query (visible_dsTypedObjectGetArrayElement _ _) fun _ _ => un_unless
      (un_bind (un_ds (visible_ulongDiv _ _)) fun _ => un_pure _))) fun _ => un_newObject _

theorem pyHeedsOn_objectCall (o : DbgScriptTypedObject) (c : ObjectCall) :
    PyHeedsOn o (objectCall o c) := by
  cases c with
  | name | type | module | size | address => exact pyHeedsOn_call (un_newObject _).heeds o
  | value => exact pyHeedsOn_value o
  | deref =>
    exact pyHeedsOn_call (pyHeeds_checked (un_bind (un_checkTypedData o) fun _ =>
      un_getElement _ _ _ _)) o
  | field name => exact pyHeedsOn_call (pyHeeds_subscript o _) o
  | element index => exact pyHeedsOn_call (pyHeeds_subscript o _) o
  | length => exact pyHeedsOn_call (un_len o).heeds o
  | readString count =>
    exact pyHeedsOn_call (pyHeeds_checked (un_bind (un_checkTypedData o) fun _ =>
      un_bind (un_call _) fun _ => un_pyReadString _ _)) o
  | readWideString count =>
    exact pyHeedsOn_call (pyHeeds_checked (un_bind (un_checkTypedData o) fun _ =>
      un_bind (un_call _) fun _ => un_pyReadWideString _ _)) o
  | readBytes count => exact pyHeedsOn_call (pyHeeds_parsed (un_pyReadBytes _ _)) o
  | runtimeObject =>
    exact pyHeedsOn_call (pyHeeds_checked (un_bind (un_newObject _) fun _ =>
      un_bind (un_ds (visible_dsTypedObjectGetRuntimeType _ _)) fun _ => un_unless (un_pure _))) o

theorem pyHeeds_threadCall (thd : DbgScriptThread) (c : ThreadCall) :
    PyHeeds (threadCall thd c) := by
  cases c with
  | engineId | threadId => exact pyHeeds_call (un_newObject _).heeds
  | teb | currentFrame =>
    exact pyHeeds_call (pyHeeds_checked (un_query ⟨rfl, fun _ => trivial⟩ fun _ _ =>
      un_unless (un_newObject _)))
  | stack =>
    exact pyHeeds_call (pyHeeds_checked (un_query ⟨rfl, fun _ => trivial⟩ fun _ _ =>
      un_unless (un_tuple (fun _ => un_newObject _) _)))

theorem pyHeeds_variables (frame : DbgScriptStackFrame) (thd : DbgScriptThread) (flags : ULONG) :
    PyHeeds (getVariablesHelper frame thd flags) :=
  pyHeeds_checked (un_query ⟨rfl, fun _ => trivial⟩ fun _ _ => un_unless
    (un_bind un_newTuple fun _ => un_bind (un_bind (un_enumSymbols _ _ _) fun _ =>
      un_bind (un_ds ⟨rfl, fun _ => trivial⟩) fun _ => un_pure _) fun _ =>
        un_unless (un_returnTuple _ _)))

theorem pyHeeds_frameCall (frame : DbgScriptStackFrame) (thd : DbgScriptThread) (c : FrameCall) :
    PyHeeds (frameCall frame thd c) := by
  cases c with
  | frameNumber | instructionOffset => exact pyHeeds_call (un_newObject _).heeds
  | locals | args => exact pyHeeds_call (pyHeeds_variables _ _ _)

end DbgScript.Python
