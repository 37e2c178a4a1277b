import DbgScript.Providers.ApiObjects
import DbgScript.Python.Functions

/-!
# The scripting interface in Python

* `moduleCall_refines`, `objectCall_refines`, `threadCall_refines`, `frameCall_refines`: the
  Python functions do what the interface promises.

The interpreter raises an error for a result that is returned with an exception pending, so
that `execute_command` raises one as well.
-/

namespace DbgScript.Python

open ScriptApi
open CharBuf (CStr Buf FixedStr)
open Dialogue (Covers Rel Settles)
open Flagged (orNull)

/-! ## Calls and replies -/

/-- The objects of the provider's own types. -/
def entity? : PyObj → Option (Entity DbgScriptTypedObject)
  | .typedObject data => some (.object data)
  | .thread thd => some (.thread thd)
  | .stackFrame frame thd => some (.frame frame thd)
  | _ => none

/-- An object as a reply. -/
def reply : PyObj → Reply DbgScriptTypedObject
  | .none => .nothing
  | .int i => .integer (BitVec.ofInt 64 i)
  | .single bits => .single bits
  | .double bits => .double bits
  | .bool b => .boolean b
  | .str s => .text s
  | .wstr _ => .other
  | .bytes s => .text s
  | .tuple items =>
    match items.mapM entity? with
    | some es => .entities es
    | none => .other
  | .attribute => .other
  | .typedObject data => .entity (.object data)
  | .thread thd => .entity (.thread thd)
  | .stackFrame frame thd => .entity (.frame frame thd)

/-- What the interpreter makes of the outcome of a call (`_Py_CheckFunctionResult`). -/
def checkResult : Option PyObj × Option PyErr → Option (Reply DbgScriptTypedObject) × Option PyErr
  | (some ret, none) => (some (reply ret), none)
  | (some _, some _) =>
    (none, some ⟨.other "SystemError", "returned a result with an error set", []⟩)
  | (none, flag) => (none, flag)

/-- A call by the interpreter. -/
def call (f : PyM PyObj) : PyM (Reply DbgScriptTypedObject) := fun flag =>
  Dialogue.bind (f.attempt flag) fun r => .done (checkResult r)

def moduleCall : ModuleCall → PyM (Reply DbgScriptTypedObject)
  | .readPtr addr => call (readPtr (.ok addr))
  | .readBytes addr count => call (readBytes (.ok (addr, count)))
  | .readString addr count => call (readString (.ok (addr, count)))
  | .readWideString addr count => call (readWideString (.ok (addr, count)))
  | .fieldOffset type field => call (fieldOffset (.ok (type, field)))
  | .getTypeSize type => call (getTypeSize (.ok type))
  | .getNearestSym addr => call (getNearestSym (.ok addr))
  | .searchMemory start size pattern patGran =>
    call (searchMemory (.ok (start, size, pattern, patGran)))
  | .resolveEnum type value => call (resolveEnum (.ok (type, value)))
  | .getGlobal symbol => call (getGlobal (.ok symbol))
  | .createTypedObject type addr => call (createTypedObject (.ok (type, addr)))
  | .createTypedPointer type addr => call (createTypedPointer (.ok (type, addr)))
  | .getPeb => call getPeb
  | .currentThread => call getCurrentThread
  | .getThreads => call getThreads
  | .startBuffering => call startBuffering
  | .stopBuffering => call stopBuffering
  | .executeCommand command => call (executeCommand (.ok command))

/-- What a call leaves of the object it is made on, with the reply. -/
abbrev Called := DbgScriptTypedObject × (Option (Reply DbgScriptTypedObject) × Option PyErr)

/-- A call that leaves its object alone. -/
def callOn (typObj : DbgScriptTypedObject) (f : PyM PyObj) : Dialogue PyAnswer Called :=
  Dialogue.bind ((call f).attempt none) fun r => .done (typObj, r)

/-- `len(obj)`. -/
def len (typObj : DbgScriptTypedObject) : PyM PyObj := do
  let numElems ← typedObjectSequenceLength typObj
  newObject (.int numElems)

/-- The text as a `str`. -/
def asStr (s : AnsiStr) : List Char := s.chars.map fun c => Char.ofNat c.toNat

/-- The members of `TypedObject_MemberDef` (src/pythonprov/typedobject.cpp:32-40), the
    properties and methods. A field is got by `obj[name]`. -/
def objectCall (typObj : DbgScriptTypedObject) : ObjectCall → Dialogue PyAnswer Called
  | .name => callOn typObj (newObject (.str typObj.name.str))
  | .type => callOn typObj (newObject (.str typObj.typeName.str))
  | .module => callOn typObj (newObject (.str typObj.moduleName.str))
  | .size => callOn typObj (newObject (.int typObj.typedData.size.toNat))
  | .address => callOn typObj (newObject (.int typObj.typedData.offset.toNat))
  | .value => Dialogue.bind (typedObjectGetValue typObj none) fun r => .done (r.1, checkResult r.2)
  | .deref => callOn typObj (typedObjectDeref typObj)
  | .field name => callOn typObj (typedObjectMappingSubscript typObj (.str (asStr name)))
  | .element index => callOn typObj (typedObjectMappingSubscript typObj (.int index))
  | .length => callOn typObj (len typObj)
  | .readString count => callOn typObj (typedObjectReadString typObj (.ok count))
  | .readWideString count => callOn typObj (typedObjectReadWideString typObj (.ok count))
  | .readBytes count => callOn typObj (typedObjectReadBytes typObj (.ok count))
  | .runtimeObject => callOn typObj (typedObjectGetRuntimeObj typObj)

/-- The members of `Thread_MemberDef` (src/pythonprov/thread.cpp:198-203), and the rest. -/
def threadCall (thd : DbgScriptThread) : ThreadCall → PyM (Reply DbgScriptTypedObject)
  | .engineId => call (newObject (.int thd.engineId.toNat))
  | .threadId => call (newObject (.int thd.threadId.toNat))
  | .teb => call (threadGetTeb thd)
  | .currentFrame => call (threadGetCurrentFrame thd)
  | .stack => call (threadGetStack thd)

/-- The members of `StackFrame_MemberDef` (src/pythonprov/stackframe.cpp:139-144), and the
    rest. -/
def frameCall (frame : DbgScriptStackFrame) (thd : DbgScriptThread) :
    FrameCall → PyM (Reply DbgScriptTypedObject)
  | .frameNumber => call (newObject (.int frame.frameNumber.toNat))
  | .instructionOffset => call (newObject (.int frame.instructionOffset.toNat))
  | .locals => call (stackFrameGetLocals frame thd)
  | .args => call (stackFrameGetArgs frame thd)

/-! ## Replies -/

/-- The object is the reply that the interface promises. -/
def Shows (ret : PyObj) (b : Reply Datum) : Prop := Promised (reply ret) b

variable {α β γ δ : Type} {R : α → β → Prop} {S : γ → δ → Prop}

theorem attempt_call (f : PyM PyObj) (flag : Option PyErr) :
    (call f).attempt flag = f.attempt flag >>= fun r => .done (checkResult r) := rfl

theorem call_refines {f : PyM PyObj} {g : ApiM (Reply Datum)} (h : PyRefines Shows f g) :
    PyRefines Promised (call f) g := by
  rw [PyRefines, attempt_call]
  refine Covers.bind_left h ?_
  rintro _ _ (flag | hab)
  · exact .done (.null flag)
  · exact .done (.value hab)

theorem newObject_refines {o : PyObj} {b : β} {S : PyObj → β → Prop} (h : S o b) :
    PyRefines S (newObject o) (pure b) := by
  rw [PyRefines, attempt_newObject]
  refine .aside _ rfl fun r hcalm => ?_
  obtain rfl : r = .ok () := hcalm
  exact .done (.value h)

theorem int_refines {n : ℕ} (i : BitVec n) :
    PyRefines Shows (newObject (.int i.toNat)) (integer i) := by
  have hint : BitVec.ofInt 64 (i.toNat : ℤ) = i.setWidth 64 := by
    rw [BitVec.ofInt_natCast, BitVec.ofNat_toNat]
  refine newObject_refines ?_
  rw [Shows, reply, hint]
  exact .integer _

theorem str_refines (s : List CHAR) : PyRefines Shows (newObject (.str s)) (text s) := by
  rw [text]
  split_ifs
  · exact newObject_refines (.text s)
  · exact pyRefines_unspecified _

/-! ## The module -/

/-- A query whose failure raises an exception. -/
theorem query_refines {q : DsM (HRESULT × α)} {k : HRESULT × α → PyM γ} {l : α → ApiM δ}
    (hq : q.Asks Visible)
    (hfail : ∀ hr a, FAILED hr = true → ∃ err, k (hr, a) = Flagged.raise err)
    (hok : ∀ hr a, FAILED hr = false → PyRefines S (k (hr, a)) (l a)) :
    PyRefines S (ds q >>= k) (query q >>= l) := by
  refine pyRefines_query hq ?_ hok
  intro hr a hf
  obtain ⟨err, herr⟩ := hfail hr a hf
  rw [herr]
  exact pyRefines_raise _ _ _

theorem checked_refines {f : PyM γ} {g : ApiM δ} (h : PyRefines S f g) :
    PyRefines S (checkAbort >>= fun _ => f) g :=
  pyRefines_settle settles_pyCheckAbort h

/-- The arguments have been parsed. -/
theorem parsed_refines {a : α} {body : α → PyM γ} {g : ApiM δ} (h : PyRefines S (body a) g) :
    PyRefines S (checkAbort >>= fun _ => Flagged.call (.ok a) >>= body) g :=
  checked_refines h

theorem readPtr_refines (addr : UINT64) :
    PyRefines Shows (readPtr (.ok addr)) (ScriptApi.moduleCall (.readPtr addr)) := by
  refine parsed_refines (query_refines ⟨rfl, fun _ => trivial⟩ (fun _ _ hf => ⟨_, if_pos hf⟩) ?_)
  intro hr ptrVal hf
  simp only [hf]
  exact int_refines ptrVal

theorem getPeb_refines : PyRefines Shows getPeb (ScriptApi.moduleCall .getPeb) := by
  refine checked_refines (query_refines ⟨rfl, fun _ => trivial⟩ (fun _ _ hf => ⟨_, if_pos hf⟩) ?_)
  intro hr addr hf
  simp only [hf]
  exact int_refines addr

theorem fieldOffset_refines (type field : AnsiStr) :
    PyRefines Shows (fieldOffset (.ok (type, field)))
      (ScriptApi.moduleCall (.fieldOffset type field)) := by
  refine parsed_refines (query_refines (visible_queryType fun _ => ⟨rfl, fun _ => trivial⟩)
    (fun _ _ hf => ⟨_, if_pos hf⟩) ?_)
  intro hr offset hf
  simp only [hf]
  exact int_refines offset

theorem getTypeSize_refines (type : AnsiStr) :
    PyRefines Shows (getTypeSize (.ok type)) (ScriptApi.moduleCall (.getTypeSize type)) := by
  refine parsed_refines (query_refines (visible_queryType fun _ => ⟨rfl, fun _ => trivial⟩)
    (fun _ _ hf => ⟨_, if_pos hf⟩) ?_)
  intro hr size hf
  simp only [hf]
  exact int_refines size

theorem getNearestSym_refines (addr : UINT64) :
    PyRefines Shows (getNearestSym (.ok addr)) (ScriptApi.moduleCall (.getNearestSym addr)) := by
  refine parsed_refines (query_refines (visible_utilGetNearestSymbol addr)
    (fun _ _ hf => ⟨_, if_pos hf⟩) ?_)
  intro hr name hf
  simp only [hf]
  exact str_refines name.str

theorem pyReadBytes_refines (addr : UINT64) (count : ULONG) :
    PyRefines Shows (pyReadBytes addr count) (bytesAt addr count) := by
  refine query_refines ⟨rfl, fun _ => trivial⟩ (fun _ _ hf => ⟨_, if_pos hf⟩) ?_
  intro hr bytes hf
  simp only [hf]
  exact newObject_refines (.text bytes)

theorem pyReadString_refines (addr : UINT64) (count : Option CInt) :
    PyRefines Shows (pyReadString addr (count.getD (-1))) (stringAt addr count) := by
  rw [pyReadString, stringAt]
  split_ifs with hbad
  · exact pyRefines_raise _ _ _
  · refine query_refines ⟨rfl, fun _ => trivial⟩ (fun _ _ hf => ⟨_, if_pos hf⟩) ?_
    intro hr buf hf
    simp only [hf]
    exact str_refines buf.str

theorem pyReadWideString_refines (addr : UINT64) (count : Option CInt) :
    PyRefines Shows (pyReadWideString addr (count.getD (-1))) (wideStringAt addr count) := by
  rw [pyReadWideString, wideStringAt]
  split_ifs with hbad
  · exact pyRefines_raise _ _ _
  · exact query_refines (visible_utilReadWideString _ _) (fun _ _ hf => ⟨_, if_pos hf⟩)
      fun _ _ _ => pyRefines_unspecified _

theorem searchMemory_refines (start size : UINT64) (pattern : List UInt8) (patGran : ULONG) :
    PyRefines Shows (searchMemory (.ok (start, size, pattern, patGran)))
      (ScriptApi.moduleCall (.searchMemory start size pattern patGran)) := by
  rw [ScriptApi.moduleCall]
  split_ifs with hlen
  · exact pyRefines_unspecified _
  · have hpattern : pattern.take (BitVec.ofNat 32 pattern.length).toNat = pattern := by
      rw [BitVec.toNat_ofNat, Nat.mod_eq_of_lt (by omega), List.take_length]
    refine parsed_refines ?_
    show PyRefines Shows (ds (ask (.searchVirtual start size
      (pattern.take (BitVec.ofNat 32 pattern.length).toNat) patGran)) >>= _) _
    rw [hpattern]
    refine pyRefines_query ⟨rfl, fun _ => trivial⟩ ?_ ?_
    · intro hr addr hf
      simp only [hf, if_true]
      split_ifs
      · exact pyRefines_raise _ _ _
      · exact pyRefines_raise _ _ _
      · exact pyRefines_raise _ _ _
    · intro hr addr hf
      simp only [hf]
      exact int_refines addr

theorem resolveEnum_refines (type : AnsiStr) (value : UINT64) :
    PyRefines Shows (resolveEnum (.ok (type, value)))
      (ScriptApi.moduleCall (.resolveEnum type value)) := by
  refine parsed_refines (pyRefines_symbolType (pyRefines_raise _ _ _) ?_)
  intro typeInfo
  refine query_refines ⟨rfl, fun _ => trivial⟩ (fun _ _ hf => ⟨_, if_pos hf⟩) ?_
  intro hr name hf
  simp only [hf]
  exact str_refines name.chars

/-! ## New objects -/

/-- The object is the one that the interface knows. -/
def ShowsDatum (ret : PyObj) (x : Datum) : Prop := ∃ o, ret = .typedObject o ∧ Represents o x

theorem ShowsDatum.shows {ret : PyObj} {x : Datum} (h : ShowsDatum ret x) :
    Shows ret (.entity (.object x)) := by
  obtain ⟨o, rfl, h⟩ := h
  exact .entity (.object h)

theorem allocTypedObject_refines (size : ULONG) (name : Option AnsiStr) (typeId : ULONG)
    (moduleBase address : UINT64) (wantPointer : Bool) :
    PyRefines ShowsDatum (allocTypedObject size name typeId moduleBase address wantPointer)
      (orElse .raised (initObject size name typeId moduleBase address wantPointer)) := by
  refine pyRefines_settle (settles_newObject _) (pyRefines_made .raised
    (made_dsInitializeTypedObject _ _ _ _ _ _ _) (visible_initObject _ _ _ _ _ _) ?_
    (fun _ _ h => if_neg h) fun o _ h => ⟨o, rfl, h⟩)
  intro o hr hf
  simp only [hf, if_true]
  exact pyRefines_raise _ _ _

theorem allocSubTypedObject_refines (name : AnsiStr) (data : DebugTypedData) :
    PyRefines ShowsDatum (allocSubTypedObject name data) (orElse .raised (wrap name data)) := by
  refine pyRefines_settle (settles_newObject _) (pyRefines_made .raised
    (made_dsWrapTypedData _ _ _) (visible_wrap _ _) ?_
    (fun _ _ h => if_neg h) fun o _ h => ⟨o, rfl, h⟩)
  intro o hr hf
  simp only [hf, if_true]
  exact pyRefines_raise _ _ _

theorem object_refines {f : PyM PyObj} {d : MakeM Datum}
    (h : PyRefines ShowsDatum f (orElse .raised d)) :
    PyRefines Shows f (object d) :=
  h.bind_right fun _ _ hx => pyRefines_pure hx.shows

theorem createTypedObjectHelper_refines (type : AnsiStr) (addr : UINT64) (wantPointer : Bool) :
    PyRefines Shows (createTypedObjectHelper (.ok (type, addr)) wantPointer)
      (create type addr wantPointer) := by
  refine parsed_refines (pyRefines_symbolType (pyRefines_raise _ _ _) ?_)
  intro typeInfo
  exact object_refines (allocTypedObject_refines _ _ _ _ _ _)

theorem getGlobal_refines (symbol : AnsiStr) :
    PyRefines Shows (getGlobal (.ok symbol)) (ScriptApi.moduleCall (.getGlobal symbol)) := by
  refine parsed_refines (query_refines ⟨rfl, fun _ => trivial⟩ (fun _ _ hf => ⟨_, if_pos hf⟩) ?_)
  intro hr addr hf
  simp only [hf]
  refine pyRefines_symbolType (pyRefines_raise _ _ _) ?_
  intro typeInfo
  exact object_refines (allocTypedObject_refines _ _ _ _ _ _)

/-! ## Tuples -/

theorem settles_bind {f : PyM α} {k : α → PyM β} {a : α} {r : Option β × Option PyErr}
    (hf : Settles quiet (some a, none) (f.attempt none))
    (hk : Settles quiet r ((k a).attempt none)) : Settles quiet r ((f >>= k).attempt none) := by
  rw [Flagged.attempt_bind]
  exact hf.bind hk

theorem settles_newTuple : Settles quiet (some (some []), none) (newTuple.attempt none) := by
  rw [newTuple]
  refine settles_bind (a := some (.tuple [])) ?_ rfl
  rw [Flagged.attempt_orNull]
  exact (settles_newObject _).bind rfl

theorem settles_setItem (items : List PyObj) (item : PyObj) :
    Settles quiet (some (S_OK, some (items ++ [item])), none)
      ((setItem (some items) (some item)).attempt none) := by
  refine ⟨rfl, fun r hcalm => ?_⟩
  obtain rfl : r = .ok () := hcalm
  rfl

theorem settles_fillTuple (obj : ℕ → PyObj) (k i : ℕ) (items : List PyObj) :
    Settles quiet (some (S_OK, some (items ++ (List.range' i k).map obj)), none)
      ((fillTuple (fun i => newObject (obj i)) k i (some items)).attempt none) := by
  induction k generalizing i items with
  | zero =>
    rw [List.range'_zero, List.map_nil, List.append_nil]
    rfl
  | succ k ih =>
    have hitem : Settles quiet (some (some (obj i)), none)
        ((orNull (newObject (obj i))).attempt none) := by
      rw [Flagged.attempt_orNull]
      exact (settles_newObject _).bind rfl
    rw [fillTuple]
    refine settles_bind hitem (settles_bind (settles_setItem items (obj i)) ?_)
    have hrest := ih (i + 1) (items ++ [obj i])
    rw [List.append_assoc] at hrest
    exact hrest

/-- A tuple of new objects. -/
theorem tuple_refines {obj : ℕ → PyObj} {k : ℕ} {b : Reply Datum}
    (h : Shows (.tuple ((List.range k).map obj)) b) :
    PyRefines Shows (do
      let tuple ← newTuple
      let (hr, tuple) ← fillTuple (fun i => newObject (obj i)) k 0 tuple
      returnTuple hr tuple) (pure b) := by
  refine pyRefines_settle settles_newTuple ?_
  refine pyRefines_settle (settles_fillTuple obj k 0 []) ?_
  rw [List.nil_append, ← List.range_eq_range']
  exact pyRefines_pure h

theorem mapM_entity? {objs : List γ} {obj : γ → PyObj} {e : γ → Entity DbgScriptTypedObject}
    (h : ∀ c, entity? (obj c) = some (e c)) : (objs.map obj).mapM entity? = some (objs.map e) := by
  induction objs with
  | nil => rfl
  | cons c objs ih => simp [h, ih]

theorem reply_tuple {objs : List γ} {obj : γ → PyObj} {e : γ → Entity DbgScriptTypedObject}
    (h : ∀ c, entity? (obj c) = some (e c)) :
    reply (.tuple (objs.map obj)) = .entities (objs.map e) := by
  rw [reply, mapM_entity? h]

/-! ## Threads -/

theorem getCurrentThread_refines :
    PyRefines Shows getCurrentThread (ScriptApi.moduleCall .currentThread) := by
  refine checked_refines (query_refines ⟨rfl, fun _ => trivial⟩ (fun _ _ hf => ⟨_, if_pos hf⟩) ?_)
  intro hr engineId hf
  simp only [hf]
  refine query_refines ⟨rfl, fun _ => trivial⟩ (fun _ _ hf => ⟨_, if_pos hf⟩) ?_
  intro hr threadId hf
  simp only [hf]
  exact newObject_refines (.entity (.thread _))

theorem getThreads_refines : PyRefines Shows getThreads (ScriptApi.moduleCall .getThreads) := by
  refine checked_refines (query_refines visible_utilCountThreads (fun _ _ hf => ⟨_, if_pos hf⟩) ?_)
  intro hr cThreads hf
  simp only [hf]
  refine query_refines (visible_utilEnumThreads cThreads) (fun _ _ hf => ⟨_, if_pos hf⟩) ?_
  intro hr ids hf
  simp only [hf]
  by_cases hlen : maxLength < cThreads.toNat
  · rw [if_pos hlen]
    exact pyRefines_unspecified _
  · rw [if_neg hlen]
    refine tuple_refines ?_
    have htuple : reply (.tuple ((List.range cThreads.toNat).map fun i =>
        .thread ⟨(ids.getD i default).1, (ids.getD i default).2⟩)) =
          .entities ((threadsOf cThreads ids).map .thread) := by
      rw [threadsOf, List.map_map]
      exact reply_tuple fun _ => rfl
    rw [Shows, htuple]
    exact promised_threads _

/-! ## Output -/

theorem startBuffering_refines :
    PyRefines Shows startBuffering (ScriptApi.moduleCall .startBuffering) :=
  pyRefines_lift_bind ⟨rfl, fun _ => trivial⟩ fun _ => pyRefines_pure .nothing

theorem stopBuffering_refines :
    PyRefines Shows stopBuffering (ScriptApi.moduleCall .stopBuffering) := by
  refine pyRefines_lift_bind ⟨rfl, fun _ => trivial⟩ ?_
  intro newVal
  split_ifs
  · exact pyRefines_lift_bind ⟨rfl, fun _ => trivial⟩ fun _ => pyRefines_raise _ _ _
  · exact pyRefines_lift_bind ⟨rfl, fun _ => trivial⟩ fun _ => pyRefines_pure .nothing
  · exact pyRefines_pure .nothing

/-- After a failure `None` is returned with an exception pending, which the interpreter does
    not let pass. -/
theorem executeCommand_refines (command : AnsiStr) :
    PyRefines Promised (call (executeCommand (.ok command)))
      (ScriptApi.moduleCall (.executeCommand command)) := by
  rw [PyRefines, attempt_call, executeCommand, Flagged.attempt_bind, Dialogue.bind_assoc]
  refine Covers.settle settles_pyCheckAbort (.ask _ rfl fun (hr : HRESULT) => ?_)
  show Covers quiet Unspecified (Pending Promised)
    ((commandExecuted hr).attempt none >>= fun r => .done (checkResult r)) _
  rw [attempt_commandExecuted]
  refine .aside _ rfl ?_
  rintro (pending : Option PyErr) (rfl : pending = none)
  by_cases hf : FAILED hr = true
  · simp only [Dialogue.bind, Throws.andThen, hf, if_true]
    exact .done (.null _)
  · simp only [Dialogue.bind, Throws.andThen, hf]
    exact .done (.value .nothing)

theorem moduleCall_refines (c : ModuleCall) :
    PyRefines Promised (moduleCall c) (ScriptApi.moduleCall c) := by
  cases c with
  | readPtr addr => exact call_refines (readPtr_refines addr)
  | readBytes addr count => exact call_refines (parsed_refines (pyReadBytes_refines addr count))
  | readString addr count => exact call_refines (parsed_refines (pyReadString_refines addr count))
  | readWideString addr count =>
    exact call_refines (parsed_refines (pyReadWideString_refines addr count))
  | fieldOffset type field => exact call_refines (fieldOffset_refines type field)
  | getTypeSize type => exact call_refines (getTypeSize_refines type)
  | getNearestSym addr => exact call_refines (getNearestSym_refines addr)
  | searchMemory start size pattern patGran =>
    exact call_refines (searchMemory_refines start size pattern patGran)
  | resolveEnum type value => exact call_refines (resolveEnum_refines type value)
  | getGlobal symbol => exact call_refines (getGlobal_refines symbol)
  | createTypedObject type addr =>
    exact call_refines (createTypedObjectHelper_refines type addr false)
  | createTypedPointer type addr =>
    exact call_refines (createTypedObjectHelper_refines type addr true)
  | getPeb => exact call_refines getPeb_refines
  | currentThread => exact call_refines getCurrentThread_refines
  | getThreads => exact call_refines getThreads_refines
  | startBuffering => exact call_refines startBuffering_refines
  | stopBuffering => exact call_refines stopBuffering_refines
  | executeCommand command => exact executeCommand_refines command

/-! ## Values -/

theorem word_refines {n : ℕ} (i : BitVec n) {k : ℕ} (hk : i.toNat = k) :
    PyRefines Shows (newObject (.int i.toNat)) (pure (.integer (BitVec.ofNat 64 k))) := by
  have h := int_refines i
  rw [integer, ← BitVec.ofNat_toNat, hk] at h
  rw [hk]
  exact h

theorem signed_refines {n : ℕ} (i : BitVec n) {k : ℕ}
    (hk : BitVec.ofInt 64 i.toInt = BitVec.ofNat 64 k) :
    PyRefines Shows (newObject (.int i.toInt)) (pure (.integer (BitVec.ofNat 64 k))) := by
  refine newObject_refines ?_
  rw [Shows, reply, hk]
  exact .integer _

theorem pyValueFromCValue_refines (o : DbgScriptTypedObject) (bytes : List UInt8) :
    PyRefines Shows (pyValueFromCValue (o.withValue bytes)) (valueOf o.typedData bytes) := by
  have htd : (o.withValue bytes).typedData = o.typedData := rfl
  rw [pyValueFromCValue, valueOf, htd]
  cases o.typedData.tag with
  | PointerType =>
    exact pyRefines_low o bytes 8 (word_refines _ (TypedObjectValue.toNat_ui64Val _))
  | Enum => exact pyRefines_low o bytes 4 (word_refines _ (TypedObjectValue.toNat_dwVal _))
  | ArrayType | BaseType | other tag =>
    cases o.typedData.baseTypeId with
    | CHAR => exact pyRefines_low o bytes 1 (str_refines _)
    | INT8 | UINT8 =>
      exact pyRefines_low o bytes 1 (word_refines _ (TypedObjectValue.toNat_byteVal _))
    | INT16 | UINT16 =>
      exact pyRefines_low o bytes 2 (word_refines _ (TypedObjectValue.toNat_wordVal _))
    | WCHAR => exact pyRefines_unspecified _
    | INT32 | LONG32 =>
      refine pyRefines_low o bytes 4 ?_
      split_ifs with hsmall
      · have hnat := TypedObjectValue.toNat_dwVal (o.withValue bytes).value
        refine signed_refines _ ?_
        rw [BitVec.toInt_eq_toNat_cond, if_pos (by omega), hnat, BitVec.ofInt_natCast]
      · exact pyRefines_unspecified _
    | UINT32 | ULONG32 =>
      exact pyRefines_low o bytes 4 (word_refines _ (TypedObjectValue.toNat_dwVal _))
    | INT64 => exact pyRefines_low o bytes 8 (signed_refines _ BitVec.ofInt_toInt)
    | UINT64 => exact pyRefines_low o bytes 8 (word_refines _ (TypedObjectValue.toNat_ui64Val _))
    | BOOL => exact pyRefines_low o bytes 1 (newObject_refines (.boolean _))
    | FLOAT32 => exact pyRefines_low o bytes 4 (newObject_refines (.single _))
    | FLOAT64 => exact pyRefines_low o bytes 8 (newObject_refines (.double _))
    | other id => exact pyRefines_raise _ _ _

/-! ## Typed objects -/

section TypedObject

variable {o : DbgScriptTypedObject} {x : Datum} {g : ApiM (Reply Datum)}

/-- The call does what the interface promises, and the object still represents `x`. -/
def CallRefines (x : Datum) (d : Dialogue PyAnswer Called) (g : ApiM (Reply Datum)) : Prop :=
  Covers quiet Unspecified (fun r b => Represents r.1 x ∧ Pending Promised r.2 b) d g.attempt.inl

theorem callOn_refines (h : Represents o x) {f : PyM PyObj} (hf : PyRefines Shows f g) :
    CallRefines x (callOn o f) g :=
  Covers.bind_left (call_refines hf) fun _ _ hr => .done ⟨h, hr⟩

theorem callRefines_typed (h : Represents o x) {d : Dialogue PyAnswer Called}
    {l : DebugTypedData → ApiM (Reply Datum)}
    (hl : o.typedDataValid = true → CallRefines x d (l o.typedData)) :
    CallRefines x d (typed x >>= l) := by
  obtain ⟨data, hvalid, rfl, hx⟩ | hx := typed_cases h
  · rw [hx]
    exact hl hvalid
  · rw [hx]
    exact .free rfl

theorem callOn_refines_typed (h : Represents o x) {f : PyM PyObj}
    {l : DebugTypedData → ApiM (Reply Datum)}
    (hf : o.typedDataValid = true → PyRefines Shows f (l o.typedData)) :
    CallRefines x (callOn o f) (typed x >>= l) :=
  callRefines_typed h fun hvalid => callOn_refines h (hf hvalid)

theorem checkTypedData_of_valid (hvalid : o.typedDataValid = true) :
    checkTypedData o = pure () := by
  simp [checkTypedData, hvalid]

/-- A function that goes on with a valid object. -/
theorem valid_refines (hvalid : o.typedDataValid = true) {f : PyM γ} {g : ApiM δ}
    (h : PyRefines S f g) : PyRefines S (checkTypedData o >>= fun _ => f) g := by
  rw [checkTypedData_of_valid hvalid]
  exact h

theorem getElement_refines (exc : PyExc) (index : UINT64) (name : AnsiStr) :
    PyRefines Shows (getElement exc o index name)
      (elementOf o.typedData index >>= fun elem => object (wrap name elem)) := by
  refine pyRefines_yields (rel_dsTypedObjectGetArrayElement o index) (visible_elementOf _ _) ?_ ?_
  · intro hr data hf
    simp only [hf, if_true]
    exact pyRefines_raise _ _ _
  · intro hr data hf
    simp only [hf]
    exact object_refines (allocSubTypedObject_refines name data)

theorem deref_refines (h : Represents o x) :
    CallRefines x (callOn o (typedObjectDeref o)) (ScriptApi.objectCall x .deref) := by
  refine callOn_refines_typed h fun hvalid => ?_
  rw [← h.name, cstrOfChars_str]
  exact checked_refines (valid_refines hvalid (getElement_refines _ _ _))

theorem element_refines (h : Represents o x) (index : ℕ) :
    CallRefines x (callOn o (typedObjectMappingSubscript o (.int index)))
      (ScriptApi.objectCall x (.element index)) := by
  refine callOn_refines_typed h fun hvalid => ?_
  split_ifs with hindex
  · have hsize : asSsizeT (index : ℤ) = pure (BitVec.ofNat 64 index) := by
      funext flag
      rw [asSsizeT, if_pos (by omega), BitVec.ofInt_natCast]
      rfl
    have hne : BitVec.ofNat 64 index ≠ -1 := by
      intro heq
      have hnat := congrArg BitVec.toNat heq
      rw [BitVec.toNat_ofNat, Nat.mod_eq_of_lt (by omega)] at hnat
      have hmax : (-1 : BitVec 64).toNat = 2 ^ 64 - 1 := rfl
      omega
    refine checked_refines ?_
    show PyRefines Shows (asSsizeT (index : ℤ) >>= fun index =>
      if index = -1 then Flagged.null else typedObjectSequenceGetItem o index) _
    rw [hsize]
    show PyRefines Shows (if BitVec.ofNat 64 index = -1 then Flagged.null else
      typedObjectSequenceGetItem o (BitVec.ofNat 64 index)) _
    rw [if_neg hne]
    exact checked_refines (valid_refines hvalid (getElement_refines _ _ _))
  · exact pyRefines_unspecified _

/-- An ASCII name is encoded as it was. -/
theorem settles_asFieldName {name : AnsiStr} (hascii : ScriptApi.isAscii name.chars = true) :
    Settles quiet (some name, none) ((asFieldName (asStr name)).attempt none) := by
  have hlt : ∀ c ∈ name.chars, c.toNat < 128 := by
    intro c hc
    have := List.all_eq_true.1 hascii c hc
    simpa [UInt8.lt_iff_toNat_lt] using this
  have hchar : ∀ c ∈ name.chars, (Char.ofNat c.toNat).toNat = c.toNat := by
    intro c hc
    have hvalid : c.toNat.isValidChar := .inl (by have := hlt c hc; omega)
    rw [Char.ofNat, dif_pos hvalid]
    rfl
  have hbytes : (asStr name).map (fun c => c.toNat.toUInt8) = name.chars := by
    rw [asStr, List.map_map]
    refine (List.map_congr_left fun c hc => ?_).trans (List.map_id _)
    show (Char.ofNat c.toNat).toNat.toUInt8 = c
    rw [hchar c hc]
    exact UInt8.ofNat_toNat
  have hall : isAscii (asStr name) = true := by
    rw [isAscii, asStr, List.all_map, List.all_eq_true]
    intro c hc
    simp [hchar c hc, hlt c hc]
  rw [asFieldName, hall, hbytes]
  simp only [cstrOfChars_chars]
  exact settles_bind (settles_newObject _) rfl

theorem field_refines (h : Represents o x) (name : AnsiStr) :
    CallRefines x (callOn o (typedObjectMappingSubscript o (.str (asStr name))))
      (ScriptApi.objectCall x (.field name)) := by
  refine callOn_refines_typed h fun hvalid => ?_
  split_ifs with hascii
  · refine checked_refines (valid_refines hvalid ?_)
    refine pyRefines_settle (settles_asFieldName hascii) ?_
    refine pyRefines_yields (rel_dsTypedObjectGetField o name) (visible_fieldOf _ _) ?_ ?_
    · intro hr data hf
      simp only [hf, if_true]
      exact pyRefines_raise _ _ _
    · intro hr data hf
      simp only [hf]
      exact object_refines (allocSubTypedObject_refines name data)
  · exact pyRefines_unspecified _

/-- The length as the interface knows it. -/
def ShowsLength (len : ℕ) (b : Reply Datum) : Prop :=
  ∃ n : ULONG, len = n.toNat ∧ b = .integer (n.setWidth 64)

theorem seqLength_refines (hvalid : o.typedDataValid = true) :
    PyRefines ShowsLength (typedObjectSequenceLength o)
      (if o.typedData.tag ≠ .ArrayType then raised
      else do
        let elem ← elementOf o.typedData 0
        integer (← Throws.lift (ulongDiv o.typedData.size elem.size))) := by
  refine valid_refines hvalid ?_
  split_ifs
  · exact pyRefines_raise _ _ _
  · refine pyRefines_yields (rel_dsTypedObjectGetArrayElement o 0) (visible_elementOf _ _) ?_ ?_
    · intro hr data hf
      simp only [hf, if_true]
      exact pyRefines_raise _ _ _
    · intro hr data hf
      simp only [hf]
      exact pyRefines_lift_bind (visible_ulongDiv _ _) fun n => pyRefines_pure ⟨n, rfl, rfl⟩

theorem len_refines (h : Represents o x) :
    CallRefines x (callOn o (len o)) (ScriptApi.objectCall x .length) := by
  refine callOn_refines_typed h fun hvalid => ?_
  refine (seqLength_refines hvalid).bind_left ?_
  rintro _ _ ⟨n, rfl, rfl⟩
  exact int_refines n

theorem objectReadString_refines (h : Represents o x) (count : Option CInt) :
    CallRefines x (callOn o (typedObjectReadString o (.ok count)))
      (ScriptApi.objectCall x (.readString count)) := by
  refine callOn_refines_typed h fun hvalid => checked_refines (valid_refines hvalid ?_)
  exact pyReadString_refines o.typedData.offset count

theorem objectReadWideString_refines (h : Represents o x) (count : Option CInt) :
    CallRefines x (callOn o (typedObjectReadWideString o (.ok count)))
      (ScriptApi.objectCall x (.readWideString count)) := by
  refine callOn_refines_typed h fun hvalid => checked_refines (valid_refines hvalid ?_)
  exact pyReadWideString_refines o.typedData.offset count

theorem objectReadBytes_refines (h : Represents o x) (count : ULONG) :
    CallRefines x (callOn o (typedObjectReadBytes o (.ok count)))
      (ScriptApi.objectCall x (.readBytes count)) := by
  rw [ScriptApi.objectCall, ← h.address]
  exact callOn_refines h (parsed_refines (pyReadBytes_refines o.typedData.offset count))

theorem getRuntimeObj_refines (h : Represents o x) :
    CallRefines x (callOn o (typedObjectGetRuntimeObj o))
      (ScriptApi.objectCall x .runtimeObject) := by
  refine callOn_refines_typed h fun _ => checked_refines ?_
  refine pyRefines_settle (settles_newObject _) ?_
  rw [← h.name]
  refine pyRefines_runtimeObject ?_ (fun _ _ hf => if_neg hf) fun _ _ hx => .entity (.object hx)
  intro o hr hf
  simp only [hf, if_true]
  exact pyRefines_raise _ _ _

/-- What the getter does once the checks have been made. -/
def valueAfter (o : DbgScriptTypedObject) : Option Unit × Option PyErr → Dialogue PyAnswer Outcome
  | (none, flag) => .done (o, none, flag)
  | (some (), flag) => (readTypedData o).inl >>= fun r =>
    if FAILED r.2 then
      .done (r.1, none, some ⟨.RuntimeError, "Failed to read typed data. Error 0x%08x.", [.hr r.2]⟩)
    else (pyValueFromCValue r.1).attempt flag >>= fun v => .done (r.1, v)

theorem typedObjectGetValue_eq (hvalid : o.typedDataValid = true) :
    typedObjectGetValue o none = checkAbort.attempt none >>= fun r =>
      Flagged.andThen (fun _ => if !dsTypedObjectIsPrimitive o then
        raise .ValueError "Not a primitive type." [] else pure ()) r >>= valueAfter o := by
  rw [typedObjectGetValue]
  simp only [checkTypedData_of_valid hvalid]
  exact Dialogue.bind_assoc _ _ _

theorem callRefines_readTypedData (h : Represents o x)
    {k : DbgScriptTypedObject × HRESULT → Dialogue PyAnswer Called}
    {l : List UInt8 → ApiM (Reply Datum)}
    (hfail : ∀ hr, FAILED hr = true → ∃ flag, k (o, hr) = .done (o, none, flag))
    (hok : ∀ hr bytes, FAILED hr = false → CallRefines x (k (o.withValue bytes, hr)) (l bytes)) :
    CallRefines x ((readTypedData o).inl >>= k)
      (query (ask (.readTypedData o.typedData.offset o.typedData.modBase o.typedData.typeId))
        >>= l) := by
  refine .ask _ rfl ?_
  rintro ⟨hr, bytes⟩
  by_cases hf : FAILED hr = true
  · obtain ⟨flag, hflag⟩ := hfail hr hf
    simp only [Dialogue.bind, Throws.andThen, hf, if_true]
    show Covers _ _ _ (k (o, hr)) _
    rw [hflag]
    exact .done ⟨h, .null flag⟩
  · simp only [Dialogue.bind, Throws.andThen, hf]
    exact hok hr bytes (by simpa using hf)

/-- The value that has been read, as the interpreter returns it. -/
theorem value_refines (h : Represents o x) (bytes : List UInt8) :
    CallRefines x ((pyValueFromCValue (o.withValue bytes)).attempt none >>= fun v =>
      .done (o.withValue bytes, checkResult v)) (valueOf o.typedData bytes) := by
  refine Covers.bind_left (pyValueFromCValue_refines o bytes) ?_
  rintro _ _ (flag | hab)
  · exact .done ⟨h.withValue bytes, .null flag⟩
  · exact .done ⟨h.withValue bytes, .value hab⟩

theorem getValue_refines (h : Represents o x) :
    CallRefines x (objectCall o .value) (ScriptApi.objectCall x .value) := by
  refine callRefines_typed h fun hvalid => ?_
  show Covers _ _ _ (typedObjectGetValue o none >>= fun r => .done (r.1, checkResult r.2)) _
  rw [typedObjectGetValue_eq hvalid, Dialogue.bind_assoc]
  refine Covers.settle settles_pyCheckAbort ?_
  rw [isPrimitive_eq]
  by_cases hprim : isPrimitive o.typedData = true
  · rw [if_pos hprim, hprim]
    show CallRefines x (((readTypedData o).inl >>= _) >>= _) _
    rw [Dialogue.bind_assoc]
    refine callRefines_readTypedData h ?_ ?_
    · intro hr hf
      simp only [hf, if_true]
      exact ⟨_, rfl⟩
    · intro hr bytes hf
      simp only [hf]
      show CallRefines x ((_ >>= _) >>= _) _
      rw [Dialogue.bind_assoc]
      exact value_refines h bytes
  · rw [if_neg hprim]
    simp only [hprim]
    exact .done ⟨h, .null _⟩

theorem objectCall_refines (h : Represents o x) (c : ObjectCall) :
    CallRefines x (objectCall o c) (ScriptApi.objectCall x c) := by
  cases c with
  | name =>
    rw [ScriptApi.objectCall, ← h.name]
    exact callOn_refines h (str_refines _)
  | type =>
    rw [ScriptApi.objectCall, ← h.typeName]
    exact callOn_refines h (str_refines _)
  | module =>
    rw [ScriptApi.objectCall, ← h.moduleName]
    exact callOn_refines h (str_refines _)
  | size =>
    rw [ScriptApi.objectCall, ← h.size]
    exact callOn_refines h (int_refines _)
  | address =>
    rw [ScriptApi.objectCall, ← h.address]
    exact callOn_refines h (int_refines _)
  | value => exact getValue_refines h
  | deref => exact deref_refines h
  | field name => exact field_refines h name
  | element index => exact element_refines h index
  | length => exact len_refines h
  | readString count => exact objectReadString_refines h count
  | readWideString count => exact objectReadWideString_refines h count
  | readBytes count => exact objectReadBytes_refines h count
  | runtimeObject => exact getRuntimeObj_refines h

end TypedObject

/-! ## Threads and frames -/

theorem threadGetTeb_refines (thd : DbgScriptThread) :
    PyRefines Shows (threadGetTeb thd) (ScriptApi.threadCall thd .teb) := by
  refine checked_refines (query_refines ⟨rfl, fun _ => trivial⟩ (fun _ _ hf => ⟨_, if_pos hf⟩) ?_)
  intro hr teb hf
  simp only [hf]
  exact int_refines teb

theorem threadGetCurrentFrame_refines (thd : DbgScriptThread) :
    PyRefines Shows (threadGetCurrentFrame thd) (ScriptApi.threadCall thd .currentFrame) := by
  refine checked_refines (query_refines ⟨rfl, fun _ => trivial⟩ (fun _ _ hf => ⟨_, if_pos hf⟩) ?_)
  intro hr frame hf
  simp only [hf]
  exact newObject_refines (.entity (.frame frame thd))

theorem threadGetStack_refines (thd : DbgScriptThread) :
    PyRefines Shows (threadGetStack thd) (ScriptApi.threadCall thd .stack) := by
  refine checked_refines (query_refines ⟨rfl, fun _ => trivial⟩ (fun _ _ hf => ⟨_, if_pos hf⟩) ?_)
  intro hr frames hf
  simp only [hf]
  have hstack : (List.range (min frames.length maxFrames)).map
      (fun i => PyObj.stackFrame (frames.getD i default) thd) =
        (frames.take maxFrames).map fun frame => .stackFrame frame thd := by
    rw [← range_map_getD, List.map_map]
    rfl
  refine tuple_refines ?_
  rw [Shows, hstack, reply_tuple fun _ => rfl]
  exact promised_frames (frames.take maxFrames) thd

theorem threadCall_refines (thd : DbgScriptThread) (c : ThreadCall) :
    PyRefines Promised (threadCall thd c) (ScriptApi.threadCall thd c) := by
  cases c with
  | engineId => exact call_refines (int_refines thd.engineId)
  | threadId => exact call_refines (int_refines thd.threadId)
  | teb => exact call_refines (threadGetTeb_refines thd)
  | currentFrame => exact call_refines (threadGetCurrentFrame_refines thd)
  | stack => exact call_refines (threadGetStack_refines thd)

/-- The objects of the variables so far. -/
def Stored (_ : ℕ) (tuple : Tuple) (xs : List Datum) : Prop :=
  ∃ objs, tuple = some (objs.map .typedObject) ∧ List.Forall₂ Represents objs xs

/-- The object of a variable, or nothing is promised. -/
theorem covers_allocTypedObject (size : ULONG) (name : Option AnsiStr) (typeId : ULONG)
    (moduleBase address : UINT64) (wantPointer : Bool) :
    Covers quiet Unspecified
      (fun r b => ∃ o x, r = (some (.typedObject o), none) ∧ b = .ok x ∧ Represents o x)
      ((allocTypedObject size name typeId moduleBase address wantPointer).attempt none)
      (orElse .unspecified
        (initObject size name typeId moduleBase address wantPointer)).attempt.inl := by
  have horElse : ((orElse .unspecified (initObject size name typeId moduleBase address
      wantPointer)).attempt.inl : Dialogue PyAnswer _) =
        (initObject size name typeId moduleBase address wantPointer).attempt.inl >>= fun r =>
          (orElse .unspecified (.done r)).attempt.inl := Dialogue.inl_bind _ _
  rw [allocTypedObject, Flagged.attempt_bind, horElse]
  refine Covers.settle (settles_newObject _) ?_
  show Covers _ _ _ ((ds _ >>= _).attempt none) _
  rw [attempt_ds_bind]
  refine (covers_made (made_dsInitializeTypedObject size name typeId moduleBase address wantPointer
    .zero) (visible_initObject _ _ _ _ _ _)).bind (fun _ h => h.elim) ?_
  intro _ _ hr
  cases hr with
  | failed o h => exact .free rfl
  | @made o hr x hf h =>
    simp only [hf]
    exact .done ⟨o, x, rfl, rfl, h⟩

theorem buildTupleFromLocals_refines (i : ℕ) (tuple : Tuple) (xs : List Datum)
    (entry : DebugSymbolEntry) (symName : FixedStr CHAR MAX_SYMBOL_NAME_LEN)
    (h : Stored i tuple xs) :
    PyRefines (Appended Stored i) (buildTupleFromLocals tuple entry symName i)
      (appendVariable xs entry symName) := by
  obtain ⟨objs, rfl, hobjs⟩ := h
  rw [PyRefines, buildTupleFromLocals, appendVariable, Flagged.attempt_bind, Flagged.attempt_orNull,
    Dialogue.bind_assoc, Throws.attempt_bind, Dialogue.inl_bind]
  refine (covers_allocTypedObject _ _ _ _ _ _).bind (fun _ => free_andThen) ?_
  rintro _ _ ⟨o, x, rfl, rfl, hx⟩
  have hset := settles_setItem (objs.map .typedObject) (.typedObject o)
  have hstored : Stored (i + 1) (some (objs.map .typedObject ++ [.typedObject o])) (xs ++ [x]) :=
    ⟨objs ++ [o], by simp, List.rel_append hobjs (.cons hx .nil)⟩
  exact Covers.of_settles hset (.value ⟨rfl, hstored⟩)

theorem getVariablesHelper_refines (frame : DbgScriptStackFrame) (thd : DbgScriptThread)
    (flags : ULONG) :
    PyRefines Shows (getVariablesHelper frame thd flags) (frameVariables frame thd flags) := by
  refine checked_refines (query_refines ⟨rfl, fun _ => trivial⟩ (fun _ _ hf => ⟨_, if_pos hf⟩) ?_)
  intro hr numSym hf
  simp only [hf]
  by_cases hlen : maxLength < numSym.toNat
  · rw [if_pos hlen]
    exact pyRefines_unspecified _
  · rw [if_neg hlen]
    refine pyRefines_settle settles_newTuple ?_
    refine (pyRefines_variables buildTupleFromLocals_refines numSym ⟨[], rfl, .nil⟩).bind ?_
    intro _ _ hr
    cases hr with
    | failed acc h =>
      simp only [h, if_true]
      exact pyRefines_raise _ _ _
    | all h hstored =>
      obtain ⟨objs, rfl, hobjs⟩ := hstored
      simp only [h, returnTuple]
      refine pyRefines_pure ?_
      rw [Shows, reply_tuple fun _ => rfl]
      exact promised_objects hobjs

theorem frameCall_refines (frame : DbgScriptStackFrame) (thd : DbgScriptThread) (c : FrameCall) :
    PyRefines Promised (frameCall frame thd c) (ScriptApi.frameCall frame thd c) := by
  cases c with
  | frameNumber => exact call_refines (int_refines frame.frameNumber)
  | instructionOffset => exact call_refines (int_refines frame.instructionOffset)
  | locals => exact call_refines (getVariablesHelper_refines frame thd _)
  | args => exact call_refines (getVariablesHelper_refines frame thd _)

end DbgScript.Python
