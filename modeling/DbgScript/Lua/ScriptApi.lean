import DbgScript.Lua.Functions
import DbgScript.Providers.ApiObjects

/-!
# The scripting interface in Lua

* `moduleCall_refines`, `objectCall_refines`, `threadCall_refines`, `frameCall_refines`: the
  Lua functions do what the interface promises, whatever memory their new objects get.
-/

namespace DbgScript.Lua

open ScriptApi
open CharBuf (CStr Buf FixedStr)
open Dialogue (Covers Rel Settles)
open Python (PyAnswer)

/-! ## Calls and replies -/

/-- A result as a reply. -/
def reply : LuaResult → Reply DbgScriptTypedObject
  | .value (.boolean b) => .boolean b
  | .value (.integer i) => .integer i
  | .value (.single bits) => .single bits
  | .value (.double bits) => .double bits
  | .value (.string s) => .text s
  | .value (.metafield _) => .other
  | .userdata o => .entity (.object o)

/-- The functions of the module; a new object is made on the block `mem`. -/
def moduleCall (mem : DbgScriptTypedObject) : ModuleCall → LuaM (Reply DbgScriptTypedObject)
  | .readPtr addr => do return reply (← readPtr addr)
  | .readBytes addr count => do return reply (← readBytes addr (count.setWidth 64))
  | .readString addr count => do
    return reply (← readString addr (count.map fun n => n.signExtend 64))
  | .readWideString addr count => do
    return reply (← readWideString addr (count.map fun n => n.signExtend 64))
  | .fieldOffset type field => do return reply (← fieldOffset type field)
  | .getTypeSize type => do return reply (← getTypeSize type)
  | .getNearestSym addr => do return reply (← getNearestSym addr)
  | .searchMemory start size pattern patGran => do
    return reply (← searchMemory start size pattern (patGran.setWidth 64))
  | .resolveEnum type value => do return reply (← resolveEnum type value)
  | .getGlobal symbol => do return .entity (.object (← dbgscriptGetGlobal mem symbol))
  | .createTypedObject type addr => do
    return .entity (.object (← dbgscriptCreateTypedObject mem type addr))
  | .createTypedPointer type addr => do
    return .entity (.object (← dbgscriptCreateTypedPointer mem type addr))
  | .getPeb => do return reply (← getPeb)
  | .currentThread => do return .entity (.thread (← currentThread))
  | .getThreads => do return .entities ((← getThreads).map .thread)
  | .startBuffering => do
    startBuffering
    return .nothing
  | .stopBuffering => do
    stopBuffering
    return .nothing
  | .executeCommand command => do
    execCommand command
    return .nothing

/-- A method is looked up by `TypedObject_index` before it is called. -/
def callMethod (mem typObj : DbgScriptTypedObject) (name : List CHAR) (f : LuaM LuaResult) :
    DsM Outcome := do
  let (typObj, r) ← typedObjectIndex mem typObj (.string name)
  match r with
  | .error err => return (typObj, .error err)
  | .ok _ => reading typObj f

/-- The element `obj[i]`, the properties and the methods of a typed object. A field is got
    by `obj:f(name)`. -/
def objectCall (mem typObj : DbgScriptTypedObject) : ObjectCall → DsM Outcome
  | .name => typedObjectIndex mem typObj (.string (ansi "name"))
  | .type => typedObjectIndex mem typObj (.string (ansi "type"))
  | .module => typedObjectIndex mem typObj (.string (ansi "module"))
  | .size => typedObjectIndex mem typObj (.string (ansi "size"))
  | .address => typedObjectIndex mem typObj (.string (ansi "address"))
  | .value => typedObjectIndex mem typObj (.string (ansi "value"))
  | .deref => typedObjectIndex mem typObj (.string (ansi "deref"))
  | .field name =>
    callMethod mem typObj (ansi "f") (typedObjectGetfield mem typObj (.string name.chars))
  | .element index => typedObjectIndex mem typObj (.integer (BitVec.ofNat 64 index))
  | .length => reading typObj (typedObjectLen typObj)
  | .readString count =>
    callMethod mem typObj (ansi "readString")
      (typedObjectReadString typObj (count.map fun n => n.signExtend 64))
  | .readWideString count =>
    callMethod mem typObj (ansi "readWideString")
      (typedObjectReadWideString typObj (count.map fun n => n.signExtend 64))
  | .readBytes count =>
    callMethod mem typObj (ansi "readBytes") (typedObjectReadBytes typObj (count.setWidth 64))
  | .runtimeObject =>
    callMethod mem typObj (ansi "getRuntimeObject") (typedObjectGetRuntimeObject mem typObj)

def frameEntity (frame : StackFrameObject) : Entity DbgScriptTypedObject :=
  .frame frame.frame frame.thread

def threadCall (thd : DbgScriptThread) : ThreadCall → LuaM (Reply DbgScriptTypedObject)
  | .engineId => do return reply (← threadGetEngineId thd)
  | .threadId => do return reply (← threadGetThreadId thd)
  | .teb => do return reply (← threadGetTeb thd)
  | .currentFrame => do return .entity (frameEntity (← threadCurrentFrame thd))
  | .stack => do return .entities ((← threadGetStack thd).map frameEntity)

/-- The objects of the variables are made on the blocks `mem`. -/
def frameCall (mem : ℕ → DbgScriptTypedObject) (frame : DbgScriptStackFrame)
    (thd : DbgScriptThread) : FrameCall → LuaM (Reply DbgScriptTypedObject)
  | .frameNumber => do return reply (← stackFrameFrameNumber ⟨frame, thd⟩)
  | .instructionOffset => do return reply (← stackFrameInstructionOffset ⟨frame, thd⟩)
  | .locals => do return .entities ((← stackFrameGetLocals mem ⟨frame, thd⟩).map .object)
  | .args => do return .entities ((← stackFrameGetArgs mem ⟨frame, thd⟩).map .object)

/-! ## The module -/

/-- The result is the reply that the interface promises. -/
def Shows (r : LuaResult) (b : Reply Datum) : Prop := Promised (reply r) b

theorem readPtr_refines (addr : UINT64) :
    Refines Shows (readPtr addr) (ScriptApi.moduleCall (.readPtr addr)) :=
  refines_checked_query settles_luaCheckAbort ⟨rfl, fun _ => trivial⟩
    (fun _ _ h => ⟨_, if_pos h⟩) (fun _ _ h => if_neg h) fun a => refines_integer64 (.integer a)

theorem getPeb_refines : Refines Shows getPeb (ScriptApi.moduleCall .getPeb) :=
  refines_checked_query settles_luaCheckAbort ⟨rfl, fun _ => trivial⟩
    (fun _ _ h => ⟨_, if_pos h⟩) (fun _ _ h => if_neg h) fun a => refines_integer64 (.integer a)

theorem fieldOffset_refines (type field : AnsiStr) :
    Refines Shows (fieldOffset type field) (ScriptApi.moduleCall (.fieldOffset type field)) :=
  refines_checked_query settles_luaCheckAbort (visible_queryType fun _ => ⟨rfl, fun _ => trivial⟩)
    (fun _ _ h => ⟨_, if_pos h⟩) (fun _ _ h => if_neg h) fun _ => refines_integer (.integer _)

theorem getTypeSize_refines (type : AnsiStr) :
    Refines Shows (getTypeSize type) (ScriptApi.moduleCall (.getTypeSize type)) :=
  refines_checked_query settles_luaCheckAbort (visible_queryType fun _ => ⟨rfl, fun _ => trivial⟩)
    (fun _ _ h => ⟨_, if_pos h⟩) (fun _ _ h => if_neg h) fun _ => refines_integer (.integer _)

theorem getNearestSym_refines (addr : UINT64) :
    Refines Shows (getNearestSym addr) (ScriptApi.moduleCall (.getNearestSym addr)) :=
  refines_checked_query settles_luaCheckAbort (visible_utilGetNearestSymbol addr)
    (fun _ _ h => ⟨_, if_pos h⟩) (fun _ _ h => if_neg h) fun _ => refines_text (.text _)

theorem luaReadBytes_refines (addr : UINT64) (count : ULONG) :
    Refines (fun v b => Shows (.value v) b) (luaReadBytes addr count) (bytesAt addr count) := by
  refine refines_query ⟨rfl, fun _ => trivial⟩ ?_ ?_
  · intro hr bytes hf
    simp only [hf, if_true]
    exact refines_throw _
  · intro hr bytes hf
    simp only [hf]
    exact refines_pure (.text _)

theorem readBytes_refines (addr : UINT64) (count : ULONG) :
    Refines Shows (readBytes addr (count.setWidth 64)) (bytesAt addr count) := by
  have hcount : (count.setWidth 64).setWidth 32 = count := by simp
  refine refines_settle settles_luaCheckAbort ?_
  rw [hcount]
  exact (luaReadBytes_refines addr count).map fun _ _ h => h

theorem optCount_signExtend (count : Option CInt) :
    optCount (count.map fun n => n.signExtend 64) = count.getD (-1) := by
  cases count with
  | none => rfl
  | some n =>
    show (n.signExtend 64).setWidth 32 = n
    apply BitVec.eq_of_getLsbD_eq
    intro i hi
    simp [BitVec.getLsbD_signExtend, hi]
    omega

theorem luaReadString_refines (addr : UINT64) (count : Option CInt) :
    Refines (fun v b => Shows (.value v) b) (luaReadString addr (count.getD (-1)))
      (stringAt addr count) := by
  rw [luaReadString, stringAt]
  split_ifs with hbad
  · exact refines_throw _
  · refine refines_query ⟨rfl, fun _ => trivial⟩ ?_ ?_
    · intro hr buf hf
      simp only [hf, if_true]
      exact refines_throw _
    · intro hr buf hf
      simp only [hf]
      exact refines_text (.text _)

theorem readString_refines (addr : UINT64) (count : Option CInt) :
    Refines Shows (readString addr (count.map fun n => n.signExtend 64)) (stringAt addr count) := by
  refine refines_settle settles_luaCheckAbort ?_
  rw [optCount_signExtend]
  exact (luaReadString_refines addr count).map fun _ _ h => h

theorem luaReadWideString_refines (addr : UINT64) (count : Option CInt) :
    Refines (fun v b => Shows (.value v) b) (luaReadWideString addr (count.getD (-1)))
      (wideStringAt addr count) := by
  rw [luaReadWideString, wideStringAt]
  split_ifs with hbad
  · exact refines_throw _
  · refine refines_query (visible_utilReadWideString _ _) ?_ ?_
    · intro hr buf hf
      simp only [hf, if_true]
      exact refines_throw _
    · intro hr buf hf
      exact refines_unspecified _

theorem readWideString_refines (addr : UINT64) (count : Option CInt) :
    Refines Shows (readWideString addr (count.map fun n => n.signExtend 64))
      (wideStringAt addr count) := by
  refine refines_settle settles_luaCheckAbort ?_
  rw [optCount_signExtend]
  exact (luaReadWideString_refines addr count).map fun _ _ h => h

theorem searchMemory_refines (start size : UINT64) (pattern : List UInt8) (patGran : ULONG) :
    Refines Shows (searchMemory start size pattern (patGran.setWidth 64))
      (ScriptApi.moduleCall (.searchMemory start size pattern patGran)) := by
  rw [ScriptApi.moduleCall]
  split_ifs with hlen
  · exact refines_unspecified _
  · have hgran : (patGran.setWidth 64).setWidth 32 = patGran := by simp
    have hpattern : pattern.take (BitVec.ofNat 32 pattern.length).toNat = pattern := by
      rw [BitVec.toNat_ofNat, Nat.mod_eq_of_lt (by omega), List.take_length]
    refine refines_settle settles_luaCheckAbort ?_
    show Refines Shows (Throws.lift (ask (.searchVirtual start size
      (pattern.take (BitVec.ofNat 32 pattern.length).toNat)
      ((patGran.setWidth 64).setWidth 32))) >>= _) _
    rw [hgran, hpattern]
    refine refines_query ⟨rfl, fun _ => trivial⟩ ?_ ?_
    · intro hr addr hf
      simp only [hf, if_true]
      split_ifs
      · exact refines_throw _
      · exact refines_throw _
      · exact refines_throw _
    · intro hr addr hf
      simp only [hf]
      exact refines_integer64 (.integer _)

theorem resolveEnum_refines (type : AnsiStr) (value : UINT64) :
    Refines Shows (resolveEnum type value) (ScriptApi.moduleCall (.resolveEnum type value)) := by
  refine refines_settle settles_luaCheckAbort (refines_symbolType (refines_throw _) ?_)
  intro typeInfo
  refine refines_query ⟨rfl, fun _ => trivial⟩ ?_ ?_
  · intro hr name hf
    simp only [hf, if_true]
    exact refines_throw _
  · intro hr name hf
    simp only [hf]
    exact refines_text (.text _)

/-! ## New objects -/

theorem allocNewTypedObject_refines (mem : DbgScriptTypedObject) (e : ApiError) (size : ULONG)
    (name : Option AnsiStr) (typeId : ULONG) (moduleBase address : UINT64) (wantPointer : Bool) :
    Refines Represents (allocNewTypedObject mem size name typeId moduleBase address wantPointer)
      (orElse e (initObject size name typeId moduleBase address wantPointer)) := by
  refine refines_settle settles_luaCheckAbort ?_
  exact refines_made e (made_dsInitializeTypedObject _ _ _ _ _ _ _) (visible_initObject _ _ _ _ _ _)
    (fun _ _ h => ⟨_, if_pos h⟩) (fun _ _ h => if_neg h) fun _ _ h => h

theorem allocSubTypedObject_refines (mem : DbgScriptTypedObject) (name : AnsiStr)
    (data : DebugTypedData) :
    Refines Represents (allocSubTypedObject mem name data) (orElse .raised (wrap name data)) := by
  refine refines_settle settles_luaCheckAbort ?_
  exact refines_made .raised (made_dsWrapTypedData _ _ _) (visible_wrap _ _)
    (fun _ _ h => ⟨_, if_pos h⟩) (fun _ _ h => if_neg h) fun _ _ h => h

/-- The new object as a reply. -/
def ShowsObject (o : DbgScriptTypedObject) (b : Reply Datum) : Prop :=
  Promised (.entity (.object o)) b

theorem createTypedObjectHelper_refines (mem : DbgScriptTypedObject) (type : AnsiStr)
    (addr : UINT64) (wantPointer : Bool) :
    Refines ShowsObject (createTypedObjectHelper mem type addr wantPointer)
      (create type addr wantPointer) := by
  refine refines_settle settles_luaCheckAbort (refines_symbolType (refines_throw _) ?_)
  intro typeInfo
  refine (allocNewTypedObject_refines mem .raised _ _ _ _ _ _).bind_right ?_
  intro o x h
  exact refines_pure (.entity (.object h))

theorem getGlobal_refines (mem : DbgScriptTypedObject) (symbol : AnsiStr) :
    Refines ShowsObject (dbgscriptGetGlobal mem symbol)
      (ScriptApi.moduleCall (.getGlobal symbol)) := by
  refine refines_settle settles_luaCheckAbort (refines_query ⟨rfl, fun _ => trivial⟩ ?_ ?_)
  · intro hr addr hf
    simp only [hf, if_true]
    exact refines_throw _
  · intro hr addr hf
    simp only [hf]
    refine refines_symbolType (refines_throw _) ?_
    intro typeInfo
    refine (allocNewTypedObject_refines mem .raised _ _ _ _ _ _).bind_right ?_
    intro o x h
    exact refines_pure (.entity (.object h))

/-! ## Threads -/

theorem currentThread_refines :
    Refines (fun thd b => Promised (.entity (.thread thd)) b) currentThread
      (ScriptApi.moduleCall .currentThread) := by
  refine refines_settle settles_luaCheckAbort (refines_query ⟨rfl, fun _ => trivial⟩ ?_ ?_)
  · intro hr engineId hf
    simp only [hf, if_true]
    exact refines_throw _
  · intro hr engineId hf
    simp only [hf]
    refine refines_query ⟨rfl, fun _ => trivial⟩ ?_ ?_
    · intro hr threadId hf
      simp only [hf, if_true]
      exact refines_throw _
    · intro hr threadId hf
      simp only [hf]
      exact refines_pure (.entity (.thread _))

theorem getThreads_refines :
    Refines (fun thds b => Promised (.entities (thds.map .thread)) b) getThreads
      (ScriptApi.moduleCall .getThreads) := by
  refine refines_settle settles_luaCheckAbort (refines_query visible_utilCountThreads ?_ ?_)
  · intro hr cThreads hf
    simp only [hf, if_true]
    exact refines_throw _
  · intro hr cThreads hf
    simp only [hf]
    refine refines_query (visible_utilEnumThreads cThreads) ?_ ?_
    · intro hr ids hf
      simp only [hf, if_true]
      exact refines_throw _
    · intro hr ids hf
      simp only [hf]
      by_cases hlen : maxLength < cThreads.toNat
      · rw [if_pos hlen]
        exact refines_unspecified _
      · rw [if_neg hlen]
        exact refines_pure (promised_threads (threadsOf cThreads ids))

/-! ## Output -/

/-- Nothing is returned. -/
def ShowsNothing (_ : Unit) (b : Reply Datum) : Prop := b = .nothing

theorem startBuffering_refines :
    Refines ShowsNothing startBuffering (ScriptApi.moduleCall .startBuffering) :=
  refines_lift_right ⟨rfl, fun _ => trivial⟩ fun _ => refines_pure rfl

theorem stopBuffering_refines :
    Refines ShowsNothing stopBuffering (ScriptApi.moduleCall .stopBuffering) := by
  refine refines_lift_bind ⟨rfl, fun _ => trivial⟩ ?_
  intro newVal
  split_ifs
  · exact refines_lift_bind ⟨rfl, fun _ => trivial⟩ fun _ => refines_throw _
  · exact refines_lift_right ⟨rfl, fun _ => trivial⟩ fun _ => refines_pure rfl
  · exact refines_pure rfl

theorem execCommand_refines (command : AnsiStr) :
    Refines ShowsNothing (execCommand command)
      (ScriptApi.moduleCall (.executeCommand command)) := by
  refine refines_settle settles_luaCheckAbort (refines_lift_bind ⟨rfl, fun _ => trivial⟩ ?_)
  intro hr
  split_ifs
  · exact refines_throw _
  · exact refines_pure rfl

theorem moduleCall_refines (mem : DbgScriptTypedObject) (c : ModuleCall) :
    Refines Promised (moduleCall mem c) (ScriptApi.moduleCall c) := by
  cases c with
  | readPtr addr => exact (readPtr_refines addr).map fun _ _ h => h
  | readBytes addr count => exact (readBytes_refines addr count).map fun _ _ h => h
  | readString addr count => exact (readString_refines addr count).map fun _ _ h => h
  | readWideString addr count => exact (readWideString_refines addr count).map fun _ _ h => h
  | fieldOffset type field => exact (fieldOffset_refines type field).map fun _ _ h => h
  | getTypeSize type => exact (getTypeSize_refines type).map fun _ _ h => h
  | getNearestSym addr => exact (getNearestSym_refines addr).map fun _ _ h => h
  | searchMemory start size pattern patGran =>
    exact (searchMemory_refines start size pattern patGran).map fun _ _ h => h
  | resolveEnum type value => exact (resolveEnum_refines type value).map fun _ _ h => h
  | getGlobal symbol => exact (getGlobal_refines mem symbol).map fun _ _ h => h
  | createTypedObject type addr =>
    exact (createTypedObjectHelper_refines mem type addr false).map fun _ _ h => h
  | createTypedPointer type addr =>
    exact (createTypedObjectHelper_refines mem type addr true).map fun _ _ h => h
  | getPeb => exact getPeb_refines.map fun _ _ h => h
  | currentThread => exact currentThread_refines.map fun _ _ h => h
  | getThreads => exact getThreads_refines.map fun _ _ h => h
  | startBuffering => exact startBuffering_refines.map fun _ _ h => h ▸ .nothing
  | stopBuffering => exact stopBuffering_refines.map fun _ _ h => h ▸ .nothing
  | executeCommand command => exact (execCommand_refines command).map fun _ _ h => h ▸ .nothing

/-! ## Values -/

theorem luaValueFromCValue_refines (o : DbgScriptTypedObject) (bytes : List UInt8) :
    Refines (fun v b => Shows (.value v) b)
      (Dialogue.done (luaValueFromCValue (o.withValue bytes)) : LuaM LuaValue)
      (valueOf o.typedData bytes) := by
  have htd : (o.withValue bytes).typedData = o.typedData := rfl
  have hbyte : ∀ v : TypedObjectValue, v.byteVal.setWidth 64 = BitVec.ofNat 64 (v.low 1) := by
    intro v
    rw [← BitVec.ofNat_toNat, v.toNat_byteVal]
  have hword : ∀ v : TypedObjectValue, v.wordVal.setWidth 64 = BitVec.ofNat 64 (v.low 2) := by
    intro v
    rw [← BitVec.ofNat_toNat, v.toNat_wordVal]
  have hdw : ∀ v : TypedObjectValue, v.dwVal.setWidth 64 = BitVec.ofNat 64 (v.low 4) := by
    intro v
    rw [← BitVec.ofNat_toNat, v.toNat_dwVal]
  rw [luaValueFromCValue, valueOf, htd]
  simp only [hbyte, hword, hdw]
  cases o.typedData.tag with
  | PointerType => exact refines_low o bytes 8 (refines_pure (.integer _))
  | Enum => exact refines_low o bytes 4 (refines_pure (.integer _))
  | ArrayType | BaseType | other tag =>
    cases o.typedData.baseTypeId with
    | CHAR => exact refines_low o bytes 1 (refines_text (.text _))
    | INT8 | UINT8 => exact refines_low o bytes 1 (refines_pure (.integer _))
    | INT16 | UINT16 => exact refines_low o bytes 2 (refines_pure (.integer _))
    | WCHAR => exact refines_unspecified _
    | INT32 | LONG32 =>
      refine refines_low o bytes 4 ?_
      split_ifs
      · exact refines_pure (.integer _)
      · exact refines_unspecified _
    | UINT32 | ULONG32 => exact refines_low o bytes 4 (refines_pure (.integer _))
    | INT64 | UINT64 => exact refines_low o bytes 8 (refines_pure (.integer _))
    | BOOL => exact refines_low o bytes 1 (refines_pure (.boolean _))
    | FLOAT32 => exact refines_low o bytes 4 (refines_pure (.single _))
    | FLOAT64 => exact refines_low o bytes 8 (refines_pure (.double _))
    | other id => exact refines_throw _

/-! ## Typed objects -/

section TypedObject

variable {o : DbgScriptTypedObject} {x : Datum}

/-- What the getter does once the checks have been made. -/
def valueAfter (o : DbgScriptTypedObject) : Except LuaError Unit → DsM Outcome
  | .error err => .done (o, .error err)
  | .ok () => readTypedData o >>= fun r =>
    if FAILED r.2 then
      .done (r.1, .error (.error "Failed to read typed data. Error 0x%08x." [.hr r.2]))
    else .done (r.1, (luaValueFromCValue r.1).map LuaResult.value)

theorem typedObjectGetvalue_eq (hvalid : o.typedDataValid = true) :
    typedObjectGetvalue o = checkAbort.attempt >>= fun r =>
      (Throws.andThen (fun _ =>
        if !dsTypedObjectIsPrimitive o then raise "not a primitive type." [] else pure ()) r) >>=
        valueAfter o := by
  rw [typedObjectGetvalue]
  simp only [checkTypedData, hvalid]
  exact Dialogue.bind_assoc _ _ _

theorem getvalue_refines (h : Represents o x) :
    RefinesOn Shows x (typedObjectGetvalue o) (ScriptApi.objectCall x .value) := by
  refine refinesOn_typed h fun hvalid => ?_
  rw [typedObjectGetvalue_eq hvalid]
  refine refinesOn_settle settles_luaCheckAbort ?_
  rw [Throws.andThen_ok, isPrimitive_eq]
  by_cases hprim : isPrimitive o.typedData = true
  · rw [if_pos hprim, hprim]
    refine refinesOn_readTypedData h (fun hr hf => ⟨_, if_pos hf⟩) ?_
    intro hr bytes hf
    have hvalue := refinesOn_reading (h.withValue bytes)
      ((luaValueFromCValue_refines o bytes).map fun _ _ hv => hv)
    simp only [hf]
    cases hconv : luaValueFromCValue (o.withValue bytes) with
    | error err =>
      rw [hconv] at hvalue
      exact hvalue
    | ok v =>
      rw [hconv] at hvalue
      exact hvalue
  · rw [if_neg hprim]
    simp only [hprim]
    exact .done ⟨h, .error _⟩

variable {g : ApiM (Reply Datum)}

/-- A key that names a property is neither a method nor a field. -/
theorem index_property (mem : DbgScriptTypedObject) {key : List CHAR} {get : DsM Outcome}
    (hmeta : key ∉ metatable) (hget : property? mem o key = some get)
    (h : RefinesOn Shows x get g) :
    RefinesOn Shows x (typedObjectIndex mem o (.string key)) g := by
  refine refinesOn_settle settles_utilCheckAbort ?_
  simp only [hmeta, hget]
  exact h

variable {mem : DbgScriptTypedObject}

/-- A method is found, and then called. -/
theorem method_refines {name : List CHAR} (hmeta : name ∈ metatable) {f : LuaM LuaResult}
    (h : RefinesOn Shows x (reading o f) g) : RefinesOn Shows x (callMethod mem o name f) g := by
  rw [callMethod, typedObjectIndex, Dialogue.bind_assoc]
  refine refinesOn_settle settles_utilCheckAbort ?_
  simp only [hmeta]
  exact h

theorem checkTypedData_of_valid (hvalid : o.typedDataValid = true) :
    checkTypedData o = pure () := by
  simp [checkTypedData, hvalid]

theorem getter_text {s : List CHAR} : Refines Shows (getter (.string s)) (text s) :=
  refines_settle settles_luaCheckAbort (refines_text (.text s))

theorem getElement_refines (index : UINT64) (name : AnsiStr) :
    Refines Shows (getElement mem o index name)
      (elementOf o.typedData index >>= fun elem => object (wrap name elem)) := by
  refine refines_yields (rel_dsTypedObjectGetArrayElement o index) (visible_elementOf _ _) ?_ ?_
  · intro hr data hf
    simp only [hf, if_true]
    exact refines_throw _
  · intro hr data hf
    simp only [hf]
    exact (allocSubTypedObject_refines mem name data).bind fun _ _ h =>
      refines_pure (.entity (.object h))

theorem deref_refines (h : Represents o x) :
    RefinesOn Shows x (reading o (typedObjectDeref mem o)) (ScriptApi.objectCall x .deref) := by
  refine refinesOn_typed h fun _ => refinesOn_reading h ?_
  refine refines_settle settles_luaCheckAbort ?_
  rw [← h.name, cstrOfChars_str]
  exact getElement_refines 0 _

theorem element_refines (h : Represents o x) (index : ℕ) :
    RefinesOn Shows x (typedObjectIndex mem o (.integer (BitVec.ofNat 64 index)))
      (ScriptApi.objectCall x (.element index)) := by
  refine refinesOn_typed h fun hvalid => refinesOn_settle settles_utilCheckAbort ?_
  refine refinesOn_reading h ?_
  rw [checkTypedData_of_valid hvalid]
  split_ifs
  · exact getElement_refines _ _
  · exact refines_unspecified _

theorem field_refines (h : Represents o x) (name : AnsiStr) :
    RefinesOn Shows x (reading o (typedObjectGetfield mem o (.string name.chars)))
      (ScriptApi.objectCall x (.field name)) := by
  refine refinesOn_typed h fun hvalid => refinesOn_reading h ?_
  refine refines_settle settles_luaCheckAbort ?_
  rw [checkTypedData_of_valid hvalid]
  show Refines Shows (getFieldOf mem o (.string name.chars)) _
  split_ifs
  · rw [getFieldOf, cstrOfChars_chars]
    refine refines_yields (rel_dsTypedObjectGetField o name) (visible_fieldOf _ _) ?_ ?_
    · intro hr data hf
      simp only [hf, if_true]
      exact refines_throw _
    · intro hr data hf
      simp only [hf]
      exact (allocSubTypedObject_refines mem name data).bind fun _ _ h =>
        refines_pure (.entity (.object h))
  · exact refines_unspecified _

theorem len_refines (h : Represents o x) :
    RefinesOn Shows x (reading o (typedObjectLen o)) (ScriptApi.objectCall x .length) := by
  refine refinesOn_typed h fun hvalid => refinesOn_reading h ?_
  refine refines_settle settles_luaCheckAbort ?_
  rw [checkTypedData_of_valid hvalid]
  show Refines Shows (if o.typedData.tag ≠ .ArrayType then _ else _) _
  split_ifs
  · exact refines_throw _
  · refine refines_yields (rel_dsTypedObjectGetArrayElement o 0) (visible_elementOf _ _) ?_ ?_
    · intro hr data hf
      simp only [hf, if_true]
      exact refines_throw _
    · intro hr data hf
      simp only [hf]
      exact refines_lift_bind (visible_ulongDiv _ _) fun _ => refines_integer (.integer _)

theorem objectReadString_refines (h : Represents o x) (count : Option CInt) :
    RefinesOn Shows x
      (reading o (typedObjectReadString o (count.map fun n => n.signExtend 64)))
      (ScriptApi.objectCall x (.readString count)) := by
  refine refinesOn_typed h fun hvalid => refinesOn_reading h ?_
  refine refines_settle settles_luaCheckAbort ?_
  rw [checkTypedData_of_valid hvalid, optCount_signExtend]
  exact (luaReadString_refines o.typedData.offset count).map fun _ _ h => h

theorem objectReadWideString_refines (h : Represents o x) (count : Option CInt) :
    RefinesOn Shows x
      (reading o (typedObjectReadWideString o (count.map fun n => n.signExtend 64)))
      (ScriptApi.objectCall x (.readWideString count)) := by
  refine refinesOn_typed h fun hvalid => refinesOn_reading h ?_
  refine refines_settle settles_luaCheckAbort ?_
  rw [checkTypedData_of_valid hvalid, optCount_signExtend]
  exact (luaReadWideString_refines o.typedData.offset count).map fun _ _ h => h

theorem objectReadBytes_refines (h : Represents o x) (count : ULONG) :
    RefinesOn Shows x (reading o (typedObjectReadBytes o (count.setWidth 64)))
      (ScriptApi.objectCall x (.readBytes count)) := by
  have hcount : (count.setWidth 64).setWidth 32 = count := by simp
  refine refinesOn_reading h (refines_settle settles_luaCheckAbort ?_)
  rw [hcount, ScriptApi.objectCall, ← h.address]
  exact (luaReadBytes_refines o.typedData.offset count).map fun _ _ h => h

theorem getRuntimeObject_refines (h : Represents o x) :
    RefinesOn Shows x (reading o (typedObjectGetRuntimeObject mem o))
      (ScriptApi.objectCall x .runtimeObject) := by
  refine refinesOn_typed h fun _ => refinesOn_reading h ?_
  refine refines_settle settles_luaCheckAbort ?_
  rw [← h.name]
  exact refines_runtimeObject (fun _ _ hf => ⟨_, if_pos hf⟩) (fun _ _ hf => if_neg hf)
    fun _ _ hx => .entity (.object hx)

theorem objectCall_refines (mem : DbgScriptTypedObject) (h : Represents o x) (c : ObjectCall) :
    RefinesOn Shows x (objectCall mem o c) (ScriptApi.objectCall x c) := by
  cases c with
  | name =>
    refine index_property mem (by decide) rfl (refinesOn_reading h ?_)
    rw [ScriptApi.objectCall, ← h.name]
    exact getter_text
  | type =>
    refine index_property mem (by decide) rfl (refinesOn_reading h ?_)
    rw [ScriptApi.objectCall, ← h.typeName]
    exact getter_text
  | module =>
    refine index_property mem (by decide) rfl (refinesOn_reading h ?_)
    rw [ScriptApi.objectCall, ← h.moduleName]
    exact getter_text
  | size =>
    refine index_property mem (by decide) rfl (refinesOn_reading h ?_)
    rw [ScriptApi.objectCall, ← h.size]
    exact refines_settle settles_luaCheckAbort (refines_integer (.integer _))
  | address =>
    refine index_property mem (by decide) rfl (refinesOn_reading h ?_)
    rw [ScriptApi.objectCall, ← h.address]
    exact refines_settle settles_luaCheckAbort (refines_integer64 (.integer _))
  | value => exact index_property mem (by decide) rfl (getvalue_refines h)
  | deref => exact index_property mem (by decide) rfl (deref_refines h)
  | field name => exact method_refines (by decide) (field_refines h name)
  | element index => exact element_refines h index
  | length => exact len_refines h
  | readString count => exact method_refines (by decide) (objectReadString_refines h count)
  | readWideString count => exact method_refines (by decide) (objectReadWideString_refines h count)
  | readBytes count => exact method_refines (by decide) (objectReadBytes_refines h count)
  | runtimeObject => exact method_refines (by decide) (getRuntimeObject_refines h)

end TypedObject

/-! ## Threads and frames -/

theorem getter_integer {n : ℕ} (i : BitVec n) :
    Refines Shows (getter (.integer (i.setWidth 64))) (integer i) :=
  refines_settle settles_luaCheckAbort (refines_integer (.integer _))

theorem threadGetTeb_refines (thd : DbgScriptThread) :
    Refines Shows (threadGetTeb thd) (ScriptApi.threadCall thd .teb) :=
  refines_checked_query settles_luaCheckAbort ⟨rfl, fun _ => trivial⟩
    (fun _ _ h => ⟨_, if_pos h⟩) (fun _ _ h => if_neg h) fun a => refines_integer64 (.integer a)

theorem threadCurrentFrame_refines (thd : DbgScriptThread) :
    Refines (fun frame b => Promised (.entity (frameEntity frame)) b) (threadCurrentFrame thd)
      (ScriptApi.threadCall thd .currentFrame) :=
  refines_checked_query settles_luaCheckAbort ⟨rfl, fun _ => trivial⟩
    (fun _ _ h => ⟨_, if_pos h⟩) (fun _ _ h => if_neg h)
    fun frame => refines_pure (.entity (.frame frame thd))

theorem threadGetStack_refines (thd : DbgScriptThread) :
    Refines (fun frames b => Promised (.entities (frames.map frameEntity)) b) (threadGetStack thd)
      (ScriptApi.threadCall thd .stack) := by
  refine refines_checked_query settles_luaCheckAbort ⟨rfl, fun _ => trivial⟩
    (fun _ _ h => ⟨_, if_pos h⟩) (fun _ _ h => if_neg h) ?_
  intro frames
  have hstack : (List.range (min frames.length maxFrames)).map
      (fun i => (⟨frames.getD i default, thd⟩ : StackFrameObject)) =
        (frames.take maxFrames).map fun frame => ⟨frame, thd⟩ := by
    rw [← range_map_getD, List.map_map]
    rfl
  refine refines_pure ?_
  rw [hstack, List.map_map]
  exact promised_frames (frames.take maxFrames) thd

theorem threadCall_refines (thd : DbgScriptThread) (c : ThreadCall) :
    Refines Promised (threadCall thd c) (ScriptApi.threadCall thd c) := by
  cases c with
  | engineId => exact (getter_integer thd.engineId).map fun _ _ h => h
  | threadId => exact (getter_integer thd.threadId).map fun _ _ h => h
  | teb => exact (threadGetTeb_refines thd).map fun _ _ h => h
  | currentFrame => exact (threadCurrentFrame_refines thd).map fun _ _ h => h
  | stack => exact (threadGetStack_refines thd).map fun _ _ h => h

theorem getVariablesHelper_refines (mem : ℕ → DbgScriptTypedObject) (frame : DbgScriptStackFrame)
    (thd : DbgScriptThread) (flags : ULONG) :
    Refines (fun objs b => Promised (.entities (objs.map .object)) b)
      (getVariablesHelper mem thd frame flags) (frameVariables frame thd flags) := by
  refine refines_settle settles_luaCheckAbort (refines_query ⟨rfl, fun _ => trivial⟩ ?_ ?_)
  · intro hr numSym hf
    simp only [hf, if_true]
    exact refines_throw _
  · intro hr numSym hf
    simp only [hf]
    by_cases hlen : maxLength < numSym.toNat
    · rw [if_pos hlen]
      exact refines_unspecified _
    · rw [if_neg hlen]
      have hcall : ∀ i acc objs entry symName, List.Forall₂ Represents acc objs →
          Refines (Appended (fun _ => List.Forall₂ Represents) i)
            (buildArrayFromLocals mem acc entry symName i) (appendVariable objs entry symName) := by
        intro i acc objs entry symName hacc
        refine (allocNewTypedObject_refines (mem i) .unspecified _ _ _ _ _ _).bind ?_
        intro o x h
        exact refines_pure ⟨rfl, List.rel_append hacc (.cons h .nil)⟩
      refine (refines_variables hcall numSym .nil).bind ?_
      intro _ _ hr
      cases hr with
      | failed acc h =>
        simp only [h, if_true]
        exact refines_throw _
      | all h hobjs =>
        simp only [h]
        exact refines_pure (promised_objects hobjs)

theorem frameCall_refines (mem : ℕ → DbgScriptTypedObject) (frame : DbgScriptStackFrame)
    (thd : DbgScriptThread) (c : FrameCall) :
    Refines Promised (frameCall mem frame thd c) (ScriptApi.frameCall frame thd c) := by
  cases c with
  | frameNumber => exact (getter_integer frame.frameNumber).map fun _ _ h => h
  | instructionOffset => exact (getter_integer frame.instructionOffset).map fun _ _ h => h
  | locals => exact (getVariablesHelper_refines mem frame thd _).map fun _ _ h => h
  | args => exact (getVariablesHelper_refines mem frame thd _).map fun _ _ h => h

end DbgScript.Lua
