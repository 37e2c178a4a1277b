import DbgScript.Providers.Interrupts
import DbgScript.Ruby.ScriptApi

/-!
# Ctrl-C in Ruby

* `heeds_moduleCall`, `heedsOn_objectCall`, `heeds_threadCall`, `heeds_frameCall`: the Ruby
  functions end in an error as soon as they hear of an interrupt.
-/

namespace DbgScript.Ruby

open ScriptApi
open Dialogue (EndsAfter)

variable {α : Type}

theorem heeds_checkAbort : Heeds checkAbort := ScriptApi.heeds_checkAbort

theorem heeds_ruby {f : RubyM α} (hf : Heeds f) : Heeds (ruby f) := by
  constructor
  show EndsAfter interrupted _ (f.attempt >>= fun r => _).inl
  rw [Dialogue.inl_bind]
  refine hf.ends.bind ?_ fun _ => trivial
  rintro _ ⟨e, rfl⟩
  exact ⟨_, rfl, _, rfl⟩

theorem heeds_NUM2ULL (i : ℤ) : Heeds (NUM2ULL i) := heeds_ite (heeds_pure _) (heeds_throw _)
theorem heeds_NUM2INT (i : ℤ) : Heeds (NUM2INT i) := heeds_ite (heeds_pure _) (heeds_throw _)
theorem heeds_NUM2ULONG (i : ℤ) : Heeds (NUM2ULONG i) :=
  heeds_ite (heeds_pure _) (heeds_throw _)

theorem heeds_rbReadBytes (addr : UINT64) (count : ℤ) : Heeds (rbReadBytes addr count) :=
  heeds_bind (heeds_NUM2ULONG count) fun _ => heeds_query ⟨rfl, fun _ => trivial⟩ fun _ _ =>
    heeds_unless (heeds_pure _)

theorem heeds_rbReadString (addr : UINT64) (count : CInt) : Heeds (rbReadString addr count) :=
  heeds_unless (heeds_query (visible_utilReadAnsiString _ _) fun _ _ => heeds_unless (heeds_pure _))

theorem heeds_rbReadWideString (addr : UINT64) (count : CInt) :
    Heeds (rbReadWideString addr count) := by
  refine heeds_unless (heeds_query (visible_utilReadWideString _ _) fun _ _ => heeds_unless ?_)
  refine heeds_bind (heeds_lift ⟨rfl, fun _ => trivial⟩) ?_
  rintro (err | utf8buf)
  · exact heeds_throw _
  · exact heeds_pure _

theorem heeds_stringArgs (addr : ℤ) (rest : List ℤ) : Heeds (stringArgs addr rest) := by
  match rest with
  | [] => exact heeds_map (heeds_NUM2ULL addr)
  | [count] => exact heeds_bind (heeds_NUM2INT count) fun _ => heeds_map (heeds_NUM2ULL addr)
  | _ :: _ :: _ => exact heeds_throw _

theorem heeds_allocTypedObject (size : ULONG) (name : Option AnsiStr) (typeId : ULONG)
    (moduleBase address : UINT64) (wantPointer : Bool) :
    Heeds (allocTypedObject size name typeId moduleBase address wantPointer) :=
  heeds_bind (heeds_lift (visible_dsInitializeTypedObject _ _ _ _ _ _ _)) fun _ =>
    heeds_unless (heeds_pure _)

theorem heeds_createTypedObject (type : AnsiStr) (addr : ℤ) (wantPointer : Bool) :
    Heeds (createTypedObjectHelper type addr wantPointer) :=
  heeds_bind heeds_checkAbort fun _ => heeds_bind (heeds_NUM2ULL addr) fun _ =>
    heeds_symbolType (heeds_throw _) fun _ => heeds_allocTypedObject _ _ _ _ _ _

theorem heeds_rbAryNew2 (capa : ULONG) : Heeds (rbAryNew2 capa) :=
  heeds_unless (heeds_unless (heeds_pure _))

theorem heeds_moduleCall (c : ModuleCall) : Heeds (moduleCall c) := by
  have hcheck : Heeds (ruby checkAbort) := heeds_ruby heeds_checkAbort
  cases c with
  | readPtr addr =>
    exact heeds_map (heeds_bind hcheck fun _ => heeds_bind (heeds_ruby (heeds_NUM2ULL _)) fun _ =>
      heeds_query ⟨rfl, fun _ => trivial⟩ fun _ _ => heeds_unless (heeds_pure _))
  | readBytes addr count =>
    exact heeds_map (heeds_ruby (heeds_bind heeds_checkAbort fun _ =>
      heeds_bind (heeds_NUM2ULL _) fun _ => heeds_rbReadBytes _ _))
  | readString addr count =>
    exact heeds_map (heeds_ruby (heeds_bind heeds_checkAbort fun _ =>
      heeds_bind (heeds_stringArgs _ _) fun _ => heeds_rbReadString _ _))
  | readWideString addr count =>
    exact heeds_map (heeds_ruby (heeds_bind heeds_checkAbort fun _ =>
      heeds_bind (heeds_stringArgs _ _) fun _ => heeds_rbReadWideString _ _))
  | fieldOffset type field =>
    exact heeds_map (heeds_bind hcheck fun _ =>
      heeds_query (visible_queryType fun _ => ⟨rfl, fun _ => trivial⟩) fun _ _ =>
        heeds_unless (heeds_pure _))
  | getTypeSize type =>
    exact heeds_map (heeds_bind hcheck fun _ =>
      heeds_query (visible_queryType fun _ => ⟨rfl, fun _ => trivial⟩) fun _ _ =>
        heeds_unless (heeds_pure _))
  | getNearestSym addr =>
    exact heeds_map (heeds_bind hcheck fun _ => heeds_bind (heeds_ruby (heeds_NUM2ULL _)) fun _ =>
      heeds_query (visible_utilGetNearestSymbol _) fun _ _ => heeds_unless (heeds_pure _))
  | searchMemory start size pattern patGran =>
    exact heeds_map (heeds_bind hcheck fun _ => heeds_bind (heeds_ruby (heeds_NUM2ULL _)) fun _ =>
      heeds_bind (heeds_ruby (heeds_NUM2ULL _)) fun _ =>
        heeds_bind (heeds_ruby (heeds_NUM2ULONG _)) fun _ =>
          heeds_query ⟨rfl, fun _ => trivial⟩ fun _ _ =>
            heeds_ite (heeds_ite (heeds_throw _) (heeds_unless (heeds_throw _))) (heeds_pure _))
  | resolveEnum type value =>
    exact heeds_map (heeds_ruby (heeds_bind heeds_checkAbort fun _ =>
      heeds_bind (heeds_NUM2ULL _) fun _ => heeds_symbolType (heeds_throw _) fun _ =>
        heeds_query ⟨rfl, fun _ => trivial⟩ fun _ _ => heeds_unless (heeds_pure _)))
  | getGlobal symbol =>
    exact heeds_map (heeds_ruby (heeds_bind heeds_checkAbort fun _ =>
      heeds_query ⟨rfl, fun _ => trivial⟩ fun _ _ => heeds_unless
        (heeds_symbolType (heeds_throw _) fun _ => heeds_allocTypedObject _ _ _ _ _ _)))
  | createTypedObject type addr => exact heeds_map (heeds_ruby (heeds_createTypedObject _ _ _))
  | createTypedPointer type addr => exact heeds_map (heeds_ruby (heeds_createTypedObject _ _ _))
  | getPeb =>
    exact heeds_map (heeds_ruby (heeds_bind heeds_checkAbort fun _ =>
      heeds_query ⟨rfl, fun _ => trivial⟩ fun _ _ => heeds_unless (heeds_pure _)))
  | currentThread =>
    exact heeds_map (heeds_ruby (heeds_bind heeds_checkAbort fun _ =>
      heeds_query ⟨rfl, fun _ => trivial⟩ fun _ _ => heeds_unless
        (heeds_query ⟨rfl, fun _ => trivial⟩ fun _ _ => heeds_unless (heeds_pure _))))
  | getThreads =>
    exact heeds_map (heeds_ruby (heeds_bind heeds_checkAbort fun _ =>
      heeds_query visible_utilCountThreads fun _ _ => heeds_unless
        (heeds_query (visible_utilEnumThreads _) fun _ _ => heeds_unless
          (heeds_map (heeds_rbAryNew2 _)))))
  | startBuffering => exact heeds_map (heeds_ruby (heeds_lift ⟨rfl, fun _ => trivial⟩))
  | stopBuffering =>
    exact heeds_map (heeds_ruby (heeds_bind heeds_checkAbort fun _ =>
      heeds_bind (heeds_lift ⟨rfl, fun _ => trivial⟩) fun _ =>
        heeds_ite (heeds_bind (heeds_lift ⟨rfl, fun _ => trivial⟩) fun _ => heeds_throw _)
          (heeds_ite (heeds_lift ⟨rfl, fun _ => trivial⟩) (heeds_pure _))))
  | executeCommand command =>
    exact heeds_map (heeds_ruby (heeds_bind heeds_checkAbort fun _ =>
      heeds_bind (heeds_lift ⟨rfl, fun _ => trivial⟩) fun _ => heeds_unless (heeds_pure _)))

theorem heeds_checkTypedData (o : DbgScriptTypedObject) : Heeds (checkTypedData o) :=
  heeds_unless (heeds_pure _)

theorem heeds_getter (v : RubyValue) : Heeds (getter v) :=
  heeds_map heeds_checkAbort

theorem heeds_allocTypedObjFromTypedData (name : AnsiStr) (data : DebugTypedData) :
    Heeds (allocTypedObjFromTypedData name data) :=
  heeds_bind (heeds_lift (visible_dsWrapTypedData _ _ _)) fun _ => heeds_unless (heeds_pure _)

theorem heeds_getElement (o : DbgScriptTypedObject) (index : UINT64) (name : AnsiStr) :
    Heeds (getElement o index name) :=
  heeds_query (visible_dsTypedObjectGetArrayElement _ _) fun _ _ =>
    heeds_unless (heeds_allocTypedObjFromTypedData _ _)

theorem heedsOn_value (o : DbgScriptTypedObject) : HeedsOn o (typedObjectValue o) := by
  refine heedsOn_checks ?_ (fun _ => rfl) (visible_readTypedData_bind fun r => ?_)
  · exact heeds_bind heeds_checkAbort fun _ => heeds_bind (heeds_checkTypedData o) fun _ =>
      heeds_unless (heeds_pure _)
  · simp only
    split_ifs
    · trivial
    · trivial

theorem heeds_countArg (count : Option CInt) : Heeds (countArg (optArg count)) := by
  cases count with
  | none => exact heeds_pure _
  | some count => exact heeds_NUM2INT _

theorem heedsOn_objectCall (o : DbgScriptTypedObject) (c : ObjectCall) :
    HeedsOn o (objectCall o c) := by
  have hchecked : ∀ {f : Unit → RubyM RubyValue}, Heeds (f ()) →
      HeedsOn o (reading o (checkAbort >>= f)) :=
    fun hf => heedsOn_reading (heeds_bind heeds_checkAbort fun _ => hf) o
  cases c with
  | name | type | module | size | address => exact heedsOn_reading (heeds_getter _) o
  | value => exact heedsOn_value o
  | deref =>
    exact hchecked (heeds_bind (heeds_checkTypedData o) fun _ => heeds_getElement _ _ _)
  | field name =>
    exact hchecked (heeds_bind (heeds_checkTypedData o) fun _ =>
      heeds_query (visible_dsTypedObjectGetField _ _) fun _ _ =>
        heeds_unless (heeds_allocTypedObjFromTypedData _ _))
  | element index =>
    exact hchecked (heeds_bind (heeds_checkTypedData o) fun _ =>
      heeds_bind (heeds_NUM2INT _) fun _ => heeds_getElement _ _ _)
  | length =>
    exact hchecked (heeds_bind (heeds_checkTypedData o) fun _ => heeds_unless
      (heeds_query (visible_dsTypedObjectGetArrayElement _ _) fun _ _ => heeds_unless
        (heeds_map (heeds_lift (visible_ulongDiv _ _)))))
  | readString count =>
    exact hchecked (heeds_bind (heeds_checkTypedData o) fun _ =>
      heeds_bind (heeds_countArg count) fun _ => heeds_rbReadString _ _)
  | readWideString count =>
    exact hchecked (heeds_bind (heeds_checkTypedData o) fun _ =>
      heeds_bind (heeds_countArg count) fun _ => heeds_rbReadWideString _ _)
  | readBytes count => exact hchecked (heeds_rbReadBytes _ _)
  | runtimeObject =>
    exact hchecked (heeds_bind (heeds_lift (visible_dsTypedObjectGetRuntimeType _ _)) fun _ =>
      heeds_unless (heeds_pure _))

theorem heeds_threadCall (thd : DbgScriptThread) (c : ThreadCall) :
    Heeds (threadCall thd c) := by
  cases c with
  | engineId | threadId => exact heeds_map (heeds_getter _)
  | teb | currentFrame | stack =>
    exact heeds_map (heeds_bind heeds_checkAbort fun _ =>
      heeds_query ⟨rfl, fun _ => trivial⟩ fun _ _ => heeds_unless (heeds_pure _))

theorem heeds_variables (frame : DbgScriptStackFrame) (thd : DbgScriptThread) (flags : ULONG) :
    Heeds (getVariablesHelper frame thd flags) :=
  heeds_bind heeds_checkAbort fun _ => heeds_query ⟨rfl, fun _ => trivial⟩ fun _ _ =>
    heeds_unless (heeds_bind (heeds_rbAryNew2 _) fun _ =>
      heeds_bind (heeds_utilEnumStackFrameVariables (fun _ _ _ _ =>
        heeds_map (heeds_allocTypedObject _ _ _ _ _ _)) _ _) fun _ =>
          heeds_unless (heeds_pure _))

theorem heeds_frameCall (frame : DbgScriptStackFrame) (thd : DbgScriptThread) (c : FrameCall) :
    Heeds (frameCall frame thd c) := by
  cases c with
  | frameNumber | instructionOffset => exact heeds_map (heeds_pure _)
  | locals | args => exact heeds_map (heeds_variables _ _ _)

end DbgScript.Ruby
