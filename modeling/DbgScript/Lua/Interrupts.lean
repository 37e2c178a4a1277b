import DbgScript.Lua.ScriptApi
import DbgScript.Providers.Interrupts

/-!
# Ctrl-C in Lua

The function that makes an object, and the one that indexes it, also to find a method, ask
once more for an interrupt.

* `heeds_moduleCall`, `heedsOn_objectCall`, `heeds_threadCall`, `heeds_frameCall`: the Lua
  functions end in an error as soon as they hear of one.
-/

namespace DbgScript.Lua

open ScriptApi

theorem heeds_checkAbort : Heeds checkAbort := ScriptApi.heeds_checkAbort

theorem heeds_luaReadBytes (addr : UINT64) (count : ULONG) : Heeds (luaReadBytes addr count) :=
  heeds_query ⟨rfl, fun _ => trivial⟩ fun _ _ => heeds_unless (heeds_pure _)

theorem heeds_luaReadString (addr : UINT64) (count : CInt) : Heeds (luaReadString addr count) :=
  heeds_unless (heeds_query (visible_utilReadAnsiString _ _) fun _ _ => heeds_unless (heeds_pure _))

theorem heeds_luaReadWideString (addr : UINT64) (count : CInt) :
    Heeds (luaReadWideString addr count) := by
  refine heeds_unless (heeds_query (visible_utilReadWideString _ _) fun _ _ => heeds_unless ?_)
  refine heeds_bind (heeds_lift ⟨rfl, fun _ => trivial⟩) ?_
  rintro (err | utf8buf)
  · exact heeds_throw _
  · exact heeds_pure _

theorem heeds_allocNewTypedObject (mem : DbgScriptTypedObject) (size : ULONG)
    (name : Option AnsiStr) (typeId : ULONG) (moduleBase address : UINT64) (wantPointer : Bool) :
    Heeds (allocNewTypedObject mem size name typeId moduleBase address wantPointer) :=
  heeds_bind heeds_checkAbort fun _ =>
    heeds_bind (heeds_lift (visible_dsInitializeTypedObject _ _ _ _ _ _ _)) fun _ =>
      heeds_unless (heeds_pure _)

theorem heeds_createTypedObject (mem : DbgScriptTypedObject) (type : AnsiStr) (addr : UINT64)
    (wantPointer : Bool) : Heeds (createTypedObjectHelper mem type addr wantPointer) :=
  heeds_bind heeds_checkAbort fun _ => heeds_symbolType (heeds_throw _) fun _ =>
    heeds_allocNewTypedObject _ _ _ _ _ _ _

theorem heeds_moduleCall (mem : DbgScriptTypedObject) (c : ModuleCall) :
    Heeds (moduleCall mem c) := by
  cases c with
  | readPtr addr =>
    exact heeds_map (heeds_bind heeds_checkAbort fun _ =>
      heeds_query ⟨rfl, fun _ => trivial⟩ fun _ _ => heeds_unless (heeds_pure _))
  | readBytes addr count =>
    exact heeds_map (heeds_bind heeds_checkAbort fun _ => heeds_map (heeds_luaReadBytes _ _))
  | readString addr count =>
    exact heeds_map (heeds_bind heeds_checkAbort fun _ => heeds_map (heeds_luaReadString _ _))
  | readWideString addr count =>
    exact heeds_map (heeds_bind heeds_checkAbort fun _ => heeds_map (heeds_luaReadWideString _ _))
  | fieldOffset type field =>
    exact heeds_map (heeds_bind heeds_checkAbort fun _ =>
      heeds_query (visible_queryType fun _ => ⟨rfl, fun _ => trivial⟩) fun _ _ =>
        heeds_unless (heeds_pure _))
  | getTypeSize type =>
    exact heeds_map (heeds_bind heeds_checkAbort fun _ =>
      heeds_query (visible_queryType fun _ => ⟨rfl, fun _ => trivial⟩) fun _ _ =>
        heeds_unless (heeds_pure _))
  | getNearestSym addr =>
    exact heeds_map (heeds_bind heeds_checkAbort fun _ =>
      heeds_query (visible_utilGetNearestSymbol addr) fun _ _ => heeds_unless (heeds_pure _))
  | searchMemory start size pattern patGran =>
    exact heeds_map (heeds_bind heeds_checkAbort fun _ =>
      heeds_query ⟨rfl, fun _ => trivial⟩ fun _ _ =>
        heeds_ite (heeds_unless (heeds_unless (heeds_throw _))) (heeds_pure _))
  | resolveEnum type value =>
    exact heeds_map (heeds_bind heeds_checkAbort fun _ =>
      heeds_symbolType (heeds_throw _) fun _ =>
        heeds_query ⟨rfl, fun _ => trivial⟩ fun _ _ => heeds_unless (heeds_pure _))
  | getGlobal symbol =>
    exact heeds_map (heeds_bind heeds_checkAbort fun _ =>
      heeds_query ⟨rfl, fun _ => trivial⟩ fun _ _ => heeds_unless
        (heeds_symbolType (heeds_throw _) fun _ => heeds_allocNewTypedObject _ _ _ _ _ _ _))
  | createTypedObject type addr => exact heeds_map (heeds_createTypedObject _ _ _ _)
  | createTypedPointer type addr => exact heeds_map (heeds_createTypedObject _ _ _ _)
  | getPeb =>
    exact heeds_map (heeds_bind heeds_checkAbort fun _ =>
      heeds_query ⟨rfl, fun _ => trivial⟩ fun _ _ => heeds_unless (heeds_pure _))
  | currentThread =>
    exact heeds_map (heeds_bind heeds_checkAbort fun _ =>
      heeds_query ⟨rfl, fun _ => trivial⟩ fun _ _ => heeds_unless
        (heeds_query ⟨rfl, fun _ => trivial⟩ fun _ _ => heeds_unless (heeds_pure _)))
  | getThreads =>
    exact heeds_map (heeds_bind heeds_checkAbort fun _ =>
      heeds_query visible_utilCountThreads fun _ _ => heeds_unless
        (heeds_query (visible_utilEnumThreads _) fun _ _ => heeds_unless (heeds_pure _)))
  | startBuffering => exact heeds_map (heeds_lift ⟨rfl, fun _ => trivial⟩)
  | stopBuffering =>
    exact heeds_map (heeds_bind (heeds_lift ⟨rfl, fun _ => trivial⟩) fun _ =>
      heeds_ite (heeds_bind (heeds_lift ⟨rfl, fun _ => trivial⟩) fun _ => heeds_throw _)
        (heeds_ite (heeds_lift ⟨rfl, fun _ => trivial⟩) (heeds_pure _)))
  | executeCommand command =>
    exact heeds_map (heeds_bind heeds_checkAbort fun _ =>
      heeds_bind (heeds_lift ⟨rfl, fun _ => trivial⟩) fun _ => heeds_unless (heeds_pure _))

theorem heeds_checkTypedData (o : DbgScriptTypedObject) : Heeds (checkTypedData o) :=
  heeds_unless (heeds_pure _)

theorem heeds_getElement (mem o : DbgScriptTypedObject) (index : UINT64) (name : AnsiStr) :
    Heeds (getElement mem o index name) :=
  heeds_query (visible_dsTypedObjectGetArrayElement _ _) fun _ _ => heeds_unless
    (heeds_map (heeds_bind heeds_checkAbort fun _ =>
      heeds_bind (heeds_lift (visible_dsWrapTypedData _ _ _)) fun _ => heeds_unless (heeds_pure _)))

theorem heeds_getter (v : LuaValue) : Heeds (getter v) := heeds_map heeds_checkAbort

theorem heedsOn_getvalue (o : DbgScriptTypedObject) : HeedsOn o (typedObjectGetvalue o) := by
  refine heedsOn_checks ?_ (fun _ => rfl) (visible_readTypedData_bind fun r => ?_)
  · exact heeds_bind heeds_checkAbort fun _ => heeds_bind (heeds_checkTypedData o) fun _ =>
      heeds_unless (heeds_pure _)
  · simp only
    split_ifs
    · trivial
    · trivial

theorem heeds_deref (mem o : DbgScriptTypedObject) : Heeds (typedObjectDeref mem o) :=
  heeds_bind heeds_checkAbort fun _ => heeds_getElement _ _ _ _

theorem heeds_getFieldOf (mem o : DbgScriptTypedObject) (key : Key) :
    Heeds (getFieldOf mem o key) := by
  cases key with
  | string s =>
    exact heeds_query (visible_dsTypedObjectGetField _ _) fun _ _ => heeds_unless
      (heeds_map (heeds_bind heeds_checkAbort fun _ =>
        heeds_bind (heeds_lift (visible_dsWrapTypedData _ _ _)) fun _ =>
          heeds_unless (heeds_pure _)))
  | integer _ | other => exact heeds_throw _

theorem heedsOn_property {mem o : DbgScriptTypedObject} {name : List CHAR} {get : DsM Outcome}
    (h : property? mem o name = some get) : HeedsOn o get := by
  rw [property?] at h
  split_ifs at h
  · obtain rfl := Option.some.inj h
    exact heedsOn_reading (heeds_getter _) o
  · obtain rfl := Option.some.inj h
    exact heedsOn_reading (heeds_getter _) o
  · obtain rfl := Option.some.inj h
    exact heedsOn_reading (heeds_getter _) o
  · obtain rfl := Option.some.inj h
    exact heedsOn_reading (heeds_getter _) o
  · obtain rfl := Option.some.inj h
    exact heedsOn_getvalue o
  · obtain rfl := Option.some.inj h
    exact heedsOn_reading (heeds_getter _) o
  · obtain rfl := Option.some.inj h
    exact heedsOn_reading (heeds_deref mem o) o

/-- The key of an index is looked up after a check, and often with a second one. -/
theorem heedsOn_index (mem o : DbgScriptTypedObject) (key : Key) :
    HeedsOn o (typedObjectIndex mem o key) := by
  refine heedsOn_checkAbort ⟨_, rfl⟩ ?_
  cases key with
  | integer i =>
    exact heedsOn_reading (heeds_bind (heeds_checkTypedData o) fun _ =>
      heeds_getElement _ _ _ _) o
  | string s =>
    simp only [Bool.false_eq_true, if_false]
    split_ifs
    · exact heedsOn_done _
    · cases hget : property? mem o s with
      | some get => exact heedsOn_property hget
      | none =>
        exact heedsOn_reading (heeds_bind (heeds_checkTypedData o) fun _ =>
          heeds_bind heeds_checkAbort fun _ => heeds_getFieldOf _ _ _) o
  | other => exact heedsOn_done _

/-- The look-up of a method asks for an interrupt, and the method does once more. -/
theorem heedsOn_method {mem o : DbgScriptTypedObject} {name : List CHAR} (hmeta : name ∈ metatable)
    {f : LuaM LuaResult} (hf : Heeds f) : HeedsOn o (callMethod mem o name f) := by
  rw [callMethod, typedObjectIndex, Dialogue.bind_assoc]
  refine heedsOn_checkAbort ⟨_, rfl⟩ ?_
  simp only [hmeta]
  exact heedsOn_reading hf o

theorem heedsOn_objectCall (mem o : DbgScriptTypedObject) (c : ObjectCall) :
    HeedsOn o (objectCall mem o c) := by
  cases c with
  | name => exact heedsOn_index mem o (.string (ansi "name"))
  | type => exact heedsOn_index mem o (.string (ansi "type"))
  | module => exact heedsOn_index mem o (.string (ansi "module"))
  | size => exact heedsOn_index mem o (.string (ansi "size"))
  | address => exact heedsOn_index mem o (.string (ansi "address"))
  | value => exact heedsOn_index mem o (.string (ansi "value"))
  | deref => exact heedsOn_index mem o (.string (ansi "deref"))
  | element index => exact heedsOn_index mem o (.integer (BitVec.ofNat 64 index))
  | field name =>
    exact heedsOn_method (by decide) (heeds_bind heeds_checkAbort fun _ =>
      heeds_bind (heeds_checkTypedData o) fun _ => heeds_getFieldOf _ _ _)
  | length =>
    exact heedsOn_reading (heeds_bind heeds_checkAbort fun _ =>
      heeds_bind (heeds_checkTypedData o) fun _ => heeds_unless
        (heeds_query (visible_dsTypedObjectGetArrayElement _ _) fun _ _ => heeds_unless
          (heeds_map (heeds_lift (visible_ulongDiv _ _))))) o
  | readString count =>
    exact heedsOn_method (by decide) (heeds_bind heeds_checkAbort fun _ =>
      heeds_bind (heeds_checkTypedData o) fun _ => heeds_map (heeds_luaReadString _ _))
  | readWideString count =>
    exact heedsOn_method (by decide) (heeds_bind heeds_checkAbort fun _ =>
      heeds_bind (heeds_checkTypedData o) fun _ => heeds_map (heeds_luaReadWideString _ _))
  | readBytes count =>
    exact heedsOn_method (by decide) (heeds_bind heeds_checkAbort fun _ =>
      heeds_map (heeds_luaReadBytes _ _))
  | runtimeObject =>
    exact heedsOn_method (by decide) (heeds_bind heeds_checkAbort fun _ =>
      heeds_bind (heeds_lift (visible_dsTypedObjectGetRuntimeType _ _)) fun _ =>
        heeds_unless (heeds_pure _))

theorem heeds_threadCall (thd : DbgScriptThread) (c : ThreadCall) :
    Heeds (threadCall thd c) := by
  cases c with
  | engineId | threadId => exact heeds_map (heeds_getter _)
  | teb | currentFrame | stack =>
    exact heeds_map (heeds_bind heeds_checkAbort fun _ =>
      heeds_query ⟨rfl, fun _ => trivial⟩ fun _ _ => heeds_unless (heeds_pure _))

theorem heeds_variables (mem : ℕ → DbgScriptTypedObject) (thd : DbgScriptThread)
    (frame : DbgScriptStackFrame) (flags : ULONG) :
    Heeds (getVariablesHelper mem thd frame flags) :=
  heeds_bind heeds_checkAbort fun _ => heeds_query ⟨rfl, fun _ => trivial⟩ fun _ _ =>
    heeds_unless (heeds_bind (heeds_utilEnumStackFrameVariables (fun _ _ _ _ =>
      heeds_map (heeds_allocNewTypedObject _ _ _ _ _ _ _)) _ _) fun _ =>
        heeds_unless (heeds_pure _))

theorem heeds_frameCall (mem : ℕ → DbgScriptTypedObject) (frame : DbgScriptStackFrame)
    (thd : DbgScriptThread) (c : FrameCall) : Heeds (frameCall mem frame thd c) := by
  cases c with
  | frameNumber | instructionOffset => exact heeds_map (heeds_getter _)
  | locals | args => exact heeds_map (heeds_variables _ _ _ _)

end DbgScript.Lua
