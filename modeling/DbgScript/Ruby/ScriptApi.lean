import DbgScript.Providers.ApiObjects
import DbgScript.Providers.IntegerValues
import DbgScript.Ruby.Functions

/-!
# The scripting interface in Ruby

* `moduleCall_refines`, `objectCall_refines`, `threadCall_refines`, `frameCall_refines`: the
  Ruby functions do what the interface promises.

A word that is no `Integer` by itself is a reply that the languages do not share: it is one
only if it is the word of that `Integer` (`reply_integer`).
-/

namespace DbgScript.Ruby

open ScriptApi
open CharBuf (CStr Buf FixedStr)
open Dialogue (Covers Rel Settles)
open Python (PyAnswer)

/-! ## Calls and replies -/

/-- The integer of a `Fixnum`, if the word is one. -/
def fixnum? (word : BitVec 64) : Option ℤ :=
  if word.toInt % 2 = 1 ∧ fixable (word.toInt / 2) then some (word.toInt / 2) else none

/-- A value as a reply. -/
def reply : RubyValue → Reply DbgScriptTypedObject
  | .fixnum word =>
    match fixnum? word with
    | some i => .integer (BitVec.ofInt 64 i)
    | none => .other
  | .bignum i => .integer (BitVec.ofInt 64 i)
  | .single bits => .single bits
  | .double bits => .double bits
  | .boolean b => .boolean b
  | .string s => .text s
  | .typedObject o => .entity (.object o)

/-- An element of an array that is a typed object. -/
def object? : Option RubyValue → Option DbgScriptTypedObject
  | some (.typedObject o) => some o
  | _ => none

/-- An array of typed objects as a reply. -/
def replyArray (ary : RubyArray) : Reply DbgScriptTypedObject :=
  match ary.mapM object? with
  | some objs => .entities (objs.map .object)
  | none => .other

/-- The arguments of a function with an optional count. -/
def optArg (count : Option CInt) : List ℤ := (count.map BitVec.toInt).toList

def moduleCall : ModuleCall → ModuleM (Reply DbgScriptTypedObject)
  | .readPtr addr => do return reply (← readPtr addr.toNat)
  | .readBytes addr count => do return reply (← ruby (readBytes addr.toNat count.toNat))
  | .readString addr count => do return reply (← ruby (readString addr.toNat (optArg count)))
  | .readWideString addr count => do
    return reply (← ruby (readWideString addr.toNat (optArg count)))
  | .fieldOffset type field => do return reply (← fieldOffset type field)
  | .getTypeSize type => do return reply (← getTypeSize type)
  | .getNearestSym addr => do return reply (← getNearestSym addr.toNat)
  | .searchMemory start size pattern patGran => do
    return reply (← searchMemory start.toNat size.toNat pattern patGran.toNat)
  | .resolveEnum type value => do return reply (← ruby (resolveEnum type value.toNat))
  | .getGlobal symbol => do return reply (← ruby (getGlobal symbol))
  | .createTypedObject type addr => do
    return reply (← ruby (createTypedObject type addr.toNat))
  | .createTypedPointer type addr => do
    return reply (← ruby (createTypedPointer type addr.toNat))
  | .getPeb => do return reply (← ruby getPeb)
  | .currentThread => do return .entity (.thread (← ruby currentThread))
  | .getThreads => do return .entities ((← ruby getThreads).map .thread)
  | .startBuffering => do
    ruby startBuffering
    return .nothing
  | .stopBuffering => do
    ruby stopBuffering
    return .nothing
  | .executeCommand command => do
    ruby (executeCommand command)
    return .nothing

/-- A field is got by `obj[name]`. -/
def objectCall (typObj : DbgScriptTypedObject) : ObjectCall → DsM Outcome
  | .name => reading typObj (typedObjectName typObj)
  | .type => reading typObj (typedObjectType typObj)
  | .module => reading typObj (typedObjectModule typObj)
  | .size => reading typObj (typedObjectDataSize typObj)
  | .address => reading typObj (typedObjectAddress typObj)
  | .value => typedObjectValue typObj
  | .deref => reading typObj (typedObjectDeref typObj)
  | .field name => reading typObj (typedObjectGetItem typObj (.string name.chars))
  | .element index => reading typObj (typedObjectGetItem typObj (.integer index))
  | .length => reading typObj (typedObjectLength typObj)
  | .readString count => reading typObj (typedObjectReadString typObj (optArg count))
  | .readWideString count => reading typObj (typedObjectReadWideString typObj (optArg count))
  | .readBytes count => reading typObj (typedObjectReadBytes typObj count.toNat)
  | .runtimeObject => reading typObj (typedObjectGetRuntimeObj typObj)

def frameEntity (frame : ThreadFrame) : Entity DbgScriptTypedObject :=
  .frame frame.frame frame.thread

def threadCall (thd : DbgScriptThread) : ThreadCall → RubyM (Reply DbgScriptTypedObject)
  | .engineId => do return reply (← threadEngineId thd)
  | .threadId => do return reply (← threadThreadId thd)
  | .teb => do return reply (← threadGetTeb thd)
  | .currentFrame => do return .entity (frameEntity (← threadCurrentFrame thd))
  | .stack => do return .entities ((← threadGetStack thd).map frameEntity)

def frameCall (frame : DbgScriptStackFrame) (thd : DbgScriptThread) :
    FrameCall → RubyM (Reply DbgScriptTypedObject)
  | .frameNumber => do return reply (← stackFrameFrameNumber ⟨frame, thd⟩)
  | .instructionOffset => do return reply (← stackFrameInstructionOffset ⟨frame, thd⟩)
  | .locals => do return replyArray (← stackFrameGetLocals ⟨frame, thd⟩)
  | .args => do return replyArray (← stackFrameGetArgs ⟨frame, thd⟩)

/-! ## Integers -/

theorem fixnum?_ofInt {i : ℤ} (h : fixable i = true) :
    fixnum? (BitVec.ofInt 64 (2 * i + 1)) = some i := by
  have hrange : -2 ^ 30 ≤ i ∧ i < 2 ^ 30 := by simpa [fixable] using h
  have hword : (BitVec.ofInt 64 (2 * i + 1)).toInt = 2 * i + 1 := by
    rw [BitVec.toInt_ofInt, Int.bmod_eq_of_le_mul_two (by omega) (by omega)]
  have hhalf : (2 * i + 1) / 2 = i := by omega
  have hodd : (2 * i + 1) % 2 = 1 := by omega
  rw [fixnum?, hword, hhalf, if_pos ⟨hodd, h⟩]

theorem reply_integer (i : ℤ) : reply (integer i) = .integer (BitVec.ofInt 64 i) := by
  rw [integer]
  split_ifs with h
  · rw [reply, fixnum?_ofInt h]
  · rfl

theorem ofInt_toNat {n : ℕ} (i : BitVec n) : BitVec.ofInt 64 (i.toNat : ℤ) = i.setWidth 64 := by
  rw [BitVec.ofInt_natCast, BitVec.ofNat_toNat]

/-- `INT2FIX` of a small integer is that `Integer`. -/
theorem reply_INT2FIX {i : BitVec 64} (h : i.toNat < 2 ^ 30) : reply (INT2FIX i) = .integer i := by
  have hinteger : INT2FIX i = integer i.toNat := (INT2FIX_eq_integer (by omega)).2 ⟨rfl, h⟩
  rw [hinteger, reply_integer, ofInt_toNat, BitVec.setWidth_eq]

theorem NUM2ULL_toNat (i : UINT64) : NUM2ULL i.toNat = pure i := by
  have hrange : -2 ^ 63 ≤ (i.toNat : ℤ) ∧ (i.toNat : ℤ) < 2 ^ 64 := by omega
  rw [NUM2ULL, if_pos hrange, ofInt_toNat, BitVec.setWidth_eq]

theorem NUM2ULONG_toNat (i : ULONG) : NUM2ULONG i.toNat = pure i := by
  have hrange : -2 ^ 31 ≤ (i.toNat : ℤ) ∧ (i.toNat : ℤ) < 2 ^ 32 := by omega
  rw [NUM2ULONG, if_pos hrange, BitVec.ofInt_natCast, BitVec.ofNat_toNat, BitVec.setWidth_eq]

theorem NUM2INT_toInt (i : CInt) : NUM2INT i.toInt = pure i := by
  have hrange : -2 ^ 31 ≤ i.toInt ∧ i.toInt < 2 ^ 31 := ⟨i.le_toInt, i.toInt_lt⟩
  rw [NUM2INT, if_pos hrange, BitVec.ofInt_toInt]

/-! ## Functions that raise like those of the classes -/

variable {α β : Type} {R : α → β → Prop}

theorem ruby_pure (a : α) : ruby (pure a) = pure a := rfl

theorem attempt_ruby (f : RubyM α) :
    (ruby f).attempt = f.attempt >>= fun r => .done (r.mapError ModuleError.ruby) := rfl

theorem refines_ruby {f : RubyM α} {g : ApiM β} (h : Refines R f g) : Refines R (ruby f) g := by
  rw [Refines, attempt_ruby, Dialogue.inl_bind]
  refine Covers.bind_left h ?_
  rintro _ _ (e | hab)
  · exact .done (.error _)
  · exact .done (.ok hab)

theorem settles_ruby_checkAbort :
    Settles quiet (.ok ()) ((ruby checkAbort).attempt.inl : Dialogue PyAnswer _) := by
  rw [attempt_ruby, Dialogue.inl_bind]
  exact settles_rubyCheckAbort.bind rfl

/-! ## The module -/

/-- The value is the reply that the interface promises. -/
def Shows (v : RubyValue) (b : Reply Datum) : Prop := Promised (reply v) b

theorem shows_integer {n : ℕ} (i : BitVec n) :
    Shows (integer i.toNat) (.integer (i.setWidth 64)) := by
  rw [Shows, reply_integer, ofInt_toNat]
  exact .integer _

theorem readPtr_refines (addr : UINT64) :
    Refines Shows (readPtr addr.toNat) (ScriptApi.moduleCall (.readPtr addr)) := by
  rw [readPtr, NUM2ULL_toNat, ruby_pure]
  exact refines_checked_query settles_ruby_checkAbort ⟨rfl, fun _ => trivial⟩
    (fun _ _ h => ⟨_, if_pos h⟩) (fun _ _ h => if_neg h) fun a => refines_integer (shows_integer a)

theorem getPeb_refines : Refines Shows getPeb (ScriptApi.moduleCall .getPeb) :=
  refines_checked_query settles_rubyCheckAbort ⟨rfl, fun _ => trivial⟩
    (fun _ _ h => ⟨_, if_pos h⟩) (fun _ _ h => if_neg h) fun a => refines_integer (shows_integer a)

theorem fieldOffset_refines (type field : AnsiStr) :
    Refines Shows (fieldOffset type field) (ScriptApi.moduleCall (.fieldOffset type field)) :=
  refines_checked_query settles_ruby_checkAbort (visible_queryType fun _ => ⟨rfl, fun _ => trivial⟩)
    (fun _ _ h => ⟨_, if_pos h⟩) (fun _ _ h => if_neg h) fun a => refines_integer (shows_integer a)

theorem getTypeSize_refines (type : AnsiStr) :
    Refines Shows (getTypeSize type) (ScriptApi.moduleCall (.getTypeSize type)) :=
  refines_checked_query settles_ruby_checkAbort (visible_queryType fun _ => ⟨rfl, fun _ => trivial⟩)
    (fun _ _ h => ⟨_, if_pos h⟩) (fun _ _ h => if_neg h) fun a => refines_integer (shows_integer a)

theorem getNearestSym_refines (addr : UINT64) :
    Refines Shows (getNearestSym addr.toNat) (ScriptApi.moduleCall (.getNearestSym addr)) := by
  rw [getNearestSym, NUM2ULL_toNat, ruby_pure]
  exact refines_checked_query settles_ruby_checkAbort (visible_utilGetNearestSymbol addr)
    (fun _ _ h => ⟨_, if_pos h⟩) (fun _ _ h => if_neg h) fun _ => refines_text (.text _)

theorem rbReadBytes_refines (addr : UINT64) (count : ULONG) :
    Refines Shows (rbReadBytes addr count.toNat) (bytesAt addr count) := by
  rw [rbReadBytes, NUM2ULONG_toNat]
  refine refines_query ⟨rfl, fun _ => trivial⟩ ?_ ?_
  · intro hr bytes hf
    simp only [hf, if_true]
    exact refines_throw _
  · intro hr bytes hf
    simp only [hf]
    exact refines_pure (.text _)

theorem readBytes_refines (addr : UINT64) (count : ULONG) :
    Refines Shows (readBytes addr.toNat count.toNat) (bytesAt addr count) := by
  refine refines_settle settles_rubyCheckAbort ?_
  rw [NUM2ULL_toNat, Throws.pure_bind]
  exact rbReadBytes_refines addr count

theorem rbReadString_refines (addr : UINT64) (count : Option CInt) :
    Refines Shows (rbReadString addr (count.getD (-1))) (stringAt addr count) := by
  rw [rbReadString, stringAt]
  split_ifs with hbad
  · exact refines_throw _
  · refine refines_query ⟨rfl, fun _ => trivial⟩ ?_ ?_
    · intro hr buf hf
      simp only [hf, if_true]
      exact refines_throw _
    · intro hr buf hf
      simp only [hf]
      exact refines_text (.text _)

theorem stringArgs_optArg (addr : UINT64) (count : Option CInt) :
    stringArgs addr.toNat (optArg count) = pure (addr, count.getD (-1)) := by
  cases count with
  | none =>
    show (NUM2ULL addr.toNat >>= fun addr => pure (addr, (-1 : CInt))) = _
    rw [NUM2ULL_toNat]
    rfl
  | some n =>
    show (NUM2INT n.toInt >>= fun count =>
      NUM2ULL addr.toNat >>= fun addr => pure (addr, count)) = _
    rw [NUM2INT_toInt, NUM2ULL_toNat]
    rfl

theorem readString_refines (addr : UINT64) (count : Option CInt) :
    Refines Shows (readString addr.toNat (optArg count)) (stringAt addr count) := by
  rw [readString, stringArgs_optArg]
  exact refines_settle settles_rubyCheckAbort (rbReadString_refines addr count)

theorem rbReadWideString_refines (addr : UINT64) (count : Option CInt) :
    Refines Shows (rbReadWideString addr (count.getD (-1))) (wideStringAt addr count) := by
  rw [rbReadWideString, wideStringAt]
  split_ifs with hbad
  · exact refines_throw _
  · refine refines_query (visible_utilReadWideString _ _) ?_ ?_
    · intro hr buf hf
      simp only [hf, if_true]
      exact refines_throw _
    · intro hr buf hf
      exact refines_unspecified _

theorem readWideString_refines (addr : UINT64) (count : Option CInt) :
    Refines Shows (readWideString addr.toNat (optArg count)) (wideStringAt addr count) := by
  rw [readWideString, stringArgs_optArg]
  exact refines_settle settles_rubyCheckAbort (rbReadWideString_refines addr count)

theorem searchMemory_refines (start size : UINT64) (pattern : List UInt8) (patGran : ULONG) :
    Refines Shows (searchMemory start.toNat size.toNat pattern patGran.toNat)
      (ScriptApi.moduleCall (.searchMemory start size pattern patGran)) := by
  rw [ScriptApi.moduleCall]
  split_ifs with hlen
  · exact refines_unspecified _
  · have hpattern : pattern.take (BitVec.ofNat 32 pattern.length).toNat = pattern := by
      rw [BitVec.toNat_ofNat, Nat.mod_eq_of_lt (by omega), List.take_length]
    rw [searchMemory, NUM2ULL_toNat, NUM2ULL_toNat, NUM2ULONG_toNat]
    refine refines_settle settles_ruby_checkAbort ?_
    show Refines Shows (Throws.lift (ask (.searchVirtual start size
      (pattern.take (BitVec.ofNat 32 pattern.length).toNat) patGran)) >>= _) _
    rw [hpattern]
    refine refines_query ⟨rfl, fun _ => trivial⟩ ?_ ?_
    · intro hr addr hf
      simp only [hf, if_true]
      split_ifs
      · exact refines_throw _
      · exact refines_throw _
      · exact refines_throw _
    · intro hr addr hf
      simp only [hf]
      exact refines_integer (shows_integer addr)

theorem resolveEnum_refines (type : AnsiStr) (value : UINT64) :
    Refines Shows (resolveEnum type value.toNat)
      (ScriptApi.moduleCall (.resolveEnum type value)) := by
  rw [resolveEnum, NUM2ULL_toNat]
  refine refines_settle settles_rubyCheckAbort (refines_symbolType (refines_throw _) ?_)
  intro typeInfo
  refine refines_query ⟨rfl, fun _ => trivial⟩ ?_ ?_
  · intro hr name hf
    simp only [hf, if_true]
    exact refines_throw _
  · intro hr name hf
    simp only [hf]
    exact refines_text (.text _)

/-! ## New objects -/

/-- The value is the object that the interface knows. -/
def ShowsDatum (v : RubyValue) (x : Datum) : Prop := ∃ o, v = .typedObject o ∧ Represents o x

theorem ShowsDatum.shows {v : RubyValue} {x : Datum} (h : ShowsDatum v x) :
    Shows v (.entity (.object x)) := by
  obtain ⟨o, rfl, h⟩ := h
  exact .entity (.object h)

theorem allocTypedObject_refines (e : ApiError) (size : ULONG) (name : Option AnsiStr)
    (typeId : ULONG) (moduleBase address : UINT64) (wantPointer : Bool) :
    Refines ShowsDatum (allocTypedObject size name typeId moduleBase address wantPointer)
      (orElse e (initObject size name typeId moduleBase address wantPointer)) :=
  refines_made e (made_dsInitializeTypedObject _ _ _ _ _ _ _) (visible_initObject _ _ _ _ _ _)
    (fun _ _ h => ⟨_, if_pos h⟩) (fun _ _ h => if_neg h) fun o _ h => ⟨o, rfl, h⟩

theorem allocTypedObjFromTypedData_refines (name : AnsiStr) (data : DebugTypedData) :
    Refines ShowsDatum (allocTypedObjFromTypedData name data) (orElse .raised (wrap name data)) :=
  refines_made .raised (made_dsWrapTypedData _ _ _) (visible_wrap _ _)
    (fun _ _ h => ⟨_, if_pos h⟩) (fun _ _ h => if_neg h) fun o _ h => ⟨o, rfl, h⟩

theorem createTypedObjectHelper_refines (type : AnsiStr) (addr : UINT64) (wantPointer : Bool) :
    Refines Shows (createTypedObjectHelper type addr.toNat wantPointer)
      (create type addr wantPointer) := by
  rw [createTypedObjectHelper, NUM2ULL_toNat]
  refine refines_settle settles_rubyCheckAbort (refines_symbolType (refines_throw _) ?_)
  intro typeInfo
  exact (allocTypedObject_refines .raised _ _ _ _ _ _).bind_right fun _ _ h => refines_pure h.shows

theorem getGlobal_refines (symbol : AnsiStr) :
    Refines Shows (getGlobal symbol) (ScriptApi.moduleCall (.getGlobal symbol)) := by
  refine refines_settle settles_rubyCheckAbort (refines_query ⟨rfl, fun _ => trivial⟩ ?_ ?_)
  · intro hr addr hf
    simp only [hf, if_true]
    exact refines_throw _
  · intro hr addr hf
    simp only [hf]
    refine refines_symbolType (refines_throw _) ?_
    intro typeInfo
    exact (allocTypedObject_refines .raised _ _ _ _ _ _).bind_right fun _ _ h =>
      refines_pure h.shows

/-! ## Threads -/

theorem currentThread_refines :
    Refines (fun thd b => Promised (.entity (.thread thd)) b) currentThread
      (ScriptApi.moduleCall .currentThread) := by
  refine refines_settle settles_rubyCheckAbort (refines_query ⟨rfl, fun _ => trivial⟩ ?_ ?_)
  · intro hr engineId hf
    simp only [hf, if_true]
    exact refines_throw _
  · intro hr engineId hf
    simp only [hf]
    refine refines_query ⟨rfl, fun _ => trivial⟩ ?_ ?_
    · intro hr threadId hf
      simp only [hf, if_true]
      exact refines_throw _
    · intro hr threadId hf
      simp only [hf]
      exact refines_pure (.entity (.thread _))

/-- An array of a length that is promised can be made. -/
theorem rbAryNew2_eq {n : ULONG} (h : ¬ maxLength < n.toNat) : rbAryNew2 n = pure [] := by
  have hn : n.toNat ≤ (2 ^ 31 - 1) / 8 := not_lt.mp h
  have hint : n.toInt = n.toNat := by
    rw [BitVec.toInt_eq_toNat_cond, if_pos (by omega)]
  have hneg : ¬ n.toInt < 0 := by omega
  have hmax : ¬ ARY_MAX_SIZE < n.toInt := by
    rw [ARY_MAX_SIZE, hint]
    omega
  rw [rbAryNew2, if_neg hneg, if_neg hmax]

theorem getThreads_refines :
    Refines (fun thds b => Promised (.entities (thds.map .thread)) b) getThreads
      (ScriptApi.moduleCall .getThreads) := by
  refine refines_settle settles_rubyCheckAbort (refines_query visible_utilCountThreads ?_ ?_)
  · intro hr cThreads hf
    simp only [hf, if_true]
    exact refines_throw _
  · intro hr cThreads hf
    simp only [hf]
    refine refines_query (visible_utilEnumThreads cThreads) ?_ ?_
    · intro hr ids hf
      simp only [hf, if_true]
      exact refines_throw _
    · intro hr ids hf
      simp only [hf]
      by_cases hlen : maxLength < cThreads.toNat
      · rw [if_pos hlen]
        exact refines_unspecified _
      · rw [if_neg hlen, rbAryNew2_eq hlen]
        exact refines_pure (promised_threads (threadsOf cThreads ids))

/-! ## Output -/

/-- Nothing is returned. -/
def ShowsNothing (_ : Unit) (b : Reply Datum) : Prop := b = .nothing

theorem startBuffering_refines :
    Refines ShowsNothing startBuffering (ScriptApi.moduleCall .startBuffering) :=
  refines_lift_right ⟨rfl, fun _ => trivial⟩ fun _ => refines_pure rfl

theorem stopBuffering_refines :
    Refines ShowsNothing stopBuffering (ScriptApi.moduleCall .stopBuffering) := by
  refine refines_settle settles_rubyCheckAbort (refines_lift_bind ⟨rfl, fun _ => trivial⟩ ?_)
  intro newVal
  split_ifs
  · exact refines_lift_bind ⟨rfl, fun _ => trivial⟩ fun _ => refines_throw _
  · exact refines_lift_right ⟨rfl, fun _ => trivial⟩ fun _ => refines_pure rfl
  · exact refines_pure rfl

theorem executeCommand_refines (command : AnsiStr) :
    Refines ShowsNothing (executeCommand command)
      (ScriptApi.moduleCall (.executeCommand command)) := by
  refine refines_settle settles_rubyCheckAbort (refines_lift_bind ⟨rfl, fun _ => trivial⟩ ?_)
  intro hr
  split_ifs
  · exact refines_throw _
  · exact refines_pure rfl

theorem moduleCall_refines (c : ModuleCall) :
    Refines Promised (moduleCall c) (ScriptApi.moduleCall c) := by
  cases c with
  | readPtr addr => exact (readPtr_refines addr).map fun _ _ h => h
  | readBytes addr count => exact (refines_ruby (readBytes_refines addr count)).map fun _ _ h => h
  | readString addr count => exact (refines_ruby (readString_refines addr count)).map fun _ _ h => h
  | readWideString addr count =>
    exact (refines_ruby (readWideString_refines addr count)).map fun _ _ h => h
  | fieldOffset type field => exact (fieldOffset_refines type field).map fun _ _ h => h
  | getTypeSize type => exact (getTypeSize_refines type).map fun _ _ h => h
  | getNearestSym addr => exact (getNearestSym_refines addr).map fun _ _ h => h
  | searchMemory start size pattern patGran =>
    exact (searchMemory_refines start size pattern patGran).map fun _ _ h => h
  | resolveEnum type value =>
    exact (refines_ruby (resolveEnum_refines type value)).map fun _ _ h => h
  | getGlobal symbol => exact (refines_ruby (getGlobal_refines symbol)).map fun _ _ h => h
  | createTypedObject type addr =>
    exact (refines_ruby (createTypedObjectHelper_refines type addr false)).map fun _ _ h => h
  | createTypedPointer type addr =>
    exact (refines_ruby (createTypedObjectHelper_refines type addr true)).map fun _ _ h => h
  | getPeb => exact (refines_ruby getPeb_refines).map fun _ _ h => h
  | currentThread => exact (refines_ruby currentThread_refines).map fun _ _ h => h
  | getThreads => exact (refines_ruby getThreads_refines).map fun _ _ h => h
  | startBuffering => exact (refines_ruby startBuffering_refines).map fun _ _ h => h ▸ .nothing
  | stopBuffering => exact (refines_ruby stopBuffering_refines).map fun _ _ h => h ▸ .nothing
  | executeCommand command =>
    exact (refines_ruby (executeCommand_refines command)).map fun _ _ h => h ▸ .nothing

/-! ## Values -/

theorem shows_ofNat {n : ℕ} (i : BitVec n) {k : ℕ} (hk : i.toNat = k) :
    Shows (integer i.toNat) (.integer (BitVec.ofNat 64 k)) := by
  rw [← hk, BitVec.ofNat_toNat]
  exact shows_integer i

theorem shows_INT2FIX {n : ℕ} (i : BitVec n) {k : ℕ} (hk : i.toNat = k) (hsmall : k < 2 ^ 30) :
    Shows (INT2FIX (i.setWidth 64)) (.integer (BitVec.ofNat 64 k)) := by
  have hword : (i.setWidth 64).toNat = k := by
    rw [BitVec.toNat_setWidth, hk, Nat.mod_eq_of_lt (by omega)]
  rw [Shows, reply_INT2FIX (by omega), ← BitVec.ofNat_toNat, hk]
  exact .integer _

theorem shows_LL2NUM (i : BitVec 64) : Shows (LL2NUM i) (.integer i) := by
  rw [Shows, LL2NUM, reply_integer, BitVec.ofInt_toInt]
  exact .integer i

theorem rbValueFromCValue_refines (o : DbgScriptTypedObject) (bytes : List UInt8) :
    Refines Shows (Dialogue.done (rbValueFromCValue (o.withValue bytes)) : RubyM RubyValue)
      (valueOf o.typedData bytes) := by
  have htd : (o.withValue bytes).typedData = o.typedData := rfl
  have hbyte : (o.withValue bytes).value.low 1 < 2 ^ 8 := by
    rw [← TypedObjectValue.toNat_byteVal]
    exact BitVec.isLt _
  have hword : (o.withValue bytes).value.low 2 < 2 ^ 16 := by
    rw [← TypedObjectValue.toNat_wordVal]
    exact BitVec.isLt _
  rw [rbValueFromCValue, valueOf, htd]
  cases o.typedData.tag with
  | PointerType =>
    exact refines_low o bytes 8 (refines_pure (shows_ofNat _ (TypedObjectValue.toNat_ui64Val _)))
  | Enum =>
    exact refines_low o bytes 4 (refines_pure (shows_ofNat _ (TypedObjectValue.toNat_dwVal _)))
  | ArrayType | BaseType | other tag =>
    cases o.typedData.baseTypeId with
    | CHAR => exact refines_low o bytes 1 (refines_text (.text _))
    | INT8 | UINT8 =>
      refine refines_low o bytes 1 (refines_pure ?_)
      exact shows_INT2FIX _ (TypedObjectValue.toNat_byteVal _) (by omega)
    | INT16 | UINT16 =>
      refine refines_low o bytes 2 (refines_pure ?_)
      exact shows_INT2FIX _ (TypedObjectValue.toNat_wordVal _) (by omega)
    | WCHAR => exact refines_unspecified _
    | INT32 | LONG32 =>
      refine refines_low o bytes 4 ?_
      split_ifs with hsmall
      · exact refines_pure (shows_INT2FIX _ (TypedObjectValue.toNat_dwVal _) hsmall)
      · exact refines_unspecified _
    | UINT32 | ULONG32 =>
      exact refines_low o bytes 4 (refines_pure (shows_ofNat _ (TypedObjectValue.toNat_dwVal _)))
    | INT64 => exact refines_low o bytes 8 (refines_pure (shows_LL2NUM _))
    | UINT64 =>
      exact refines_low o bytes 8 (refines_pure (shows_ofNat _ (TypedObjectValue.toNat_ui64Val _)))
    | BOOL => exact refines_low o bytes 1 (refines_pure (.boolean _))
    | FLOAT32 => exact refines_low o bytes 4 (refines_pure (.single _))
    | FLOAT64 => exact refines_low o bytes 8 (refines_pure (.double _))
    | other id => exact refines_throw _

/-! ## Typed objects -/

section TypedObject

variable {o : DbgScriptTypedObject} {x : Datum}

/-- What the method does once the checks have been made. -/
def valueAfter (o : DbgScriptTypedObject) : Except RubyError Unit → DsM Outcome
  | .error err => .done (o, .error err)
  | .ok () => readTypedData o >>= fun r =>
    if FAILED r.2 then
      .done (r.1,
        .error (.raised .RuntimeError "Failed to read typed data. Error 0x%08x." [.hr r.2]))
    else .done (r.1, rbValueFromCValue r.1)

theorem checkTypedData_of_valid (hvalid : o.typedDataValid = true) :
    checkTypedData o = pure () := by
  simp [checkTypedData, hvalid]

theorem typedObjectValue_eq (hvalid : o.typedDataValid = true) :
    typedObjectValue o = checkAbort.attempt >>= fun r =>
      (Throws.andThen (fun _ => if !dsTypedObjectIsPrimitive o then
        rbRaise .TypeError "Not a primitive type." [] else pure ()) r) >>= valueAfter o := by
  rw [typedObjectValue]
  simp only [checkTypedData_of_valid hvalid, Throws.pure_bind]
  exact Dialogue.bind_assoc _ _ _

theorem value_refines (h : Represents o x) :
    RefinesOn Shows x (typedObjectValue o) (ScriptApi.objectCall x .value) := by
  refine refinesOn_typed h fun hvalid => ?_
  rw [typedObjectValue_eq hvalid]
  refine refinesOn_settle settles_rubyCheckAbort ?_
  rw [Throws.andThen_ok, isPrimitive_eq]
  by_cases hprim : isPrimitive o.typedData = true
  · rw [if_pos hprim, hprim]
    refine refinesOn_readTypedData h (fun hr hf => ⟨_, if_pos hf⟩) ?_
    intro hr bytes hf
    simp only [hf]
    exact refinesOn_reading (h.withValue bytes) (rbValueFromCValue_refines o bytes)
  · rw [if_neg hprim]
    simp only [hprim]
    exact .done ⟨h, .error _⟩

theorem getter_text {s : List CHAR} : Refines Shows (getter (.string s)) (text s) :=
  refines_settle settles_rubyCheckAbort (refines_text (.text s))

theorem getter_integer {n : ℕ} (i : BitVec n) :
    Refines Shows (getter (integer i.toNat)) (ScriptApi.integer i) :=
  refines_settle settles_rubyCheckAbort (refines_integer (shows_integer i))

theorem getElement_refines (index : UINT64) (name : AnsiStr) :
    Refines Shows (getElement o index name)
      (elementOf o.typedData index >>= fun elem => object (wrap name elem)) := by
  refine refines_yields (rel_dsTypedObjectGetArrayElement o index) (visible_elementOf _ _) ?_ ?_
  · intro hr data hf
    simp only [hf, if_true]
    exact refines_throw _
  · intro hr data hf
    simp only [hf]
    exact (allocTypedObjFromTypedData_refines name data).bind_right fun _ _ h =>
      refines_pure h.shows

theorem deref_refines (h : Represents o x) :
    RefinesOn Shows x (reading o (typedObjectDeref o)) (ScriptApi.objectCall x .deref) := by
  refine refinesOn_typed h fun hvalid => refinesOn_reading h ?_
  refine refines_settle settles_rubyCheckAbort ?_
  rw [checkTypedData_of_valid hvalid, Throws.pure_bind, ← h.name, cstrOfChars_str]
  exact getElement_refines 0 _

theorem element_refines (h : Represents o x) (index : ℕ) :
    RefinesOn Shows x (reading o (typedObjectGetItem o (.integer index)))
      (ScriptApi.objectCall x (.element index)) := by
  refine refinesOn_typed h fun hvalid => refinesOn_reading h ?_
  refine refines_settle settles_rubyCheckAbort ?_
  rw [checkTypedData_of_valid hvalid, Throws.pure_bind]
  split_ifs with hindex
  · have hint : NUM2INT (index : ℤ) = pure (BitVec.ofNat 32 index) := by
      rw [NUM2INT, if_pos (by omega), BitVec.ofInt_natCast]
    have hnat : (BitVec.ofNat 32 index).toNat = index := by
      rw [BitVec.toNat_ofNat, Nat.mod_eq_of_lt (by omega)]
    have hext : (BitVec.ofNat 32 index).signExtend 64 = BitVec.ofNat 64 index := by
      rw [BitVec.signExtend_eq_setWidth_of_msb_false
        (BitVec.msb_eq_false_iff_two_mul_lt.2 (by omega)), ← BitVec.ofNat_toNat, hnat]
    show Refines Shows (NUM2INT (index : ℤ) >>= _) _
    rw [hint, Throws.pure_bind, hext]
    exact getElement_refines _ _
  · exact refines_unspecified _

theorem field_refines (h : Represents o x) (name : AnsiStr) :
    RefinesOn Shows x (reading o (typedObjectGetItem o (.string name.chars)))
      (ScriptApi.objectCall x (.field name)) := by
  refine refinesOn_typed h fun hvalid => refinesOn_reading h ?_
  refine refines_settle settles_rubyCheckAbort ?_
  rw [checkTypedData_of_valid hvalid, Throws.pure_bind]
  split_ifs
  · simp only [cstrOfChars_chars]
    refine refines_yields (rel_dsTypedObjectGetField o name) (visible_fieldOf _ _) ?_ ?_
    · intro hr data hf
      simp only [hf, if_true]
      exact refines_throw _
    · intro hr data hf
      simp only [hf]
      exact (allocTypedObjFromTypedData_refines name data).bind_right fun _ _ h =>
        refines_pure h.shows
  · exact refines_unspecified _

theorem length_refines (h : Represents o x) :
    RefinesOn Shows x (reading o (typedObjectLength o)) (ScriptApi.objectCall x .length) := by
  refine refinesOn_typed h fun hvalid => refinesOn_reading h ?_
  refine refines_settle settles_rubyCheckAbort ?_
  rw [checkTypedData_of_valid hvalid, Throws.pure_bind]
  split_ifs
  · exact refines_throw _
  · refine refines_yields (rel_dsTypedObjectGetArrayElement o 0) (visible_elementOf _ _) ?_ ?_
    · intro hr data hf
      simp only [hf, if_true]
      exact refines_throw _
    · intro hr data hf
      simp only [hf]
      exact refines_lift_bind (visible_ulongDiv _ _) fun n => refines_integer (shows_integer n)

theorem countArg_optArg (count : Option CInt) :
    countArg (optArg count) = pure (count.getD (-1)) := by
  cases count with
  | none => rfl
  | some n => exact NUM2INT_toInt n

theorem objectReadString_refines (h : Represents o x) (count : Option CInt) :
    RefinesOn Shows x (reading o (typedObjectReadString o (optArg count)))
      (ScriptApi.objectCall x (.readString count)) := by
  refine refinesOn_typed h fun hvalid => refinesOn_reading h ?_
  refine refines_settle settles_rubyCheckAbort ?_
  rw [checkTypedData_of_valid hvalid, Throws.pure_bind, countArg_optArg, Throws.pure_bind]
  exact rbReadString_refines o.typedData.offset count

theorem objectReadWideString_refines (h : Represents o x) (count : Option CInt) :
    RefinesOn Shows x (reading o (typedObjectReadWideString o (optArg count)))
      (ScriptApi.objectCall x (.readWideString count)) := by
  refine refinesOn_typed h fun hvalid => refinesOn_reading h ?_
  refine refines_settle settles_rubyCheckAbort ?_
  rw [checkTypedData_of_valid hvalid, Throws.pure_bind, countArg_optArg, Throws.pure_bind]
  exact rbReadWideString_refines o.typedData.offset count

theorem objectReadBytes_refines (h : Represents o x) (count : ULONG) :
    RefinesOn Shows x (reading o (typedObjectReadBytes o count.toNat))
      (ScriptApi.objectCall x (.readBytes count)) := by
  refine refinesOn_reading h (refines_settle settles_rubyCheckAbort ?_)
  rw [ScriptApi.objectCall, ← h.address]
  exact rbReadBytes_refines o.typedData.offset count

theorem getRuntimeObj_refines (h : Represents o x) :
    RefinesOn Shows x (reading o (typedObjectGetRuntimeObj o))
      (ScriptApi.objectCall x .runtimeObject) := by
  refine refinesOn_typed h fun _ => refinesOn_reading h ?_
  refine refines_settle settles_rubyCheckAbort ?_
  rw [← h.name]
  exact refines_runtimeObject (fun _ _ hf => ⟨_, if_pos hf⟩) (fun _ _ hf => if_neg hf)
    fun _ _ hx => .entity (.object hx)

theorem objectCall_refines (h : Represents o x) (c : ObjectCall) :
    RefinesOn Shows x (objectCall o c) (ScriptApi.objectCall x c) := by
  cases c with
  | name =>
    rw [ScriptApi.objectCall, ← h.name]
    exact refinesOn_reading h getter_text
  | type =>
    rw [ScriptApi.objectCall, ← h.typeName]
    exact refinesOn_reading h getter_text
  | module =>
    rw [ScriptApi.objectCall, ← h.moduleName]
    exact refinesOn_reading h getter_text
  | size =>
    rw [ScriptApi.objectCall, ← h.size]
    exact refinesOn_reading h (getter_integer _)
  | address =>
    rw [ScriptApi.objectCall, ← h.address]
    exact refinesOn_reading h (getter_integer _)
  | value => exact value_refines h
  | deref => exact deref_refines h
  | field name => exact field_refines h name
  | element index => exact element_refines h index
  | length => exact length_refines h
  | readString count => exact objectReadString_refines h count
  | readWideString count => exact objectReadWideString_refines h count
  | readBytes count => exact objectReadBytes_refines h count
  | runtimeObject => exact getRuntimeObj_refines h

end TypedObject

/-! ## Threads and frames -/

theorem threadGetTeb_refines (thd : DbgScriptThread) :
    Refines Shows (threadGetTeb thd) (ScriptApi.threadCall thd .teb) :=
  refines_checked_query settles_rubyCheckAbort ⟨rfl, fun _ => trivial⟩
    (fun _ _ h => ⟨_, if_pos h⟩) (fun _ _ h => if_neg h) fun a => refines_integer (shows_integer a)

theorem threadCurrentFrame_refines (thd : DbgScriptThread) :
    Refines (fun frame b => Promised (.entity (frameEntity frame)) b) (threadCurrentFrame thd)
      (ScriptApi.threadCall thd .currentFrame) :=
  refines_checked_query settles_rubyCheckAbort ⟨rfl, fun _ => trivial⟩
    (fun _ _ h => ⟨_, if_pos h⟩) (fun _ _ h => if_neg h)
    fun frame => refines_pure (.entity (.frame frame thd))

theorem threadGetStack_refines (thd : DbgScriptThread) :
    Refines (fun frames b => Promised (.entities (frames.map frameEntity)) b) (threadGetStack thd)
      (ScriptApi.threadCall thd .stack) := by
  refine refines_checked_query settles_rubyCheckAbort ⟨rfl, fun _ => trivial⟩
    (fun _ _ h => ⟨_, if_pos h⟩) (fun _ _ h => if_neg h) ?_
  intro frames
  have hstack : (List.range (min frames.length maxFrames)).map
      (fun i => (⟨frames.getD i default, thd⟩ : ThreadFrame)) =
        (frames.take maxFrames).map fun frame => ⟨frame, thd⟩ := by
    rw [← range_map_getD, List.map_map]
    rfl
  refine refines_pure ?_
  rw [hstack, List.map_map]
  exact promised_frames (frames.take maxFrames) thd

theorem threadCall_refines (thd : DbgScriptThread) (c : ThreadCall) :
    Refines Promised (threadCall thd c) (ScriptApi.threadCall thd c) := by
  cases c with
  | engineId => exact (getter_integer thd.engineId).map fun _ _ h => h
  | threadId => exact (getter_integer thd.threadId).map fun _ _ h => h
  | teb => exact (threadGetTeb_refines thd).map fun _ _ h => h
  | currentFrame => exact (threadCurrentFrame_refines thd).map fun _ _ h => h
  | stack => exact (threadGetStack_refines thd).map fun _ _ h => h

/-- The objects of the first `i` variables. -/
def Stored (i : ℕ) (ary : RubyArray) (xs : List Datum) : Prop :=
  ∃ objs, ary = objs.map (fun o => some (.typedObject o)) ∧ objs.length = i ∧
    List.Forall₂ Represents objs xs

theorem Stored.append {i : ℕ} {ary : RubyArray} {xs : List Datum} (h : Stored i ary xs)
    {v : RubyValue} {x : Datum} (hv : ShowsDatum v x) :
    Stored (i + 1) (rbAryStore ary i v) (xs ++ [x]) := by
  obtain ⟨objs, rfl, rfl, hobjs⟩ := h
  obtain ⟨o, rfl, ho⟩ := hv
  refine ⟨objs ++ [o], ?_, by simp, List.rel_append hobjs (.cons ho .nil)⟩
  have hstore := rbAryStore_length (objs.map fun o => some (.typedObject o)) (.typedObject o)
  rw [List.length_map] at hstore
  rw [hstore, List.map_append]
  rfl

theorem mapM_object? (objs : List DbgScriptTypedObject) :
    (objs.map fun o => some (RubyValue.typedObject o)).mapM object? = some objs := by
  induction objs with
  | nil => rfl
  | cons o objs ih => simp [object?, ih]

theorem Stored.promised {i : ℕ} {ary : RubyArray} {xs : List Datum} (h : Stored i ary xs) :
    Promised (replyArray ary) (.entities (xs.map .object)) := by
  obtain ⟨objs, rfl, -, hobjs⟩ := h
  rw [replyArray, mapM_object?]
  exact promised_objects hobjs

theorem getVariablesHelper_refines (frame : DbgScriptStackFrame) (thd : DbgScriptThread)
    (flags : ULONG) :
    Refines (fun ary b => Promised (replyArray ary) b) (getVariablesHelper frame thd flags)
      (frameVariables frame thd flags) := by
  refine refines_settle settles_rubyCheckAbort (refines_query ⟨rfl, fun _ => trivial⟩ ?_ ?_)
  · intro hr numSym hf
    simp only [hf, if_true]
    exact refines_throw _
  · intro hr numSym hf
    simp only [hf]
    by_cases hlen : maxLength < numSym.toNat
    · rw [if_pos hlen]
      exact refines_unspecified _
    · rw [if_neg hlen, rbAryNew2_eq hlen]
      have hcall : ∀ i acc objs entry symName, Stored i acc objs →
          Refines (Appended Stored i) (buildArrayFromLocals acc entry symName i)
            (appendVariable objs entry symName) := by
        intro i acc objs entry symName hacc
        refine (allocTypedObject_refines .unspecified _ _ _ _ _ _).bind ?_
        intro v x hv
        exact refines_pure ⟨rfl, hacc.append hv⟩
      refine (refines_variables hcall numSym ⟨[], rfl, rfl, .nil⟩).bind ?_
      intro _ _ hr
      cases hr with
      | failed acc h =>
        simp only [h, if_true]
        exact refines_throw _
      | all h hobjs =>
        simp only [h]
        exact refines_pure hobjs.promised

theorem frameCall_refines (frame : DbgScriptStackFrame) (thd : DbgScriptThread) (c : FrameCall) :
    Refines Promised (frameCall frame thd c) (ScriptApi.frameCall frame thd c) := by
  cases c with
  | frameNumber =>
    exact (refines_integer (shows_integer frame.frameNumber)).map fun _ _ h => h
  | instructionOffset =>
    exact (refines_integer (shows_integer frame.instructionOffset)).map fun _ _ h => h
  | locals => exact (getVariablesHelper_refines frame thd _).map fun _ _ h => h
  | args => exact (getVariablesHelper_refines frame thd _).map fun _ _ h => h

end DbgScript.Ruby
