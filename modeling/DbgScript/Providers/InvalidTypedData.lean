import DbgScript.Lua.TypedObject
import DbgScript.Python.TypedObject
import DbgScript.Ruby.TypedObject

/-!
# Objects without typed data

An object made at address 0, or for an optimised-away local, has `TypedDataValid` unset:
its typed data must not reach the debugger. Every access checks that by hand.

* `typedDataValid_initialize_null`: an object at address 0 is such an object.
* `Lua.refused_perform`, `Ruby.refused_perform`, `Python.fails_perform`: the accesses that
  make the check end in an error and leave the typed data alone.
* `invalid_rejected_iff`: the two accesses that do not make it.
-/

namespace DbgScript

open Python (PyAnswers PyAnswer)

/-- The requests that hand an object's typed data to the debugger. -/
def Request.usesTypedData : Request → Bool
  | .getField _ _ | .getArrayElement _ _ | .readTypedData _ _ _ => true
  | .readMultiByteString _ _ _ | .readUnicodeString _ _ _ => true
  | _ => false

/-! ## Objects at address 0 -/

theorem typedDataValid_fillTypeAndModuleName {typObj : DbgScriptTypedObject} {valid : Bool}
    (h : typObj.typedDataValid = valid) (typeId : ULONG) (moduleBase : UINT64) :
    (fillTypeAndModuleName typeId moduleBase typObj).Leaves
      fun r => r.1.typedDataValid = valid := by
  simp only [fillTypeAndModuleName, ask, Dialogue.request, Dialogue.ask_bind, Dialogue.done_bind]
  intro typeName
  rcases typeName with _ | typeName
  · simpa [outputError] using h
  · intro modName
    rcases modName with _ | modName <;> simpa [outputError] using h

theorem typedDataValid_initializeNames {typObj : DbgScriptTypedObject} {valid : Bool}
    (h : typObj.typedDataValid = valid) (name : Option AnsiStr) (typeId : ULONG)
    (moduleBase : UINT64) :
    (initializeNames name typeId moduleBase typObj).Leaves fun r => r.1.typedDataValid = valid := by
  rw [initializeNames]
  split
  · apply typedDataValid_fillTypeAndModuleName
    exact h
  · exact h

/-- An object at address 0 gets no typed data. -/
theorem typedDataValid_initialize_null {typObj : DbgScriptTypedObject} {valid : Bool}
    (h : typObj.typedDataValid = valid) (size : ULONG) (name : Option AnsiStr) (typeId : ULONG)
    (moduleBase : UINT64) (wantPointer : Bool) :
    (dsInitializeTypedObject size name typeId moduleBase 0 wantPointer typObj).Leaves
      fun r => r.1.typedDataValid = valid := by
  refine Dialogue.leaves_bind (typedDataValid_initializeNames h name typeId moduleBase) ?_
  rintro ⟨typObj', hr⟩ h
  by_cases hf : FAILED hr = true
  · simpa [hf] using h
  · simpa [hf] using h

/-! ## Functions that raise -/

section Raising

variable {ε α β : Type}

/-- The function ends in an error and makes no use of typed data. -/
abbrev Refuses (f : Throws Request.Answer ε α) : Prop := f.Fails fun r => r.usesTypedData = false

/-- The same for a function that also gives the object back. -/
def Refused (d : DsM (DbgScriptTypedObject × Except ε α)) : Prop :=
  (d.Leaves fun r => ∃ e, r.2 = .error e) ∧ d.Asks fun r => r.usesTypedData = false

theorem refused_error (typObj : DbgScriptTypedObject) (e : ε) :
    Refused (.done (typObj, (.error e : Except ε α))) := ⟨⟨e, rfl⟩, trivial⟩

/-- A failing computation, whatever is made of its result. -/
theorem Refuses.refused {f : Throws Request.Answer ε α} (h : Refuses f)
    {k : Except ε α → DsM (DbgScriptTypedObject × Except ε β)} (hk : ∀ e, Refused (k (.error e))) :
    Refused (f.attempt >>= k) := by
  constructor
  · refine Dialogue.leaves_bind h.error ?_
    rintro _ ⟨e, rfl⟩
    exact (hk e).1
  · refine Dialogue.asks_bind h.asks h.error ?_
    rintro _ ⟨e, rfl⟩
    exact (hk e).2

/-- Asking whether the user has interrupted the script comes before anything else. -/
theorem refused_utilCheckAbort {k : Bool → DsM (DbgScriptTypedObject × Except ε α)}
    (hk : ∀ b, Refused (k b)) : Refused (utilCheckAbort >>= k) := by
  constructor
  · exact fun hr => (hk _).1
  · exact ⟨rfl, fun hr => (hk _).2⟩

end Raising

variable {typObj : DbgScriptTypedObject}

/-! ## Lua -/

namespace Lua

/-- The names of `x_TypedObjectProps`. -/
def propertyNames : List (List CHAR) :=
  ["name", "size", "type", "module", "value", "address", "deref"].map ansi

/-- The ways to use an object's typed data: `obj:field(key)`, `obj.s` and `obj["s"]` for a
    name that is neither a method nor a property, `obj[i]`, `#obj`, `obj.deref`,
    `obj.value` and the string readers. -/
inductive Access where
  | field (key : Key)
  | byName (s : List CHAR) (hmeta : s ∉ metatable) (hprop : s ∉ propertyNames)
  | element (i : BitVec 64)
  | len
  | deref
  | value
  | readString (count : Option (BitVec 64))
  | readWideString (count : Option (BitVec 64))

/-- The call, on the block `mem` where it makes a new object. -/
def Access.perform (mem typObj : DbgScriptTypedObject) : Access → DsM Outcome
  | field key => reading typObj (typedObjectGetfield mem typObj key)
  | byName s _ _ => typedObjectIndex mem typObj (.string s)
  | element i => typedObjectIndex mem typObj (.integer i)
  | len => reading typObj (typedObjectLen typObj)
  | deref => typedObjectIndex mem typObj (.string (ansi "deref"))
  | value => typedObjectIndex mem typObj (.string (ansi "value"))
  | readString count => reading typObj (typedObjectReadString typObj count)
  | readWideString count => reading typObj (typedObjectReadWideString typObj count)

theorem property?_eq_none {mem : DbgScriptTypedObject} {s : List CHAR} (h : s ∉ propertyNames) :
    property? mem typObj s = none := by
  simp only [propertyNames, List.map_cons, List.map_nil, List.mem_cons, List.not_mem_nil,
    not_or] at h
  obtain ⟨h1, h2, h3, h4, h5, h6, h7, -⟩ := h
  simp [property?, h1, h2, h3, h4, h5, h6, h7]

theorem refuses_checkTypedData (h : typObj.typedDataValid = false) :
    Refuses (checkTypedData typObj) := by
  rw [checkTypedData, h]
  exact Throws.fails_throw _

/-- The two checks with which most functions begin. -/
theorem refuses_checks (h : typObj.typedDataValid = false) {α : Type} (f : Unit → LuaM α) :
    Refuses (checkAbort >>= fun _ => checkTypedData typObj >>= f) :=
  Throws.fails_bind (asks_checkAbort rfl) fun _ => (refuses_checkTypedData h).bind _

theorem refused_reading {f : LuaM LuaResult} (h : Refuses f) : Refused (reading typObj f) :=
  h.refused fun e => refused_error typObj e

theorem refused_getvalue (h : typObj.typedDataValid = false) :
    Refused (typedObjectGetvalue typObj) := by
  have hchecks := refuses_checks h fun _ =>
    if !dsTypedObjectIsPrimitive typObj then raise "not a primitive type." [] else pure ()
  exact hchecks.refused fun e => refused_error typObj e

theorem refuses_getElement {mem : DbgScriptTypedObject} {index : UINT64} {name : AnsiStr}
    (htag : typObj.typedData.tag ≠ .PointerType ∧ typObj.typedData.tag ≠ .ArrayType) :
    Refuses (getElement mem typObj index name) := by
  constructor <;>
    simp [getElement, dsTypedObjectGetArrayElement, htag, outputError, raise,
      Request.usesTypedData]

/-- `obj.deref` is the property, behind the check of the indexer. -/
theorem perform_deref (mem : DbgScriptTypedObject) :
    Access.deref.perform mem typObj = (do
      if ← utilCheckAbort then return (typObj, .error (.error "execution interrupted." []))
      else reading typObj (typedObjectDeref mem typObj)) := rfl

theorem perform_value (mem : DbgScriptTypedObject) :
    Access.value.perform mem typObj = (do
      if ← utilCheckAbort then return (typObj, .error (.error "execution interrupted." []))
      else typedObjectGetvalue typObj) := rfl

/-- The accesses that do not use the typed data of an object without. -/
def Access.Guarded (typObj : DbgScriptTypedObject) : Access → Prop
  | deref => typObj.typedData.tag ≠ .PointerType ∧ typObj.typedData.tag ≠ .ArrayType
  | _ => True

theorem refused_perform (h : typObj.typedDataValid = false) (mem : DbgScriptTypedObject)
    {access : Access} (hg : access.Guarded typObj) : Refused (access.perform mem typObj) := by
  have hindex : ∀ d : DsM Outcome, Refused d → Refused (do
      if ← utilCheckAbort then return (typObj, .error (.error "execution interrupted." []))
      else d) := by
    intro d hd
    refine refused_utilCheckAbort fun b => ?_
    cases b
    · exact hd
    · exact refused_error typObj _
  cases access with
  | field key => exact refused_reading (refuses_checks h _)
  | byName s hmeta hprop =>
    refine refused_utilCheckAbort fun b => ?_
    cases b
    · simp only [Bool.false_eq_true, if_false, if_neg hmeta, property?_eq_none hprop]
      exact refused_reading ((refuses_checkTypedData h).bind _)
    · exact refused_error typObj _
  | element i => exact hindex _ (refused_reading ((refuses_checkTypedData h).bind _))
  | len => exact refused_reading (refuses_checks h _)
  | deref =>
    rw [perform_deref]
    refine hindex _ (refused_reading ?_)
    exact Throws.fails_bind (asks_checkAbort rfl) fun _ => refuses_getElement hg
  | value =>
    rw [perform_value]
    exact hindex _ (refused_getvalue h)
  | readString count => exact refused_reading (refuses_checks h _)
  | readWideString count => exact refused_reading (refuses_checks h _)

/-- A pointer or an array is handed to the debugger, whether it has typed data or not. -/
theorem deref_asks_getArrayElement (mem : DbgScriptTypedObject)
    (htag : typObj.typedData.tag ≠ .PointerType → typObj.typedData.tag = .ArrayType)
    {a : DebuggerAnswers} (h0 : a 0 .getInterrupt ≠ S_OK) (h1 : a 1 .getInterrupt ≠ S_OK) :
    .getArrayElement typObj.typedData 0 ∈ ((Access.deref.perform mem typObj).run a 0).2 := by
  have hno : ¬ (typObj.typedData.tag ≠ .PointerType ∧ typObj.typedData.tag ≠ .ArrayType) :=
    fun ⟨hp, ha⟩ => ha (htag hp)
  rw [perform_deref]
  simp [h0, h1, reading, typedObjectDeref, checkAbort, getElement, dsTypedObjectGetArrayElement,
    hno]

end Lua

/-! ## Ruby -/

namespace Ruby

/-- The ways to use an object's typed data: `obj.name` for a name that no method has,
    `obj[key]`, `obj.length`, `obj.deref`, `obj.value` and the string readers. -/
inductive Access where
  | methodMissing (name : List CHAR)
  | getItem (key : Key)
  | length
  | deref
  | value
  | readString (argv : List ℤ)
  | readWideString (argv : List ℤ)

def Access.perform (typObj : DbgScriptTypedObject) : Access → DsM Outcome
  | methodMissing name => reading typObj (typedObjectMethodMissing typObj name)
  | getItem key => reading typObj (typedObjectGetItem typObj key)
  | length => reading typObj (typedObjectLength typObj)
  | deref => reading typObj (typedObjectDeref typObj)
  | value => typedObjectValue typObj
  | readString argv => reading typObj (typedObjectReadString typObj argv)
  | readWideString argv => reading typObj (typedObjectReadWideString typObj argv)

theorem refuses_checks (h : typObj.typedDataValid = false) {α : Type} (f : Unit → RubyM α) :
    Refuses (checkAbort >>= fun _ => checkTypedData typObj >>= f) := by
  refine Throws.fails_bind (asks_checkAbort rfl) fun _ => Throws.Fails.bind ?_ f
  rw [checkTypedData, h]
  exact Throws.fails_throw _

theorem refused_perform (h : typObj.typedDataValid = false) (access : Access) :
    Refused (access.perform typObj) := by
  have hreading : ∀ f : RubyM RubyValue, Refuses f → Refused (reading typObj f) :=
    fun f hf => hf.refused fun e => refused_error typObj e
  cases access with
  | methodMissing name =>
    refine hreading _ (Throws.fails_bind (asks_checkAbort rfl) fun _ => ?_)
    rw [h]
    exact Throws.fails_throw _
  | getItem key => exact hreading _ (refuses_checks h _)
  | length => exact hreading _ (refuses_checks h _)
  | deref => exact hreading _ (refuses_checks h _)
  | value =>
    have hchecks := refuses_checks h fun _ =>
      if !dsTypedObjectIsPrimitive typObj then rbRaise .TypeError "Not a primitive type." []
      else pure ()
    exact hchecks.refused fun e => refused_error typObj e
  | readString argv => exact hreading _ (refuses_checks h _)
  | readWideString argv => exact hreading _ (refuses_checks h _)

end Ruby

/-! ## Python -/

namespace Python

/-- The ways to use an object's typed data: `obj.name`, `obj[key]`, the sequence slots,
    `obj.deref`, `obj.value` and the string readers with their parsed arguments. -/
inductive Access where
  | getattro (name : List Char)
  | subscript (key : Key)
  | item (i : BitVec 64)
  | length
  | deref
  | value
  | readString (args : Except PyErr (Option CInt))
  | readWideString (args : Except PyErr (Option CInt))

def Access.perform (typObj : DbgScriptTypedObject) : Access → PyM PyObj
  | getattro name => typedObjectGetattro typObj name
  | subscript key => typedObjectMappingSubscript typObj key
  | item i => typedObjectSequenceGetItem typObj i
  | length => do
    let n ← typedObjectSequenceLength typObj
    return .int n
  | deref => typedObjectDeref typObj
  | value => typedObjectGetValueResult typObj
  | readString args => typedObjectReadString typObj args
  | readWideString args => typedObjectReadWideString typObj args

/-- Of the requests to the debugger, none uses typed data. -/
def NoTypedData (r : Request ⊕ PyCall) : Prop := ∀ q, r = .inl q → q.usesTypedData = false

/-- The accesses that do not use the typed data of an object without. -/
def Access.Guarded : Access → Prop
  | getattro name => isAscii name = false
  | _ => True

theorem noTypedData_getInterrupt : NoTypedData (.inl .getInterrupt) := by
  rintro _ ⟨⟩
  rfl

theorem fails_checkTypedData (h : typObj.typedDataValid = false) :
    Flagged.Fails NoTypedData (checkTypedData typObj) := by
  rw [checkTypedData, h]
  exact Flagged.fails_raise _

theorem fails_checks (h : typObj.typedDataValid = false) {α : Type} (f : Unit → PyM α) :
    Flagged.Fails NoTypedData (checkAbort >>= fun _ => checkTypedData typObj >>= f) :=
  Flagged.fails_bind (asks_checkAbort noTypedData_getInterrupt) fun _ =>
    (fails_checkTypedData h).bind f

theorem asks_asSsizeT (i : ℤ) (flag : Option PyErr) :
    ((asSsizeT i).attempt flag).Asks NoTypedData := by
  show (asSsizeT i flag).Asks NoTypedData
  rw [asSsizeT]
  split <;> trivial

theorem fails_getValue (h : typObj.typedDataValid = false) :
    Flagged.Fails NoTypedData (typedObjectGetValueResult typObj) := by
  have hchecks := fails_checks h fun _ =>
    if !dsTypedObjectIsPrimitive typObj then raise .ValueError "Not a primitive type." []
    else pure ()
  constructor
  · intro flag
    refine Dialogue.leaves_bind (Dialogue.leaves_bind (hchecks.null flag) ?_) fun r hr => hr
    rintro ⟨_, flag'⟩ rfl
    exact rfl
  · intro flag
    refine Dialogue.asks_bind (Dialogue.asks_bind (hchecks.asks flag) (hchecks.null flag) ?_)
      (Dialogue.leaves_true _) fun _ _ => trivial
    rintro ⟨_, flag'⟩ rfl
    trivial

/-- A name with a character that is not ASCII gets no further than its encoding. -/
theorem fails_asFieldName {name : List Char} (h : isAscii name = false) :
    Flagged.Fails NoTypedData (asFieldName name) := by
  rw [asFieldName, h]
  exact Flagged.fails_raise _

theorem fails_perform (h : typObj.typedDataValid = false) {access : Access}
    (hname : ∀ name, access ≠ .getattro name) :
    Flagged.Fails NoTypedData (access.perform typObj) := by
  cases access with
  | getattro name => exact absurd rfl (hname name)
  | subscript key =>
    refine Flagged.fails_bind (asks_checkAbort noTypedData_getInterrupt) fun _ => ?_
    cases key with
    | int i =>
      refine Flagged.fails_bind (asks_asSsizeT i) fun index => ?_
      split
      · exact Flagged.fails_null
      · exact fails_checks h _
    | str s => exact (fails_checkTypedData h).bind _
    | other => exact Flagged.fails_raise _
  | item i => exact fails_checks h _
  | length => exact ((fails_checkTypedData h).bind _).bind _
  | deref => exact fails_checks h _
  | value => exact fails_getValue h
  | readString args => exact fails_checks h _
  | readWideString args => exact fails_checks h _

theorem fails_attributeOrField {name : List Char} (h : isAscii name = false) (err : PyErr) :
    Flagged.Fails NoTypedData (attributeOrField typObj name (.error err)) := by
  rw [attributeOrField]
  split
  · exact Flagged.fails_raise _
  · exact Flagged.fails_bind (fun _ => trivial) fun _ => (fails_asFieldName h).bind _

theorem attempt_getattro (typObj : DbgScriptTypedObject) (name : List Char)
    (flag : Option PyErr) :
    (typedObjectGetattro typObj name).attempt flag =
      .ask (.inr (.genericGetAttr name)) fun r => (attributeOrField typObj name r).attempt flag :=
  rfl

theorem run_getattro (a : PyAnswers) (typObj : DbgScriptTypedObject) {name : List Char}
    {r : Except PyErr PyObj} (hr : a 0 (.inr (.genericGetAttr name)) = r) :
    ((typedObjectGetattro typObj name).attempt none).run a 0 =
      ((((attributeOrField typObj name r).attempt none).run a 1).1,
        .inr (.genericGetAttr name) ::
          (((attributeOrField typObj name r).attempt none).run a 1).2) := by
  rw [attempt_getattro, ← hr]
  rfl

/-- Nobody interrupts the script, and the class has no attributes. -/
def noAttributes : PyAnswers
  | _, .inl .getInterrupt => S_FALSE
  | _, .inl r => (default : r.Answer)
  | _, .inr (.genericGetAttr _) => (.error ⟨.AttributeError, "", []⟩ : Except PyErr PyObj)
  | _, .inr c => c.succeeds

theorem getattro_asks_getField (typObj : DbgScriptTypedObject) {name : List Char}
    (h : isAscii name = true) : ∃ fieldName, .inl (.getField typObj.typedData fieldName) ∈
      (((typedObjectGetattro typObj name).attempt none).run noAttributes 0).2 := by
  let chars : List CHAR := name.map fun c => c.toNat.toUInt8
  refine ⟨cstrOfChars chars, ?_⟩
  have hmade : (((newObject (.bytes chars)).attempt none).run noAttributes 1).1 =
      (some (.bytes chars), none) := by
    rw [run_newObject]
    rfl
  rw [run_getattro noAttributes typObj (r := .error ⟨.AttributeError, "", []⟩) rfl]
  apply List.mem_cons_of_mem
  simp [attributeOrField, asFieldName, h, chars, hmade, getFieldOf, ds, dsTypedObjectGetField]

end Python

/-! ## The law -/

inductive Access where
  | lua (access : Lua.Access)
  | python (access : Python.Access)
  | ruby (access : Ruby.Access)

/-- However the debugger answers, the access ends in an error and no request uses the
    object's typed data. In Lua that holds for any block of memory; in Python, for names
    that the class of the object does not define. -/
def Access.Rejected (typObj : DbgScriptTypedObject) : Access → Prop
  | lua access => ∀ (mem : DbgScriptTypedObject) (a : DebuggerAnswers),
    let (outcome, requests) := (access.perform mem typObj).run a 0
    (∃ e, outcome.2 = .error e) ∧ ∀ r ∈ requests, r.usesTypedData = false
  | ruby access => ∀ a : DebuggerAnswers,
    let (outcome, requests) := (access.perform typObj).run a 0
    (∃ e, outcome.2 = .error e) ∧ ∀ r ∈ requests, r.usesTypedData = false
  | python access => ∀ a : PyAnswers,
    (∀ n name, ∃ err, a n (.inr (.genericGetAttr name)) = (.error err : Except _ Python.PyObj)) →
    let (ret, requests) := ((access.perform typObj).attempt none).run a 0
    ret.1 = none ∧ ∀ r ∈ requests, Python.NoTypedData r

/-- The accesses that check for typed data before they use it. -/
def Access.Guarded (typObj : DbgScriptTypedObject) : Access → Prop
  | lua access => access.Guarded typObj
  | python access => access.Guarded
  | ruby _ => True

theorem Refused.run {ε α : Type} {d : DsM (DbgScriptTypedObject × Except ε α)} (h : Refused d)
    (a : DebuggerAnswers) :
    (∃ e, (d.run a 0).1.2 = .error e) ∧ ∀ r ∈ (d.run a 0).2, r.usesTypedData = false :=
  ⟨h.1.run 0, h.2.run 0⟩

theorem rejected_of_guarded (h : typObj.typedDataValid = false) {access : Access}
    (hg : access.Guarded typObj) : access.Rejected typObj := by
  cases access with
  | lua access => exact fun mem a => (Lua.refused_perform h mem hg).run a
  | ruby access => exact fun a => (Ruby.refused_perform h access).run a
  | python access =>
    intro a ha
    by_cases hname : ∃ name, access = .getattro name
    · obtain ⟨name, rfl⟩ := hname
      obtain ⟨err, herr⟩ := ha 0 name
      have hfails : (Python.attributeOrField typObj name (.error err)).Fails Python.NoTypedData :=
        Python.fails_attributeOrField hg err
      simp only [Python.Access.perform, Python.run_getattro a typObj herr, List.forall_mem_cons]
      exact ⟨(hfails.null none).run 1, fun _ hq => (by cases hq), (hfails.asks none).run 1⟩
    · have hfails := Python.fails_perform h fun name hn => hname ⟨name, hn⟩
      exact ⟨(hfails.null none).run 0, (hfails.asks none).run 0⟩

/-- An object without typed data is rejected by an access iff the access is none of the
    two that do not check. -/
theorem invalid_rejected_iff (access : Access) (h : typObj.typedDataValid = false) :
    access.Rejected typObj ↔ access.Guarded typObj := by
  refine ⟨?_, rejected_of_guarded h⟩
  intro hrej
  cases access with
  | ruby access => trivial
  | lua access =>
    cases access with
    | deref =>
      obtain ⟨-, hasked⟩ := hrej .zero (Dialogue.left Python.noAttributes)
      by_contra htag
      have hptr : typObj.typedData.tag ≠ .PointerType → typObj.typedData.tag = .ArrayType :=
        fun hp => by_contra fun ha => htag ⟨hp, ha⟩
      have hmem := Lua.deref_asks_getArrayElement .zero hptr
        (a := Dialogue.left Python.noAttributes) (by decide) (by decide)
      exact Bool.noConfusion (hasked _ hmem)
    | _ => trivial
  | python access =>
    cases access with
    | getattro name =>
      obtain ⟨-, hasked⟩ := hrej Python.noAttributes fun _ _ => ⟨_, rfl⟩
      by_contra hname
      rw [Access.Guarded, Python.Access.Guarded, Bool.not_eq_false] at hname
      obtain ⟨fieldName, hmem⟩ := Python.getattro_asks_getField typObj hname
      exact Bool.noConfusion (hasked _ hmem _ rfl)
    | _ => trivial

theorem invalid_rejected_subscript :
    Access.Rejected .zero (.python (.subscript (.str ['x']))) ↔
      Access.Guarded .zero (.python (.subscript (.str ['x']))) :=
  invalid_rejected_iff _ rfl
/-- `type(obj)().x` sends zeroed typed data to the debugger. -/
theorem invalid_object_reaches_debugger :
    ¬ Access.Rejected .zero (.python (.getattro ['x'])) := by
  intro hrej
  obtain ⟨-, hasked⟩ := hrej Python.noAttributes fun _ _ => ⟨_, rfl⟩
  have hascii : Python.isAscii ['x'] = true := by decide
  obtain ⟨fieldName, hmem⟩ := Python.getattro_asks_getField .zero hascii
  exact Bool.noConfusion (hasked _ hmem _ rfl)

end DbgScript
