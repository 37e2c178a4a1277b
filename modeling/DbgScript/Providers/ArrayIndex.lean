import DbgScript.Providers.IntegerValues

/-!
# The element that an integer key selects

`obj[i]` in the three providers. Each has a conversion of its own from the integers of its
language to the 64-bit index of an `EXT_TDOP_GET_ARRAY_ELEMENT` request.

* `elements_getElement` (for each language): reaching an element is one such request.
* `sends_index_iff`: for which keys the request is made, with the index that was written.
-/

namespace DbgScript

open Python (PyAnswer PyAnswers PyCall)

/-! ## Specification -/

/-- An `EXT_TDOP_GET_ARRAY_ELEMENT` request. -/
def Request.asksElement : Request → Bool
  | .getArrayElement _ _ => true
  | _ => false

def asksElement : Request ⊕ PyCall → Bool := Sum.elim Request.asksElement fun _ => false

/-- `obj[i]`; in Lua, whose integers have 64 bits, for `-2 ^ 63 ≤ i < 2 ^ 63`. `mem` is the
    block for the new object. -/
def Language.index (l : Language) (mem typObj : DbgScriptTypedObject) (i : ℤ) :
    Dialogue PyAnswer Unit :=
  match l with
  | .lua =>
    (Lua.typedObjectIndex mem typObj (.integer (BitVec.ofInt 64 i))).inl >>= fun _ => pure ()
  | .python =>
    (Python.typedObjectMappingSubscript typObj (.int i)).attempt none >>= fun _ => pure ()
  | .ruby => (Ruby.typedObjectGetItem typObj (.integer i)).attempt.inl >>= fun _ => pure ()

/-- One element is asked for, the one that `i` denotes modulo `2 ^ 64`. -/
def SendsIndex (l : Language) (a : PyAnswers) (mem typObj : DbgScriptTypedObject) (i : ℤ) : Prop :=
  ((l.index mem typObj i).run a 0).2.filter asksElement =
    [.inl (.getArrayElement typObj.typedData (BitVec.ofInt 64 i))]

/-- The user does not interrupt the script, and the key survives the conversion: Python
    takes `-1` for an error, and Ruby makes an `int` of the key. -/
def KeyReaches (l : Language) (a : PyAnswers) (i : ℤ) : Prop :=
  Dialogue.left a 0 .getInterrupt ≠ S_OK ∧
    match l with
    | .lua => True
    | .python => i ≠ -1 ∧ Dialogue.left a 1 .getInterrupt ≠ S_OK
    | .ruby => -2 ^ 31 ≤ i ∧ i < 2 ^ 31

/-! ## Elements -/

variable {typObj : DbgScriptTypedObject}

theorem asks_dsWrapTypedData (name : AnsiStr) (typedData : DebugTypedData)
    (typObj : DbgScriptTypedObject) :
    (dsWrapTypedData name typedData typObj).Asks fun r => r.asksElement = false :=
  asks_fillTypeAndModuleName (fun _ => rfl) (fun _ => rfl) (fun _ _ => rfl) _ _ _

theorem elements_dsTypedObjectGetArrayElement
    (htag : typObj.typedData.tag ≠ .PointerType → typObj.typedData.tag = .ArrayType)
    (index : UINT64) (a : DebuggerAnswers) (n : ℕ) :
    ((dsTypedObjectGetArrayElement typObj index).run a n).2.filter Request.asksElement =
      [.getArrayElement typObj.typedData index] := by
  have hno : ¬ (typObj.typedData.tag ≠ .PointerType ∧ typObj.typedData.tag ≠ .ArrayType) :=
    fun ⟨hp, ha⟩ => ha (htag hp)
  rw [dsTypedObjectGetArrayElement, if_neg hno]
  by_cases hf : FAILED (a n (.getArrayElement typObj.typedData index)).1 = true
  · simp [hf, outputError, List.filter_cons, Request.asksElement]
  · simp [hf, Request.asksElement]

theorem filter_map_inl (qs : List Request) :
    (qs.map Sum.inl).filter asksElement = (qs.filter Request.asksElement).map .inl := by
  rw [List.filter_map]
  rfl

namespace Lua

theorem asks_allocSubTypedObject (mem : DbgScriptTypedObject) (name : AnsiStr)
    (typedData : DebugTypedData) :
    (allocSubTypedObject mem name typedData).attempt.Asks fun r => r.asksElement = false := by
  refine Throws.asks_bind (asks_checkAbort rfl) fun _ => ?_
  refine Throws.asks_bind (Throws.asks_lift (asks_dsWrapTypedData _ _ _)) ?_
  rintro ⟨typObj, hr⟩
  dsimp only
  split <;> trivial

theorem elements_getElement
    (htag : typObj.typedData.tag ≠ .PointerType → typObj.typedData.tag = .ArrayType)
    (mem : DbgScriptTypedObject) (index : UINT64) (name : AnsiStr) (a : DebuggerAnswers) (n : ℕ) :
    ((getElement mem typObj index name).attempt.run a n).2.filter Request.asksElement =
      [.getArrayElement typObj.typedData index] := by
  rw [getElement, Throws.filter_run_bind ?_, elements_dsTypedObjectGetArrayElement htag]
  rintro ⟨hr, typedData⟩
  dsimp only
  split
  · trivial
  · exact Throws.asks_bind (asks_allocSubTypedObject _ _ _) fun _ => trivial

end Lua

namespace Ruby

theorem asks_allocTypedObjFromTypedData (name : AnsiStr) (typedData : DebugTypedData) :
    (allocTypedObjFromTypedData name typedData).attempt.Asks fun r => r.asksElement = false := by
  refine Throws.asks_bind (Throws.asks_lift (asks_dsWrapTypedData _ _ _)) ?_
  rintro ⟨typObj, hr⟩
  dsimp only
  split <;> trivial

theorem elements_getElement
    (htag : typObj.typedData.tag ≠ .PointerType → typObj.typedData.tag = .ArrayType)
    (index : UINT64) (name : AnsiStr) (a : DebuggerAnswers) (n : ℕ) :
    ((getElement typObj index name).attempt.run a n).2.filter Request.asksElement =
      [.getArrayElement typObj.typedData index] := by
  rw [getElement, Throws.filter_run_bind ?_, elements_dsTypedObjectGetArrayElement htag]
  rintro ⟨hr, typedData⟩
  dsimp only
  split
  · trivial
  · exact asks_allocTypedObjFromTypedData _ _

end Ruby

namespace Python

theorem asks_newObject (o : PyObj) (flag : Option PyErr) :
    ((newObject o).attempt flag).Asks fun r => asksElement r = false := by
  rw [attempt_newObject]
  exact ⟨rfl, fun _ => trivial⟩

theorem asks_allocSubTypedObject (name : AnsiStr) (typedData : DebugTypedData)
    (flag : Option PyErr) :
    ((allocSubTypedObject name typedData).attempt flag).Asks fun r => asksElement r = false := by
  refine Flagged.asks_bind (asks_newObject _ flag) fun _ flag' => ?_
  refine Flagged.asks_bind (asks_ds (asks_dsWrapTypedData _ _ _) flag') ?_
  rintro ⟨data, hr⟩ flag''
  dsimp only
  split <;> trivial

theorem elements_getElement (exc : PyExc)
    (htag : typObj.typedData.tag ≠ .PointerType → typObj.typedData.tag = .ArrayType)
    (index : UINT64) (name : AnsiStr) (flag : Option PyErr) (a : PyAnswers) (n : ℕ) :
    (((getElement exc typObj index name).attempt flag).run a n).2.filter asksElement =
      [.inl (.getArrayElement typObj.typedData index)] := by
  rw [getElement, ds, Flagged.filter_run_bind ?_, Dialogue.run_inl, filter_map_inl,
    elements_dsTypedObjectGetArrayElement htag]
  · rfl
  · rintro ⟨hr, typedData⟩ flag'
    dsimp only
    split
    · trivial
    · exact asks_allocSubTypedObject _ _ _

end Python

/-! ## Keys -/

variable {a : PyAnswers} {mem : DbgScriptTypedObject} {i : ℤ}

/-- What is done with the outcome asks nothing. -/
theorem elements_bind_pure {α : Type} (d : Dialogue PyAnswer α) :
    ((d >>= fun _ => (pure () : Dialogue PyAnswer Unit)).run a 0).2.filter asksElement =
      (d.run a 0).2.filter asksElement := by
  have hpure : ∀ _ : α, (pure () : Dialogue PyAnswer Unit).Asks fun r => asksElement r = false :=
    fun _ => trivial
  exact Dialogue.filter_run_bind hpure 0

theorem Lua.elements_index (hvalid : typObj.typedDataValid = true)
    (htag : typObj.typedData.tag ≠ .PointerType → typObj.typedData.tag = .ArrayType) :
    ((Language.lua.index mem typObj i).run a 0).2.filter asksElement =
      if Dialogue.left a 0 .getInterrupt = S_OK then []
      else [.inl (.getArrayElement typObj.typedData (BitVec.ofInt 64 i))] := by
  have hvalid' : checkTypedData typObj = pure () := by simp [checkTypedData, hvalid]
  have helement := elements_getElement htag mem (BitVec.ofInt 64 i) (ansiStr "<arr-elem>")
    (Dialogue.left a) 1
  rw [Language.index, elements_bind_pure, Dialogue.run_inl, filter_map_inl, typedObjectIndex]
  by_cases habort : Dialogue.left a 0 .getInterrupt = S_OK
  · simp [habort, Request.asksElement]
  · simp [habort, Request.asksElement, reading, hvalid', helement]

theorem Ruby.elements_index (hvalid : typObj.typedDataValid = true)
    (htag : typObj.typedData.tag ≠ .PointerType → typObj.typedData.tag = .ArrayType) :
    ((Language.ruby.index mem typObj i).run a 0).2.filter asksElement =
      if Dialogue.left a 0 .getInterrupt = S_OK ∨ ¬ (-2 ^ 31 ≤ i ∧ i < 2 ^ 31) then []
      else [.inl (.getArrayElement typObj.typedData ((BitVec.ofInt 32 i).signExtend 64))] := by
  have hvalid' : checkTypedData typObj = pure () := by simp [checkTypedData, hvalid]
  have helement := elements_getElement htag ((BitVec.ofInt 32 i).signExtend 64)
    (ansiStr "<arr-elem>") (Dialogue.left a) 1
  rw [Language.index, elements_bind_pure, Dialogue.run_inl, filter_map_inl, typedObjectGetItem]
  by_cases habort : Dialogue.left a 0 .getInterrupt = S_OK
  · rw [if_pos (.inl habort)]
    simp [habort, Request.asksElement, checkAbort, rbRaise]
  by_cases hi : -2 ^ 31 ≤ i ∧ i < 2 ^ 31
  · have hindex : NUM2INT i = pure (BitVec.ofInt 32 i) := if_pos hi
    rw [if_neg (not_or.2 ⟨habort, not_not.2 hi⟩)]
    simp [habort, Request.asksElement, checkAbort, hvalid', hindex, helement]
  · have hindex : NUM2INT i = rbRaise .RangeError "integer %d does not fit in an int" [.num i] :=
      if_neg hi
    rw [if_pos (.inr hi)]
    simp [habort, Request.asksElement, checkAbort, hvalid', hindex, rbRaise]

theorem Python.elements_checkAbort_bind {α : Type} (f : Unit → PyM α) (n : ℕ) :
    (((checkAbort >>= f).attempt none).run a n).2.filter asksElement =
      if Dialogue.left a n .getInterrupt = S_OK then []
      else (((f ()).attempt none).run a (n + 1)).2.filter asksElement := by
  rw [run_checkAbort_bind]
  split_ifs
  · rfl
  · exact List.filter_cons_of_neg Bool.false_ne_true

theorem Python.elements_index (hvalid : typObj.typedDataValid = true)
    (htag : typObj.typedData.tag ≠ .PointerType → typObj.typedData.tag = .ArrayType)
    (hi : -2 ^ 63 ≤ i ∧ i < 2 ^ 63) :
    ((Language.python.index mem typObj i).run a 0).2.filter asksElement =
      if Dialogue.left a 0 .getInterrupt = S_OK ∨ i = -1 ∨ Dialogue.left a 1 .getInterrupt = S_OK
      then [] else [.inl (.getArrayElement typObj.typedData (BitVec.ofInt 64 i))] := by
  have hvalid' : checkTypedData typObj = pure () := by simp [checkTypedData, hvalid]
  have hindex : (asSsizeT i).attempt none = .done (some (BitVec.ofInt 64 i), none) := if_pos hi
  have hsentinel : BitVec.ofInt 64 i = -1 ↔ i = -1 := by
    constructor
    · intro h
      have hint := congrArg BitVec.toInt h
      rw [BitVec.toInt_ofInt, Int.bmod_eq_of_le (by omega) (by omega)] at hint
      exact hint
    · rintro rfl
      rfl
  have hconvert : (asSsizeT i >>= fun index =>
      if index = -1 then Flagged.null else typedObjectSequenceGetItem typObj index).attempt none =
        if i = -1 then .done (none, none)
        else (typedObjectSequenceGetItem typObj (BitVec.ofInt 64 i)).attempt none := by
    rw [Flagged.attempt_bind, hindex, Dialogue.done_bind]
    show Flagged.attempt (if BitVec.ofInt 64 i = -1 then Flagged.null
      else typedObjectSequenceGetItem typObj (BitVec.ofInt 64 i)) none = _
    rw [Flagged.attempt_ite]
    exact if_congr hsentinel rfl rfl
  have helement := elements_getElement .RuntimeError htag (BitVec.ofInt 64 i)
    (ansiStr "<arr-elem>") none a 2
  rw [Language.index, elements_bind_pure, typedObjectMappingSubscript, elements_checkAbort_bind]
  by_cases habort : Dialogue.left a 0 .getInterrupt = S_OK
  · rw [if_pos habort, if_pos (.inl habort)]
  rw [if_neg habort, hconvert]
  by_cases hneg : i = -1
  · rw [if_pos hneg, if_pos (.inr (.inl hneg))]
    rfl
  rw [if_neg hneg, typedObjectSequenceGetItem, elements_checkAbort_bind]
  by_cases habort' : Dialogue.left a 1 .getInterrupt = S_OK
  · rw [if_pos habort', if_pos (.inr (.inr habort'))]
  · rw [if_neg habort', if_neg (by simp [habort, hneg, habort']), hvalid']
    exact helement

/-- The `int` that Ruby makes of the key is that key again in 64 bits. -/
theorem signExtend_ofInt (hi : -2 ^ 31 ≤ i ∧ i < 2 ^ 31) :
    (BitVec.ofInt 32 i).signExtend 64 = BitVec.ofInt 64 i := by
  rw [BitVec.signExtend, BitVec.toInt_ofInt, Int.bmod_eq_of_le (by omega) (by omega)]

/-- One element is asked for, the one of the key that was written, iff the user does not
    interrupt and the key is not `-1` in Python and fits an `int` in Ruby. -/
theorem sends_index_iff (l : Language) (a : PyAnswers) (mem typObj : DbgScriptTypedObject) (i : ℤ)
    (hvalid : typObj.typedDataValid = true)
    (htag : typObj.typedData.tag = .PointerType ∨ typObj.typedData.tag = .ArrayType)
    (hi : -2 ^ 63 ≤ i ∧ i < 2 ^ 63) : SendsIndex l a mem typObj i ↔ KeyReaches l a i := by
  have htag' : typObj.typedData.tag ≠ .PointerType → typObj.typedData.tag = .ArrayType :=
    htag.resolve_left
  cases l with
  | lua =>
    rw [SendsIndex, Lua.elements_index hvalid htag', KeyReaches]
    split_ifs with h
    · simp [h]
    · simp [h]
  | python =>
    rw [SendsIndex, Python.elements_index hvalid htag' hi, KeyReaches]
    split_ifs with h
    · refine iff_of_false (by simp) ?_
      rintro ⟨hrun, hneg, hrun'⟩
      exact h.elim hrun fun h => h.elim hneg hrun'
    · rw [not_or, not_or] at h
      exact iff_of_true rfl h
  | ruby =>
    rw [SendsIndex, Ruby.elements_index hvalid htag', KeyReaches]
    split_ifs with h
    · refine iff_of_false (by simp) ?_
      rintro ⟨hrun, hrange⟩
      exact h.elim hrun fun hno => hno hrange
    · rw [not_or, not_not] at h
      rw [signExtend_ofInt h.2]
      exact iff_of_true rfl h

/-- The user does not interrupt, and every call succeeds. -/
def undisturbed : PyAnswers
  | _, .inl .getInterrupt => S_FALSE
  | _, .inl r => (default : r.Answer)
  | _, .inr c => c.succeeds

/-- A pointer with typed data. -/
def somePointer : DbgScriptTypedObject :=
  { DbgScriptTypedObject.zero with
    typedData := { DebugTypedData.zero with tag := .PointerType }
    typedDataValid := true }

theorem sends_negative_index : SendsIndex .ruby undisturbed .zero somePointer (-2) :=
  (sends_index_iff .ruby undisturbed .zero somePointer (-2) rfl (.inl rfl) (by decide)).2
    ⟨by decide, by decide⟩

/-- `obj[-1]` in Python and `obj[2 ** 31]` in Ruby ask for no element. -/
theorem index_lost :
    ¬ SendsIndex .python undisturbed .zero somePointer (-1) ∧
      ¬ SendsIndex .ruby undisturbed .zero somePointer (2 ^ 31) := by
  constructor
  · rw [SendsIndex, Python.elements_index rfl (fun h => absurd rfl h) (by decide),
      if_pos (.inr (.inl rfl))]
    simp
  · rw [SendsIndex, Ruby.elements_index rfl fun h => absurd rfl h, if_pos (.inr (by decide))]
    simp

end DbgScript
