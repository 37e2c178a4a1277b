import DbgScript.Providers.ArrayIndex

/-!
# The length of an array

`#obj` in Lua, `len(obj)` in Python and `obj.length` in Ruby divide the size of the array by
that of its element 0. The debugger reports both, and an incomplete type has size 0.

* `Lua.run_typedObjectLen`, `Python.run_typedObjectSequenceLength`,
  `Ruby.run_typedObjectLength`: every run on an array whose element 0 is there.
* `dividesByZero_iff`: which calls divide by zero.
* `lengthDefined_iff`: when the length is defined and the providers agree on it.
-/

namespace DbgScript

open Python (PyAnswer PyAnswers PyCall)

/-! ## Specification -/

/-- What a script sees of a call. -/
inductive LengthOutcome where
  | raises
  | returns (n : ℕ)
  deriving DecidableEq

/-- What the function for the length returns. -/
@[reducible] def Language.Length : Language → Type
  | .lua => Except Lua.LuaError Lua.LuaResult
  | .python => Option ℕ × Option Python.PyErr
  | .ruby => Except Ruby.RubyError Ruby.RubyValue

/-- `#obj`, `len(obj)` and `obj.length`. -/
def Language.length (typObj : DbgScriptTypedObject) : (l : Language) → Dialogue PyAnswer l.Length
  | .lua => (Lua.typedObjectLen typObj).attempt.inl
  | .python => (Python.typedObjectSequenceLength typObj).attempt none
  | .ruby => (Ruby.typedObjectLength typObj).attempt.inl

/-- The result is an exception, or the integer `n`. -/
def Language.Shows : (l : Language) → l.Length → LengthOutcome → Prop
  | .lua, r, .raises => ∃ e, r = .error e
  | .lua, r, .returns n => r = .ok (.value (.integer (BitVec.ofNat 64 n)))
  | .python, r, .raises => r.1 = none ∧ r.2.isSome
  | .python, r, .returns n => r = (some n, none)
  | .ruby, r, .raises => ∃ e, r = .error e
  | .ruby, r, .returns n => r = .ok (Ruby.integer n)

section Length

variable (a : PyAnswers) (typObj : DbgScriptTypedObject)

def DividesByZero (l : Language) : Prop := .inl .divideByZero ∈ ((l.length typObj).run a 0).2

/-- `n` is the number of elements that the array has room for. -/
def LengthOutcome.Counts (elemSize : ULONG) : LengthOutcome → Prop
  | .raises => True
  | .returns n => n * elemSize.toNat ≤ typObj.typedData.size.toNat ∧
      typObj.typedData.size.toNat < (n + 1) * elemSize.toNat

/-- No provider divides by zero, and all raise an exception or all return the number of
    elements. -/
structure LengthDefined (elemSize : ULONG) : Prop where
  divides : ∀ l, ¬ DividesByZero a typObj l
  outcome : ∃ o : LengthOutcome, o.Counts typObj elemSize ∧
    ∀ l : Language, l.Shows ((l.length typObj).run a 0).1 o

/-- The debugger's answer to `EXT_TDOP_GET_ARRAY_ELEMENT` for the element 0 is a success
    with the element `elem`. -/
structure HasElement (elem : DebugTypedData) : Prop where
  valid : typObj.typedDataValid = true
  array : typObj.typedData.tag = .ArrayType
  response : ∃ hr : HRESULT, FAILED hr = false ∧
    ∀ n, Dialogue.left a n (.getArrayElement typObj.typedData 0#64) = (hr, elem)

end Length

/-! ## Runs -/

variable {a : PyAnswers} {typObj : DbgScriptTypedObject} {elem : DebugTypedData}

/-- The query for the element 0. -/
theorem HasElement.run_query (h : HasElement a typObj elem) (n : ℕ) :
    ∃ hr : HRESULT, FAILED hr = false ∧
      (dsTypedObjectGetArrayElement typObj 0#64).run (Dialogue.left a) n =
        ((hr, elem), [.getArrayElement typObj.typedData 0#64]) := by
  obtain ⟨hr, hok, hresp⟩ := h.response
  refine ⟨hr, hok, ?_⟩
  simp [dsTypedObjectGetArrayElement, h.array, hresp, hok]

theorem Lua.run_typedObjectLen (h : HasElement a typObj elem) :
    (typedObjectLen typObj).attempt.run (Dialogue.left a) 0 =
      if Dialogue.left a 0 .getInterrupt = S_OK then
        (.error (.error "execution interrupted." []), [.getInterrupt])
      else
        let quotient := (ulongDiv typObj.typedData.size elem.size).run (Dialogue.left a) 2
        (.ok (.value (.integer (quotient.1.setWidth 64))),
          .getInterrupt :: .getArrayElement typObj.typedData 0#64 :: quotient.2) := by
  obtain ⟨hr, hok, hquery⟩ := h.run_query 1
  rw [typedObjectLen, run_checkAbort_bind]
  by_cases habort : Dialogue.left a 0 .getInterrupt = S_OK
  · rw [if_pos habort, if_pos habort]
  · rw [if_neg habort, if_neg habort]
    simp [checkTypedData, h.valid, h.array, hquery, hok]

theorem Ruby.run_typedObjectLength (h : HasElement a typObj elem) :
    (typedObjectLength typObj).attempt.run (Dialogue.left a) 0 =
      if Dialogue.left a 0 .getInterrupt = S_OK then
        (.error (.raised .Interrupt "Execution interrupted." []), [.getInterrupt])
      else
        let quotient := (ulongDiv typObj.typedData.size elem.size).run (Dialogue.left a) 2
        (.ok (ULONG2NUM quotient.1),
          .getInterrupt :: .getArrayElement typObj.typedData 0#64 :: quotient.2) := by
  obtain ⟨hr, hok, hquery⟩ := h.run_query 1
  rw [typedObjectLength, run_checkAbort_bind]
  by_cases habort : Dialogue.left a 0 .getInterrupt = S_OK
  · rw [if_pos habort, if_pos habort]
  · rw [if_neg habort, if_neg habort]
    simp [checkTypedData, h.valid, h.array, hquery, hok]

/-- The user's interrupt is not looked at. -/
theorem Python.run_typedObjectSequenceLength (h : HasElement a typObj elem) :
    ((typedObjectSequenceLength typObj).attempt none).run a 0 =
      let quotient := (ulongDiv typObj.typedData.size elem.size).run (Dialogue.left a) 1
      ((some quotient.1.toNat, none),
        .inl (.getArrayElement typObj.typedData 0#64) :: quotient.2.map .inl) := by
  obtain ⟨hr, hok, hquery⟩ := h.run_query 0
  simp [typedObjectSequenceLength, checkTypedData, h.valid, h.array, ds, hquery, hok]

/-! ## Division by zero -/

theorem mem_run_ulongDiv (o : DebuggerAnswers) (n : ℕ) (x y : ULONG) :
    .divideByZero ∈ ((ulongDiv x y).run o n).2 ↔ y = 0 := by
  by_cases hy : y = 0
  · rw [hy, run_ulongDiv_zero]
    simp
  · rw [run_ulongDiv _ _ _ hy]
    simpa using hy

/-- A function divides by zero iff it gets as far as dividing, and the element has size 0. -/
theorem dividesByZero_iff (h : HasElement a typObj elem) (l : Language) :
    DividesByZero a typObj l ↔
      elem.size = 0 ∧ (l = .python ∨ Dialogue.left a 0 .getInterrupt ≠ S_OK) := by
  cases l with
  | lua =>
    rw [DividesByZero, Language.length, Dialogue.run_inl, Lua.run_typedObjectLen h]
    split_ifs with habort
    · simp [habort]
    · simp [habort, mem_run_ulongDiv]
  | python =>
    rw [DividesByZero, Language.length, Python.run_typedObjectSequenceLength h]
    simp [mem_run_ulongDiv]
  | ruby =>
    rw [DividesByZero, Language.length, Dialogue.run_inl, Ruby.run_typedObjectLength h]
    split_ifs with habort
    · simp [habort]
    · simp [habort, mem_run_ulongDiv]

/-! ## Agreement -/

/-- An interrupt ends the calls in Lua and Ruby, but not in Python. -/
theorem not_agree_of_interrupt (h : HasElement a typObj elem)
    (habort : Dialogue.left a 0 .getInterrupt = S_OK) (o : LengthOutcome) :
    ¬ (Language.lua.Shows ((Language.lua.length typObj).run a 0).1 o ∧
      Language.python.Shows ((Language.python.length typObj).run a 0).1 o) := by
  rw [Language.length, Language.length, Dialogue.run_inl, Lua.run_typedObjectLen h, if_pos habort,
    Python.run_typedObjectSequenceLength h]
  rintro ⟨hlua, hpython⟩
  cases o with
  | raises => simp [Language.Shows] at hpython
  | returns n => simp [Language.Shows] at hlua

/-- Every provider returns the quotient. -/
theorem shows_quotient (h : HasElement a typObj elem) (hsize : elem.size ≠ 0)
    (hrun : Dialogue.left a 0 .getInterrupt ≠ S_OK) (l : Language) :
    l.Shows ((l.length typObj).run a 0).1
      (.returns (typObj.typedData.size / elem.size).toNat) := by
  cases l with
  | lua =>
    rw [Language.length, Dialogue.run_inl, Lua.run_typedObjectLen h, if_neg hrun,
      run_ulongDiv _ _ _ hsize]
    simp only [Language.Shows, BitVec.ofNat_toNat]
  | python =>
    rw [Language.length, Python.run_typedObjectSequenceLength h, run_ulongDiv _ _ _ hsize]
    rfl
  | ruby =>
    rw [Language.length, Dialogue.run_inl, Ruby.run_typedObjectLength h, if_neg hrun,
      run_ulongDiv _ _ _ hsize]
    rfl

theorem counts_quotient (hsize : elem.size ≠ 0) :
    (LengthOutcome.returns (typObj.typedData.size / elem.size).toNat).Counts typObj elem.size := by
  have hpos : 0 < elem.size.toNat := by
    rw [Nat.pos_iff_ne_zero]
    exact fun h => hsize (BitVec.eq_of_toNat_eq h)
  rw [BitVec.toNat_udiv]
  refine ⟨Nat.div_mul_le_self _ _, ?_⟩
  rw [Nat.mul_comm]
  exact Nat.lt_mul_div_succ _ hpos

/-- The length of an array is defined, and the same in the three providers, iff its elements
    have a size and the user does not interrupt. -/
theorem lengthDefined_iff (h : HasElement a typObj elem) :
    LengthDefined a typObj elem.size ↔
      elem.size ≠ 0 ∧ Dialogue.left a 0 .getInterrupt ≠ S_OK := by
  constructor
  · intro hdefined
    refine ⟨?_, ?_⟩
    · intro hzero
      exact hdefined.divides .python ((dividesByZero_iff h .python).2 ⟨hzero, .inl rfl⟩)
    · intro habort
      obtain ⟨o, -, hshows⟩ := hdefined.outcome
      exact not_agree_of_interrupt h habort o ⟨hshows .lua, hshows .python⟩
  · rintro ⟨hsize, hrun⟩
    refine ⟨?_, _, counts_quotient hsize, shows_quotient h hsize hrun⟩
    intro l hdivides
    exact hsize ((dividesByZero_iff h l).1 hdivides).1

/-- An array of 12 bytes with typed data. -/
def someArray : DbgScriptTypedObject :=
  { DbgScriptTypedObject.zero with
    typedData := { DebugTypedData.zero with tag := .ArrayType, size := 12 }
    typedDataValid := true }

/-- No interrupt, and an element 0 of `elemSize` bytes. -/
def elementsOf (elemSize : ULONG) : PyAnswers
  | _, .inl .getInterrupt => S_FALSE
  | _, .inl (.getArrayElement _ _) => (S_OK, { DebugTypedData.zero with size := elemSize })
  | _, .inl r => (default : r.Answer)
  | _, .inr c => c.succeeds

theorem hasElement_elementsOf (elemSize : ULONG) :
    HasElement (elementsOf elemSize) someArray { DebugTypedData.zero with size := elemSize } :=
  ⟨rfl, rfl, S_OK, failed_S_OK, fun _ => rfl⟩

/-- With elements of 4 bytes there are 3 of them in each language. -/
theorem length_of_words : LengthDefined (elementsOf 4) someArray 4 :=
  (lengthDefined_iff (hasElement_elementsOf 4)).2 ⟨by decide, by decide⟩

/-- With elements of an incomplete type all three providers divide by zero. -/
theorem length_of_incomplete :
    ¬ LengthDefined (elementsOf 0) someArray 0 ∧
      ∀ l, DividesByZero (elementsOf 0) someArray l := by
  have hdivides (l : Language) : DividesByZero (elementsOf 0) someArray l :=
    (dividesByZero_iff (hasElement_elementsOf 0) l).2 ⟨rfl, .inr (by decide)⟩
  exact ⟨fun h => h.divides .lua (hdivides .lua), hdivides⟩

end DbgScript
