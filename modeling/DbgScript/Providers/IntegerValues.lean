import DbgScript.Lua.TypedObject
import DbgScript.Python.TypedObject
import DbgScript.Ruby.TypedObject

/-!
# The integers that `.value` returns

Each provider converts the value union to an object of its language in a switch of its
own (`luaValueFromCValue`, `pyValueFromCValue`, `rbValueFromCValue`). `IntType.denoted`
says which integer the bytes that were read denote.
-/

namespace DbgScript

open CharBuf (Buf)
open Python (PyAnswers)

/-! ## Integer types -/

/-- The integer types: ten base types, and enums of four sizes. -/
inductive IntType where
  | INT8
  | UINT8
  | INT16
  | UINT16
  | INT32
  | LONG32
  | UINT32
  | ULONG32
  | INT64
  | UINT64
  | enum (size : ℕ) (h : size ∈ [1, 2, 4, 8])

/-- `Size` of an object of the type. -/
def IntType.size : IntType → ℕ
  | .INT8 | .UINT8 => 1
  | .INT16 | .UINT16 => 2
  | .INT32 | .LONG32 | .UINT32 | .ULONG32 => 4
  | .INT64 | .UINT64 => 8
  | .enum size _ => size

/-- The typed data of an object of the type. -/
def IntType.Describes (ty : IntType) (typedData : DebugTypedData) : Prop :=
  typedData.size.toNat = ty.size ∧
    match ty with
    | .INT8 => typedData.tag = .BaseType ∧ typedData.baseTypeId = .INT8
    | .UINT8 => typedData.tag = .BaseType ∧ typedData.baseTypeId = .UINT8
    | .INT16 => typedData.tag = .BaseType ∧ typedData.baseTypeId = .INT16
    | .UINT16 => typedData.tag = .BaseType ∧ typedData.baseTypeId = .UINT16
    | .INT32 => typedData.tag = .BaseType ∧ typedData.baseTypeId = .INT32
    | .LONG32 => typedData.tag = .BaseType ∧ typedData.baseTypeId = .LONG32
    | .UINT32 => typedData.tag = .BaseType ∧ typedData.baseTypeId = .UINT32
    | .ULONG32 => typedData.tag = .BaseType ∧ typedData.baseTypeId = .ULONG32
    | .INT64 => typedData.tag = .BaseType ∧ typedData.baseTypeId = .INT64
    | .UINT64 => typedData.tag = .BaseType ∧ typedData.baseTypeId = .UINT64
    | .enum _ _ => typedData.tag = .Enum

/-- The integer that `bytes` denote in the type: in two's complement for the signed base
    types. -/
def IntType.denoted (ty : IntType) (bytes : List UInt8) : ℤ :=
  match ty with
  | .INT8 | .INT16 | .INT32 | .LONG32 | .INT64 => leInt bytes
  | _ => leNat bytes

theorem IntType.Describes.isPrimitive {ty : IntType} {typObj : DbgScriptTypedObject}
    (h : ty.Describes typObj.typedData) : dsTypedObjectIsPrimitive typObj = true := by
  obtain ⟨-, h⟩ := h
  cases ty <;> simp_all [dsTypedObjectIsPrimitive]

/-! ## Reading the value -/

/-- The answers that let `.value` get as far as the conversion: no interrupt is pending,
    `bytes` are read, and there is memory for a new object. -/
structure Reads (a : PyAnswers) (typObj : DbgScriptTypedObject) (bytes : List UInt8) : Prop where
  running : Dialogue.left a 0 .getInterrupt ≠ S_OK
  read : ∃ hr : HRESULT, FAILED hr = false ∧
    Dialogue.left a 1 (.readTypedData typObj.typedData.offset typObj.typedData.modBase
      typObj.typedData.typeId) = (hr, bytes)
  memory : a 2 (.inr .newObject) = (.ok () : Except Python.PyErr Unit)

section Runs

variable {a : PyAnswers} {typObj : DbgScriptTypedObject} {bytes : List UInt8}

theorem Lua.getvalue_of_reads (h : Reads a typObj bytes) (hv : typObj.typedDataValid = true)
    (hp : dsTypedObjectIsPrimitive typObj = true) :
    ((Lua.typedObjectGetvalue typObj).run (Dialogue.left a) 0).1 =
      (typObj.withValue bytes,
        (Lua.luaValueFromCValue (typObj.withValue bytes)).map LuaResult.value) := by
  obtain ⟨hr, hhr, hread⟩ := h.read
  rw [run_typedObjectGetvalue]
  simp [h.running, hv, hp, hread, hhr]

theorem Ruby.value_of_reads (h : Reads a typObj bytes) (hv : typObj.typedDataValid = true)
    (hp : dsTypedObjectIsPrimitive typObj = true) :
    ((Ruby.typedObjectValue typObj).run (Dialogue.left a) 0).1 =
      (typObj.withValue bytes, Ruby.rbValueFromCValue (typObj.withValue bytes)) := by
  obtain ⟨hr, hhr, hread⟩ := h.read
  simp [typedObjectValue, checkAbort, h.running, checkTypedData, hv, hp, readTypedData, hread,
    hhr]

/-- The integer that a conversion hands to `PyLong_From…` is the value. -/
theorem Python.getValue_of_reads (h : Reads a typObj bytes)
    (hv : typObj.typedDataValid = true) (hp : dsTypedObjectIsPrimitive typObj = true) {o : PyObj}
    (ho : pyValueFromCValue (typObj.withValue bytes) = newObject o) :
    ((typedObjectGetValue typObj none).run a 0).1 = (typObj.withValue bytes, some o, none) := by
  obtain ⟨hr, hhr, hread⟩ := h.read
  have hmade : (((newObject o).attempt none).run a 2).1 = (some o, none) := by
    rw [run_newObject, h.memory]
    rfl
  simp [typedObjectGetValue, checkAbort, ds, h.running, checkTypedData, hv, hp, readTypedData,
    hread, hhr, ho, hmade]

end Runs

/-! ## Conversions -/

theorem ofInt_inj {i j : ℤ} (hi : -2 ^ 63 ≤ i ∧ i < 2 ^ 63) (hj : -2 ^ 63 ≤ j ∧ j < 2 ^ 63) :
    BitVec.ofInt 64 i = BitVec.ofInt 64 j ↔ i = j := by
  constructor
  · intro h
    have h' := congrArg BitVec.toInt h
    rw [BitVec.toInt_ofInt, Int.bmod_eq_of_le (by omega) (by omega), BitVec.toInt_ofInt,
      Int.bmod_eq_of_le (by omega) (by omega)] at h'
    exact h'
  · intro h
    rw [h]

theorem Ruby.integer_inj {i j : ℤ} : Ruby.integer i = Ruby.integer j ↔ i = j := by
  constructor
  · intro h
    unfold integer fixable at h
    split at h
    · rename_i hi
      split at h
      · rename_i hj
        simp only [Bool.and_eq_true, decide_eq_true_eq] at hi hj
        have := (ofInt_inj (by omega) (by omega)).1 (RubyValue.fixnum.inj h)
        omega
      · exact RubyValue.noConfusion h
    · split at h
      · exact RubyValue.noConfusion h
      · exact RubyValue.bignum.inj h
  · intro h
    rw [h]

theorem Ruby.fixnum_word {i : BitVec 64} (hi : i.toNat < 2 ^ 32) :
    i <<< 1 ||| 1 = BitVec.ofInt 64 (2 * i.toNat + 1) := by
  apply BitVec.eq_of_toNat_eq
  rw [BitVec.toNat_or, BitVec.toNat_shiftLeft, Nat.mod_eq_of_lt (by omega), Nat.shiftLeft_eq,
    BitVec.toNat_ofInt]
  have h := Nat.two_pow_add_eq_or_of_lt (i := 1) (b := 1) (by omega) i.toNat
  have h1 : BitVec.toNat (1 : BitVec 64) = 1 := rfl
  rw [h1, Nat.mul_comm, ← h]
  omega

theorem Ruby.INT2FIX_eq_integer {i : BitVec 64} {d : ℤ} (hi : i.toNat < 2 ^ 32) :
    INT2FIX i = integer d ↔ d = i.toNat ∧ i.toNat < 2 ^ 30 := by
  rw [INT2FIX, fixnum_word hi, integer, fixable]
  by_cases hfix : -2 ^ 30 ≤ d ∧ d < 2 ^ 30
  · rw [if_pos (by simpa using hfix), RubyValue.fixnum.injEq, ofInt_inj (by omega) (by omega)]
    omega
  · rw [if_neg (by simpa using hfix)]
    constructor
    · intro h
      exact RubyValue.noConfusion h
    · intro h
      omega

/-! ## The three providers -/

inductive Language where
  | lua
  | python
  | ruby
  deriving DecidableEq

/-- `.value` returns the integer `i`; in Lua, which has 64-bit integers, modulo `2 ^ 64`. -/
def ValueReturns (l : Language) (a : PyAnswers) (typObj : DbgScriptTypedObject) (i : ℤ) : Prop :=
  match l with
  | .lua => ((Lua.typedObjectGetvalue typObj).run (Dialogue.left a) 0).1.2 =
      .ok (.value (.integer (BitVec.ofInt 64 i)))
  | .python => ((Python.typedObjectGetValue typObj none).run a 0).1.2 = (some (.int i), none)
  | .ruby => ((Ruby.typedObjectValue typObj).run (Dialogue.left a) 0).1.2 = .ok (Ruby.integer i)

/-- The bytes that a switch decodes as they are meant. Small signed types are read as
    unsigned ones, except that Python sign-extends four bytes; `INT2FIX` takes 30 bits;
    an enum is read as four bytes, be it longer or shorter. -/
def Decodes (l : Language) (ty : IntType) (old : TypedObjectValue) (bytes : List UInt8) : Prop :=
  match ty with
  | .INT8 => leNat bytes < 2 ^ 7
  | .INT16 => leNat bytes < 2 ^ 15
  | .INT32 | .LONG32 =>
    (l = .lua → leNat bytes < 2 ^ 31) ∧ (l = .ruby → leNat bytes < 2 ^ 30)
  | .enum size _ => leNat bytes < 2 ^ 32 ∧ ∀ b ∈ (old.cells.take 4).drop size, b = 0
  | _ => True

/-- Four bytes of the union are the bytes of an enum and what they leave of the old ones. -/
theorem low_four_eq_iff (old : TypedObjectValue) {bytes : List UInt8} {size : ℕ}
    (hs : size ∈ [1, 2, 4, 8]) (h : bytes.length = size) :
    TypedObjectValue.low (old.memcpy 0 bytes) 4 = leNat bytes ↔
      leNat bytes < 2 ^ 32 ∧ ∀ b ∈ (old.cells.take 4).drop size, b = 0 := by
  have hlen := old.length_cells
  have h8 : bytes.length ≤ 8 := by
    simp only [List.mem_cons, List.not_mem_nil, or_false] at hs
    omega
  rw [TypedObjectValue.low_eq_leNat_append old h8, h, ← leNat_eq_zero]
  by_cases h4 : size ≤ 4
  · have hlt := leNat_lt bytes
    have hpow : 256 ^ bytes.length ≤ 256 ^ 4 := Nat.pow_le_pow_right (by omega) (by omega)
    have hpos : 0 < 256 ^ bytes.length := by positivity
    rw [List.take_append, List.take_of_length_le (by omega), leNat_append, List.drop_take, h]
    rw [h] at hpos
    constructor
    · intro heq
      have hzero : 256 ^ size * leNat ((old.cells.drop size).take (4 - size)) = 0 := by omega
      exact ⟨by omega, by simpa [hpos.ne'] using hzero⟩
    · rintro ⟨-, hzero⟩
      rw [hzero]
      omega
  · have hsplit := leNat_append (bytes.take 4) (bytes.drop 4)
    have hlt := leNat_lt (bytes.take 4)
    rw [List.take_append_drop] at hsplit
    rw [List.length_take, min_eq_left (by omega)] at hsplit hlt
    rw [List.take_append_of_le_length (by omega), List.drop_of_length_le (by simp; omega)]
    simp only [leNat_nil, and_true]
    omega

/-! ## What a switch makes of the bytes -/

section Members

variable (v : TypedObjectValue) {bytes : List UInt8}

theorem toNat_byteVal_of_length (h : bytes.length = 1) :
    (TypedObjectValue.byteVal (v.memcpy 0 bytes)).toNat = leNat bytes := by
  rw [TypedObjectValue.toNat_byteVal, v.low_of_length h (by omega)]

theorem toNat_wordVal_of_length (h : bytes.length = 2) :
    (TypedObjectValue.wordVal (v.memcpy 0 bytes)).toNat = leNat bytes := by
  rw [TypedObjectValue.toNat_wordVal, v.low_of_length h (by omega)]

theorem toNat_dwVal_of_length (h : bytes.length = 4) :
    (TypedObjectValue.dwVal (v.memcpy 0 bytes)).toNat = leNat bytes := by
  rw [TypedObjectValue.toNat_dwVal, v.low_of_length h (by omega)]

theorem toInt_dwVal_of_length (h : bytes.length = 4) :
    (TypedObjectValue.dwVal (v.memcpy 0 bytes)).toInt = leInt bytes := by
  rw [leInt_of_length h, TypedObjectValue.dwVal, v.low_of_length h (by omega)]

theorem toNat_ui64Val_of_length (h : bytes.length = 8) :
    (TypedObjectValue.ui64Val (v.memcpy 0 bytes)).toNat = leNat bytes := by
  rw [TypedObjectValue.toNat_ui64Val, v.low_of_length h le_rfl]

theorem toInt_ui64Val_of_length (h : bytes.length = 8) :
    (TypedObjectValue.ui64Val (v.memcpy 0 bytes)).toInt = leInt bytes := by
  rw [leInt_of_length h, TypedObjectValue.ui64Val, v.low_of_length h le_rfl]

end Members

/-- Zero extension keeps the number. -/
theorem toNat_zeroExtend {w : ℕ} (x : BitVec w) (hw : w ≤ 64 := by decide) :
    (x.setWidth 64).toNat = x.toNat := by
  rw [BitVec.toNat_setWidth_of_le hw]

section Switches

variable {ty : IntType} {typObj : DbgScriptTypedObject} {bytes : List UInt8}

/-- A word that is zero-extended holds the unsigned number. -/
theorem setWidth_eq_ofInt_leNat {w : ℕ} {x : BitVec w} (hx : x.toNat = leNat bytes) :
    x.setWidth 64 = BitVec.ofInt 64 (leNat bytes) := by
  rw [BitVec.ofInt_natCast, ← hx, BitVec.ofNat_toNat]

/-- It holds the signed number only if that is not negative. -/
theorem setWidth_eq_ofInt_leInt {w : ℕ} {x : BitVec w} (hx : x.toNat = leNat bytes) {n : ℕ}
    (hlen : bytes.length = n) (hn : n ≤ 4) :
    x.setWidth 64 = BitVec.ofInt 64 (leInt bytes) ↔ 2 * leNat bytes < 2 ^ (8 * n) := by
  have hlt := leNat_lt bytes
  have hb := leInt_bounds bytes
  have hpow : 256 ^ bytes.length ≤ 256 ^ 4 := Nat.pow_le_pow_right (by omega) (by omega)
  have hpow' : (2 : ℤ) ^ (8 * bytes.length) ≤ 2 ^ 32 :=
    pow_le_pow_right₀ (by omega) (by omega)
  rw [setWidth_eq_ofInt_leNat hx, ofInt_inj (by omega) (by omega), leNat_eq_leInt, hlen]

/-- Four bytes are decoded to the unsigned number an enum of any size denotes. -/
theorem setWidth_dwVal_eq_iff (old : TypedObjectValue) {size : ℕ} (hs : size ∈ [1, 2, 4, 8])
    (hlen : bytes.length = size) :
    (TypedObjectValue.dwVal (old.memcpy 0 bytes)).setWidth 64 = BitVec.ofInt 64 (leNat bytes) ↔
      leNat bytes < 2 ^ 32 ∧ ∀ b ∈ (old.cells.take 4).drop size, b = 0 := by
  have hlt := leNat_lt bytes
  have hpow : 256 ^ bytes.length ≤ 256 ^ 8 :=
    Nat.pow_le_pow_right (by omega) (by simp at hs; omega)
  have hdw := (TypedObjectValue.dwVal (old.memcpy 0 bytes)).isLt
  rw [← low_four_eq_iff old hs hlen, ← TypedObjectValue.toNat_dwVal, BitVec.ofInt_natCast,
    ← BitVec.toNat_inj, BitVec.toNat_setWidth, BitVec.toNat_ofNat, Nat.mod_eq_of_lt (by omega),
    Nat.mod_eq_of_lt (by omega)]

theorem Lua.luaValueFromCValue_eq_iff (h : ty.Describes typObj.typedData)
    (hlen : bytes.length = ty.size) :
    luaValueFromCValue (typObj.withValue bytes) =
        .ok (.integer (BitVec.ofInt 64 (ty.denoted bytes))) ↔
      Decodes .lua ty typObj.value bytes := by
  obtain ⟨-, h⟩ := h
  cases ty with
  | INT8 =>
    simp only [luaValueFromCValue, DbgScriptTypedObject.withValue, h.1, h.2, IntType.denoted,
      Decodes]
    rw [Except.ok.injEq, LuaValue.integer.injEq]
    refine (setWidth_eq_ofInt_leInt (toNat_byteVal_of_length _ hlen) hlen (by decide)).trans ?_
    simp [IntType.size]
    omega
  | INT16 =>
    simp only [luaValueFromCValue, DbgScriptTypedObject.withValue, h.1, h.2, IntType.denoted,
      Decodes]
    rw [Except.ok.injEq, LuaValue.integer.injEq]
    refine (setWidth_eq_ofInt_leInt (toNat_wordVal_of_length _ hlen) hlen (by decide)).trans ?_
    simp [IntType.size]
    omega
  | INT32 | LONG32 =>
    simp only [luaValueFromCValue, DbgScriptTypedObject.withValue, h.1, h.2, IntType.denoted,
      Decodes]
    rw [Except.ok.injEq, LuaValue.integer.injEq]
    refine (setWidth_eq_ofInt_leInt (toNat_dwVal_of_length _ hlen) hlen (by decide)).trans ?_
    simp [IntType.size]
    omega
  | UINT8 =>
    simp only [luaValueFromCValue, DbgScriptTypedObject.withValue, h.1, h.2, IntType.denoted,
      Decodes]
    rw [Except.ok.injEq, LuaValue.integer.injEq]
    exact iff_true_intro (setWidth_eq_ofInt_leNat (toNat_byteVal_of_length _ hlen))
  | UINT16 =>
    simp only [luaValueFromCValue, DbgScriptTypedObject.withValue, h.1, h.2, IntType.denoted,
      Decodes]
    rw [Except.ok.injEq, LuaValue.integer.injEq]
    exact iff_true_intro (setWidth_eq_ofInt_leNat (toNat_wordVal_of_length _ hlen))
  | UINT32 | ULONG32 =>
    simp only [luaValueFromCValue, DbgScriptTypedObject.withValue, h.1, h.2, IntType.denoted,
      Decodes]
    rw [Except.ok.injEq, LuaValue.integer.injEq]
    exact iff_true_intro (setWidth_eq_ofInt_leNat (toNat_dwVal_of_length _ hlen))
  | INT64 =>
    simp only [luaValueFromCValue, DbgScriptTypedObject.withValue, h.1, h.2, IntType.denoted,
      Decodes]
    rw [Except.ok.injEq, LuaValue.integer.injEq,
      ← toInt_ui64Val_of_length typObj.value hlen, BitVec.ofInt_toInt]
    exact iff_true_intro rfl
  | UINT64 =>
    simp only [luaValueFromCValue, DbgScriptTypedObject.withValue, h.1, h.2, IntType.denoted,
      Decodes]
    rw [Except.ok.injEq, LuaValue.integer.injEq,
      ← toNat_ui64Val_of_length typObj.value hlen, BitVec.ofInt_natCast, BitVec.ofNat_toNat,
      BitVec.setWidth_eq]
    exact iff_true_intro rfl
  | enum size hs =>
    simp only [luaValueFromCValue, DbgScriptTypedObject.withValue, h, IntType.denoted,
      Decodes]
    rw [Except.ok.injEq, LuaValue.integer.injEq]
    exact setWidth_dwVal_eq_iff typObj.value hs hlen

/-- The conversion makes an integer, the denoted one under the same condition. -/
theorem Python.pyValueFromCValue_eq (h : ty.Describes typObj.typedData)
    (hlen : bytes.length = ty.size) :
    ∃ i : ℤ, pyValueFromCValue (typObj.withValue bytes) = newObject (.int i) ∧
      (i = ty.denoted bytes ↔ Decodes .python ty typObj.value bytes) := by
  obtain ⟨-, h⟩ := h
  cases ty with
  | INT8 =>
    simp only [pyValueFromCValue, DbgScriptTypedObject.withValue, h.1, h.2, IntType.denoted,
      Decodes]
    refine ⟨_, rfl, ?_⟩
    rw [toNat_byteVal_of_length _ hlen, leNat_eq_leInt, hlen]
    simp [IntType.size]
    omega
  | INT16 =>
    simp only [pyValueFromCValue, DbgScriptTypedObject.withValue, h.1, h.2, IntType.denoted,
      Decodes]
    refine ⟨_, rfl, ?_⟩
    rw [toNat_wordVal_of_length _ hlen, leNat_eq_leInt, hlen]
    simp [IntType.size]
    omega
  | INT32 | LONG32 =>
    simp only [pyValueFromCValue, DbgScriptTypedObject.withValue, h.1, h.2, IntType.denoted,
      Decodes]
    refine ⟨_, rfl, ?_⟩
    rw [toInt_dwVal_of_length _ hlen]
    simp
  | UINT8 =>
    simp only [pyValueFromCValue, DbgScriptTypedObject.withValue, h.1, h.2, IntType.denoted,
      Decodes]
    refine ⟨_, rfl, ?_⟩
    rw [toNat_byteVal_of_length _ hlen]
    simp
  | UINT16 =>
    simp only [pyValueFromCValue, DbgScriptTypedObject.withValue, h.1, h.2, IntType.denoted,
      Decodes]
    refine ⟨_, rfl, ?_⟩
    rw [toNat_wordVal_of_length _ hlen]
    simp
  | UINT32 | ULONG32 =>
    simp only [pyValueFromCValue, DbgScriptTypedObject.withValue, h.1, h.2, IntType.denoted,
      Decodes]
    refine ⟨_, rfl, ?_⟩
    rw [toNat_dwVal_of_length _ hlen]
    simp
  | INT64 =>
    simp only [pyValueFromCValue, DbgScriptTypedObject.withValue, h.1, h.2, IntType.denoted,
      Decodes]
    refine ⟨_, rfl, ?_⟩
    rw [TypedObjectValue.i64Val, ← TypedObjectValue.ui64Val, toInt_ui64Val_of_length _ hlen]
    simp
  | UINT64 =>
    simp only [pyValueFromCValue, DbgScriptTypedObject.withValue, h.1, h.2, IntType.denoted,
      Decodes]
    refine ⟨_, rfl, ?_⟩
    rw [toNat_ui64Val_of_length _ hlen]
    simp
  | enum size hs =>
    simp only [pyValueFromCValue, DbgScriptTypedObject.withValue, h, IntType.denoted, Decodes]
    refine ⟨_, rfl, ?_⟩
    rw [← low_four_eq_iff typObj.value hs hlen, TypedObjectValue.toNat_dwVal, Nat.cast_inj]

/-- `INT2FIX` of a word that is zero-extended is the unsigned number if that is fixable. -/
theorem Ruby.INT2FIX_setWidth_eq {w : ℕ} {x : BitVec w} (hx : x.toNat = leNat bytes)
    (hw : w ≤ 64) (hlen : bytes.length ≤ 4) {d : ℤ} :
    INT2FIX (x.setWidth 64) = integer d ↔ d = leNat bytes ∧ leNat bytes < 2 ^ 30 := by
  have hlt := leNat_lt bytes
  have hpow : 256 ^ bytes.length ≤ 256 ^ 4 := Nat.pow_le_pow_right (by omega) hlen
  have hword : (x.setWidth 64).toNat = leNat bytes := by rw [toNat_zeroExtend x hw, hx]
  rw [INT2FIX_eq_integer (by omega), hword]

/-- It is the signed number only if that is not negative either. -/
theorem Ruby.INT2FIX_eq_leInt {w : ℕ} {x : BitVec w} (hx : x.toNat = leNat bytes) (hw : w ≤ 64)
    {n : ℕ} (hlen : bytes.length = n) (hn : n ≤ 4) :
    INT2FIX (x.setWidth 64) = integer (leInt bytes) ↔
      2 * leNat bytes < 2 ^ (8 * n) ∧ leNat bytes < 2 ^ 30 := by
  rw [INT2FIX_setWidth_eq hx hw (hlen.trans_le hn), eq_comm, leNat_eq_leInt, hlen]

theorem Ruby.rbValueFromCValue_eq_iff (h : ty.Describes typObj.typedData)
    (hlen : bytes.length = ty.size) :
    rbValueFromCValue (typObj.withValue bytes) = .ok (integer (ty.denoted bytes)) ↔
      Decodes .ruby ty typObj.value bytes := by
  obtain ⟨-, h⟩ := h
  have hlt := leNat_lt bytes
  rw [hlen] at hlt
  cases ty with
  | INT8 =>
    simp only [rbValueFromCValue, DbgScriptTypedObject.withValue, h.1, h.2, IntType.denoted,
      Decodes]
    rw [Except.ok.injEq,
      INT2FIX_eq_leInt (toNat_byteVal_of_length _ hlen) (by decide) hlen (by decide)]
    simp [IntType.size]
    omega
  | INT16 =>
    simp only [rbValueFromCValue, DbgScriptTypedObject.withValue, h.1, h.2, IntType.denoted,
      Decodes]
    rw [Except.ok.injEq,
      INT2FIX_eq_leInt (toNat_wordVal_of_length _ hlen) (by decide) hlen (by decide)]
    simp [IntType.size]
    omega
  | INT32 | LONG32 =>
    simp only [rbValueFromCValue, DbgScriptTypedObject.withValue, h.1, h.2, IntType.denoted,
      Decodes]
    rw [Except.ok.injEq,
      INT2FIX_eq_leInt (toNat_dwVal_of_length _ hlen) (by decide) hlen (by decide)]
    simp [IntType.size]
    omega
  | UINT8 =>
    simp only [rbValueFromCValue, DbgScriptTypedObject.withValue, h.1, h.2, IntType.denoted,
      Decodes]
    rw [Except.ok.injEq,
      INT2FIX_setWidth_eq (toNat_byteVal_of_length _ hlen) (by decide) (hlen.trans_le (by decide))]
    simp [IntType.size] at hlt ⊢
    omega
  | UINT16 =>
    simp only [rbValueFromCValue, DbgScriptTypedObject.withValue, h.1, h.2, IntType.denoted,
      Decodes]
    rw [Except.ok.injEq,
      INT2FIX_setWidth_eq (toNat_wordVal_of_length _ hlen) (by decide) (hlen.trans_le (by decide))]
    simp [IntType.size] at hlt ⊢
    omega
  | UINT32 | ULONG32 =>
    simp only [rbValueFromCValue, DbgScriptTypedObject.withValue, h.1, h.2, IntType.denoted,
      Decodes]
    rw [Except.ok.injEq, ULONG2NUM, toNat_dwVal_of_length _ hlen]
    exact iff_true_intro rfl
  | INT64 =>
    simp only [rbValueFromCValue, DbgScriptTypedObject.withValue, h.1, h.2, IntType.denoted,
      Decodes]
    rw [Except.ok.injEq, LL2NUM, TypedObjectValue.i64Val, ← TypedObjectValue.ui64Val,
      toInt_ui64Val_of_length _ hlen]
    exact iff_true_intro rfl
  | UINT64 =>
    simp only [rbValueFromCValue, DbgScriptTypedObject.withValue, h.1, h.2, IntType.denoted,
      Decodes]
    rw [Except.ok.injEq, ULL2NUM, toNat_ui64Val_of_length _ hlen]
    exact iff_true_intro rfl
  | enum size hs =>
    simp only [rbValueFromCValue, DbgScriptTypedObject.withValue, h, IntType.denoted, Decodes]
    rw [Except.ok.injEq, ULONG2NUM, integer_inj, ← low_four_eq_iff typObj.value hs hlen,
      TypedObjectValue.toNat_dwVal, Nat.cast_inj]

end Switches

/-! ## The law -/

/-- `.value` of a valid object of an integer type returns the integer that the bytes read
    denote iff the switch of the provider decodes them as they are meant. -/
theorem value_returns_denoted_iff (l : Language) {ty : IntType} {a : PyAnswers}
    {typObj : DbgScriptTypedObject} {bytes : List UInt8} (hty : ty.Describes typObj.typedData)
    (hv : typObj.typedDataValid = true) (hlen : bytes.length = ty.size)
    (h : Reads a typObj bytes) :
    ValueReturns l a typObj (ty.denoted bytes) ↔ Decodes l ty typObj.value bytes := by
  have hp := hty.isPrimitive
  cases l with
  | lua =>
    rw [← Lua.luaValueFromCValue_eq_iff hty hlen, ValueReturns, Lua.getvalue_of_reads h hv hp]
    rcases Lua.luaValueFromCValue (typObj.withValue bytes) with e | v
    · simp [Except.map]
    · simp [Except.map]
  | python =>
    obtain ⟨i, hi, hiff⟩ := Python.pyValueFromCValue_eq hty hlen
    rw [← hiff, ValueReturns, Python.getValue_of_reads h hv hp hi]
    simp
  | ruby =>
    rw [← Ruby.rbValueFromCValue_eq_iff hty hlen, ValueReturns, Ruby.value_of_reads h hv hp]

/-- An object of the base type `t` and of `size` bytes. -/
def baseTypeObject (t : BuiltinType) (size : ULONG) : DbgScriptTypedObject :=
  { DbgScriptTypedObject.zero with
    typedData := { DebugTypedData.zero with tag := .BaseType, baseTypeId := t, size := size }
    typedDataValid := true }

/-- A debugger that reads `bytes`. -/
def readingDebugger (bytes : List UInt8) : PyAnswers
  | _, .inl .getInterrupt => S_FALSE
  | _, .inl (.readTypedData _ _ _) => (S_OK, bytes)
  | _, .inl r => (default : r.Answer)
  | _, .inr c => c.succeeds

theorem value_returns_denoted_minus_two :
    ValueReturns .python (readingDebugger [0xFE, 0xFF, 0xFF, 0xFF]) (baseTypeObject .INT32 4)
        (IntType.denoted .INT32 [0xFE, 0xFF, 0xFF, 0xFF]) ↔
      Decodes .python .INT32 (Buf.zero UInt8 8) [0xFE, 0xFF, 0xFF, 0xFF] :=
  value_returns_denoted_iff .python ⟨rfl, rfl, rfl⟩ rfl rfl ⟨by decide, ⟨S_OK, rfl, rfl⟩, rfl⟩

/-- All three providers return 255 for an `INT8` that is -1. -/
theorem value_of_int8_minus_one :
    IntType.denoted .INT8 [0xFF] = -1 ∧
      ∀ l, ValueReturns l (readingDebugger [0xFF]) (baseTypeObject .INT8 1) 255 ∧
        ¬ ValueReturns l (readingDebugger [0xFF]) (baseTypeObject .INT8 1) (-1) := by
  refine ⟨by decide, ?_⟩
  intro l
  cases l
  · have h : ValueReturns .lua (readingDebugger [0xFF]) (baseTypeObject .INT8 1) 255 := by rfl
    refine ⟨h, ?_⟩
    intro h'
    rw [ValueReturns] at h h'
    rw [h] at h'
    simp at h'
  · have h : ValueReturns .python (readingDebugger [0xFF]) (baseTypeObject .INT8 1) 255 := by rfl
    refine ⟨h, ?_⟩
    intro h'
    rw [ValueReturns] at h h'
    rw [h] at h'
    simp at h'
  · have h : ValueReturns .ruby (readingDebugger [0xFF]) (baseTypeObject .INT8 1) 255 := by rfl
    refine ⟨h, ?_⟩
    intro h'
    rw [ValueReturns] at h h'
    rw [h, Except.ok.injEq, Ruby.integer_inj] at h'
    omega

end DbgScript
