import DbgScript.Lua.Objects

/-!
# Written fields of Lua objects

`lua_newuserdata` returns memory with arbitrary contents, and the functions that fill in
an object may leave part of it as it was. Each function is compared with itself on another
block of memory.

* `Agree`: two objects are the same as far as they have been written.
* `rel_dsWrapTypedData`, `rel_dsInitializeTypedObject`: what the initialisers write does
  not depend on the block.
* `IndexReads`, `RuntimeReads`: the reads of an object that only depend on what has been
  written (`alike_typedObjectIndex`, `alike_getRuntimeObject`).
-/

namespace DbgScript.Lua

open CharBuf (CStr Buf FixedStr)
open Dialogue (Rel)

/-! ## Agreement -/

/-- The three names are the same strings. -/
structure NamesAgree (o o' : DbgScriptTypedObject) : Prop where
  name : o.name.str = o'.name.str
  typeName : o.typeName.str = o'.typeName.str
  moduleName : o.moduleName.str = o'.moduleName.str

/-- The objects are the same as far as they have been written, apart from the names and
    what an object at address 0 has. -/
structure DataAgree (o o' : DbgScriptTypedObject) : Prop where
  stored : o.stored = o'.stored
  valueBytes : o.valueBytes = o'.valueBytes
  value : o.value.cells.take o.valueBytes = o'.value.cells.take o.valueBytes
  typedData : o.stored = .all → o.typedData = o'.typedData
  typedDataValid : o.stored = .all → o.typedDataValid = o'.typedDataValid

/-- The objects are the same as far as they have been written. -/
structure Agree (o o' : DbgScriptTypedObject) : Prop extends DataAgree o o' where
  names : o.stored ≠ .nothing → NamesAgree o o'
  size : o.stored ≠ .nothing → o.typedData.size = o'.typedData.size
  offset : o.stored ≠ .nothing → o.typedData.offset = o'.typedData.offset

theorem dataAgree_unwritten (mem mem' : DbgScriptTypedObject) :
    DataAgree mem.unwritten mem'.unwritten :=
  ⟨rfl, rfl, rfl, fun h => Stored.noConfusion h, fun h => Stored.noConfusion h⟩

theorem agree_unwritten (mem mem' : DbgScriptTypedObject) : Agree mem.unwritten mem'.unwritten :=
  ⟨dataAgree_unwritten mem mem', fun h => absurd rfl h, fun h => absurd rfl h,
    fun h => absurd rfl h⟩

theorem Agree.of_all {o o' : DbgScriptTypedObject} (h : DataAgree o o') (hn : NamesAgree o o')
    (hall : o.stored = .all) : Agree o o' where
  toDataAgree := h
  names _ := hn
  size _ := by rw [h.typedData hall]
  offset _ := by rw [h.typedData hall]

/-! ## Initialisers -/

section Initialisers

variable {o o' : DbgScriptTypedObject}

/-- The same code, and objects that are related if it is no failure. -/
def OrFails (P : DbgScriptTypedObject → DbgScriptTypedObject → Prop)
    (r r' : DbgScriptTypedObject × HRESULT) : Prop :=
  r.2 = r'.2 ∧ (FAILED r.2 = false → P r.1 r'.1)

theorem orFails_failed {P : DbgScriptTypedObject → DbgScriptTypedObject → Prop} {hr : HRESULT}
    (h : FAILED hr = true) : OrFails P (o, hr) (o', hr) := by
  refine ⟨rfl, fun hf => ?_⟩
  rw [h] at hf
  exact Bool.noConfusion hf

/-- The same data and the same names, with the fields `st` written apart from them. -/
structure NamedAlike (st : Stored) (o o' : DbgScriptTypedObject) : Prop where
  data : DataAgree o o'
  names : NamesAgree o o'
  stored : o.stored = st

theorem str_cchCopy_eq {n : ℕ} [NeZero n] (b b' : Buf CHAR n) {src : List CHAR}
    (hs : (0 : CHAR) ∉ src) : (b.cchCopy src).str = (b'.cchCopy src).str := by
  rw [CharBuf.str_cchCopy b (Nat.pos_of_neZero n) hs,
    CharBuf.str_cchCopy b' (Nat.pos_of_neZero n) hs]

theorem rel_fillTypeAndModuleName (h : DataAgree o o') (hname : o.name.str = o'.name.str)
    {st : Stored} (hst : o.stored = st) (typeId : ULONG) (moduleBase : UINT64) :
    Rel (OrFails (NamedAlike st)) (fillTypeAndModuleName typeId moduleBase o)
      (fillTypeAndModuleName typeId moduleBase o') := by
  refine .ask _ fun typeName => ?_
  cases typeName with
  | none => exact .ask _ fun _ => .done (orFails_failed rfl)
  | some typeName =>
    refine .ask _ fun modName => ?_
    cases modName with
    | none => exact .ask _ fun _ => .done (orFails_failed rfl)
    | some modName =>
      refine .done ⟨rfl, fun _ => ⟨⟨h.stored, h.valueBytes, h.value, h.typedData,
        h.typedDataValid⟩, ⟨hname, ?_, ?_⟩, hst⟩⟩
      · exact str_cchCopy_eq _ _ typeName.nulFree
      · exact str_cchCopy_eq _ _ modName.nulFree

theorem rel_dsWrapTypedData (h : DataAgree o o') (name : AnsiStr) (typedData : DebugTypedData) :
    Rel (OrFails Agree) (dsWrapTypedData name typedData o)
      (dsWrapTypedData name typedData o') := by
  have hdata : DataAgree
      { o with name := o.name.cchCopy name.chars, typedData := typedData, typedDataValid := true,
               stored := .all }
      { o' with name := o'.name.cchCopy name.chars, typedData := typedData, typedDataValid := true,
                stored := .all } :=
    ⟨rfl, h.valueBytes, h.value, fun _ => rfl, fun _ => rfl⟩
  refine (rel_fillTypeAndModuleName hdata (str_cchCopy_eq _ _ name.nulFree) rfl _ _).mono ?_
  rintro r r' ⟨hhr, hagree⟩
  refine ⟨hhr, fun hf => ?_⟩
  have hnamed := hagree hf
  exact .of_all hnamed.data hnamed.names hnamed.stored

theorem ansi_nulFree : (0 : CHAR) ∉ ansi "<unnamed>" ∧ (0 : CHAR) ∉ ansi "<invalid>" := by decide

theorem rel_initializeNames (h : DataAgree o o') (name : Option AnsiStr) (typeId : ULONG)
    (moduleBase : UINT64) :
    Rel (OrFails (NamedAlike o.stored)) (initializeNames name typeId moduleBase o)
      (initializeNames name typeId moduleBase o') := by
  have hname : (0 : CHAR) ∉ (name.map CStr.chars).getD (ansi "<unnamed>") := by
    cases name with
    | none => exact ansi_nulFree.1
    | some name => exact name.nulFree
  rw [initializeNames, initializeNames]
  split
  · apply rel_fillTypeAndModuleName
    · exact ⟨h.stored, h.valueBytes, h.value, h.typedData, h.typedDataValid⟩
    · exact str_cchCopy_eq _ _ hname
    · rfl
  · refine .done ⟨rfl, fun _ => ⟨⟨h.stored, h.valueBytes, h.value, h.typedData,
      h.typedDataValid⟩, ⟨?_, ?_, ?_⟩, rfl⟩⟩
    · exact str_cchCopy_eq _ _ hname
    · exact str_cchCopy_eq _ _ ansi_nulFree.2
    · exact str_cchCopy_eq _ _ ansi_nulFree.2

theorem rel_dsInitializeTypedObject (h : DataAgree o o') (size : ULONG) (name : Option AnsiStr)
    (typeId : ULONG) (moduleBase virtualAddress : UINT64) (wantPointer : Bool) :
    Rel (OrFails Agree)
      (dsInitializeTypedObject size name typeId moduleBase virtualAddress wantPointer o)
      (dsInitializeTypedObject size name typeId moduleBase virtualAddress wantPointer o') := by
  refine (rel_initializeNames h name typeId moduleBase).bind ?_
  rintro ⟨p, hr⟩ ⟨p', hr'⟩ ⟨rfl, hagree⟩
  by_cases hf : FAILED hr = true
  · simp only [hf, if_true]
    exact .done (orFails_failed hf)
  obtain ⟨hdata, hnames, -⟩ : NamedAlike o.stored p p' := hagree (by simpa using hf)
  simp only [if_neg hf]
  split
  · refine .ask _ fun ⟨hr, outData⟩ => ?_
    show Rel (OrFails Agree) (if FAILED hr then _ else _) (if FAILED hr then _ else _)
    by_cases hf : FAILED hr = true
    · rw [if_pos hf, if_pos hf]
      exact .ask _ fun _ => .done (orFails_failed hf)
    · rw [if_neg hf, if_neg hf]
      refine .done ⟨rfl, fun _ => .of_all ?_ ⟨hnames.name, hnames.typeName, hnames.moduleName⟩ rfl⟩
      exact ⟨rfl, hdata.valueBytes, hdata.value, fun _ => rfl, fun _ => rfl⟩
  · refine .done ⟨rfl, fun _ => ⟨⟨?_, hdata.valueBytes, hdata.value, ?_, ?_⟩, ?_, ?_, ?_⟩⟩
    · show (if p.stored = .all then _ else _) = if p'.stored = .all then _ else _
      rw [hdata.stored]
    · intro hall
      have hp : p.stored = .all := by simpa using hall
      show ({ p.typedData with size := size, offset := virtualAddress } : DebugTypedData) = _
      rw [hdata.typedData hp]
    · intro hall
      exact hdata.typedDataValid (by simpa using hall)
    · exact fun _ => ⟨hnames.name, hnames.typeName, hnames.moduleName⟩
    · exact fun _ => rfl
    · exact fun _ => rfl

end Initialisers

/-! ## Functions that make objects -/

/-- The same value, or new objects that agree. -/
inductive ResultAgree : LuaResult → LuaResult → Prop
  | value (v : LuaValue) : ResultAgree (.value v) (.value v)
  | userdata {o o' : DbgScriptTypedObject} (h : Agree o o') :
    ResultAgree (.userdata o) (.userdata o')

section Functions

/-- The functions end in the same error or in related results. -/
abbrev Same {α β : Type} (R : α → β → Prop) (f : LuaM α) (g : LuaM β) : Prop :=
  Rel (Throws.SameError R) f.attempt g.attempt

/-- An initialiser whose failure is raised as an error. -/
theorem same_raise {α β : Type} {S : α → β → Prop}
    {d d' : DsM (DbgScriptTypedObject × HRESULT)} (h : Rel (OrFails Agree) d d') (text : String)
    {f : DbgScriptTypedObject → LuaM α} {g : DbgScriptTypedObject → LuaM β}
    (hfg : ∀ o o', Agree o o' → Same S (f o) (g o')) :
    Same S
      (do
        let (o, hr) ← Throws.lift d
        if FAILED hr then raise text [.hr hr] else f o)
      (do
        let (o, hr) ← Throws.lift d'
        if FAILED hr then raise text [.hr hr] else g o) := by
  refine Throws.rel_bind (Throws.rel_lift h) ?_
  rintro ⟨o, hr⟩ ⟨o', hr'⟩ ⟨rfl, hagree⟩
  by_cases hf : FAILED hr = true
  · simp only [hf, if_true]
    exact .done (.error _)
  · simp only [hf]
    exact hfg o o' (hagree (by simpa using hf))

variable (mem mem' : DbgScriptTypedObject)

theorem same_allocSubTypedObject (name : AnsiStr) (typedData : DebugTypedData) :
    Same Agree (allocSubTypedObject mem name typedData)
      (allocSubTypedObject mem' name typedData) := by
  refine Throws.rel_bind_same _ fun _ => same_raise ?_ _ fun _ _ h => .done (.ok h)
  exact rel_dsWrapTypedData (dataAgree_unwritten mem mem') name typedData

theorem same_allocNewTypedObject (size : ULONG) (name : Option AnsiStr) (typeId : ULONG)
    (moduleBase virtualAddress : UINT64) (wantPointer : Bool) :
    Same Agree
      (allocNewTypedObject mem size name typeId moduleBase virtualAddress wantPointer)
      (allocNewTypedObject mem' size name typeId moduleBase virtualAddress wantPointer) := by
  refine Throws.rel_bind_same _ fun _ => same_raise ?_ _ fun _ _ h => .done (.ok h)
  exact rel_dsInitializeTypedObject (dataAgree_unwritten mem mem') ..

theorem same_createTypedObjectHelper (typeName : AnsiStr) (addr : UINT64) (wantPointer : Bool) :
    Same Agree (createTypedObjectHelper mem typeName addr wantPointer)
      (createTypedObjectHelper mem' typeName addr wantPointer) := by
  refine Throws.rel_bind_same _ fun _ => Throws.rel_bind_same _ fun typeInfo => ?_
  cases typeInfo with
  | none => exact .done (.error _)
  | some typeInfo => exact same_allocNewTypedObject mem mem' ..

theorem same_dbgscriptGetGlobal (symbol : AnsiStr) :
    Same Agree (dbgscriptGetGlobal mem symbol) (dbgscriptGetGlobal mem' symbol) := by
  refine Throws.rel_bind_same _ fun _ => Throws.rel_bind_same _ fun answer => ?_
  obtain ⟨hr, addr⟩ := answer
  by_cases hf : FAILED hr = true
  · simp only [hf, if_true]
    exact .done (.error _)
  · simp only [hf]
    refine Throws.rel_bind_same _ fun typeInfo => ?_
    cases typeInfo with
    | none => exact .done (.error _)
    | some typeInfo => exact same_allocNewTypedObject mem mem' ..

/-- What the enumeration of the locals has made so far. -/
def ListAgree (r r' : HRESULT × List DbgScriptTypedObject) : Prop :=
  r.1 = r'.1 ∧ List.Forall₂ Agree r.2 r'.2

theorem same_enumSymbols (mems mems' : ℕ → DbgScriptTypedObject) (k : ℕ) :
    ∀ (i : ℕ) {objs objs' : List DbgScriptTypedObject}, List.Forall₂ Agree objs objs' →
      Same ListAgree (enumSymbols Throws.lift (buildArrayFromLocals mems) k i objs)
        (enumSymbols Throws.lift (buildArrayFromLocals mems') k i objs') := by
  induction k with
  | zero => exact fun i objs objs' h => .done (.ok ⟨rfl, h⟩)
  | succ k ih =>
    intro i objs objs' h
    refine Throws.rel_bind_same _ fun r => ?_
    rcases r with hr | ⟨entry, symName⟩
    · exact .done (.ok ⟨rfl, h⟩)
    · have hcallback : Same ListAgree (buildArrayFromLocals mems objs entry symName i)
          (buildArrayFromLocals mems' objs' entry symName i) := by
        refine Throws.rel_bind (same_allocNewTypedObject (mems i) (mems' i) ..) ?_
        exact fun o o' ho => .done (.ok ⟨rfl, List.rel_append h (.cons ho .nil)⟩)
      refine Throws.rel_bind hcallback ?_
      rintro ⟨hr, new⟩ ⟨_, new'⟩ ⟨rfl, hnew⟩
      by_cases hf : FAILED hr = true
      · simp only [hf, if_true]
        exact .done (.ok ⟨rfl, hnew⟩)
      · simp only [hf]
        exact ih (i + 1) hnew

theorem same_getVariablesHelper (mems mems' : ℕ → DbgScriptTypedObject) (thd : DbgScriptThread)
    (frame : DbgScriptStackFrame) (flags : ULONG) :
    Same (List.Forall₂ Agree) (getVariablesHelper mems thd frame flags)
      (getVariablesHelper mems' thd frame flags) := by
  refine Throws.rel_bind_same _ fun _ => Throws.rel_bind_same _ fun answer => ?_
  obtain ⟨hr, numSym⟩ := answer
  by_cases hf : FAILED hr = true
  · simp only [hf, if_true]
    exact .done (.error _)
  · simp only [hf]
    refine Throws.rel_bind (R := ListAgree) ?_ ?_
    · refine Throws.rel_bind (same_enumSymbols mems mems' _ 0 .nil) fun r r' hr => ?_
      exact Throws.rel_bind_same _ fun _ => .done (.ok hr)
    · rintro ⟨hr, new⟩ ⟨_, new'⟩ ⟨rfl, hnew⟩
      by_cases hf : FAILED hr = true
      · simp only [hf, if_true]
        exact .done (.error _)
      · simp only [hf]
        exact .done (.ok hnew)

end Functions

/-! ## Functions of an object -/

section Readers

variable {o o' : DbgScriptTypedObject} (mem mem' : DbgScriptTypedObject)

theorem dsTypedObjectGetField_eq (h : o.typedData = o'.typedData) (fieldName : AnsiStr)
    (fPrintMissing : Bool) :
    dsTypedObjectGetField o fieldName fPrintMissing =
      dsTypedObjectGetField o' fieldName fPrintMissing := by
  rw [dsTypedObjectGetField, dsTypedObjectGetField, h]

theorem dsTypedObjectGetArrayElement_eq (h : o.typedData = o'.typedData) (index : UINT64) :
    dsTypedObjectGetArrayElement o index = dsTypedObjectGetArrayElement o' index := by
  rw [dsTypedObjectGetArrayElement, dsTypedObjectGetArrayElement, h]

theorem checkTypedData_eq (h : o.typedDataValid = o'.typedDataValid) :
    checkTypedData o = checkTypedData o' := by
  rw [checkTypedData, checkTypedData, h]

theorem cstrOf_eq {n : ℕ} {b b' : Buf CHAR n} (h : b.str = b'.str) : cstrOf b = cstrOf b' :=
  CStr.ext h

theorem same_getElement (h : o.typedData = o'.typedData) (index : UINT64) (name : AnsiStr) :
    Same ResultAgree (getElement mem o index name) (getElement mem' o' index name) := by
  rw [getElement, getElement, dsTypedObjectGetArrayElement_eq h]
  refine Throws.rel_bind_same _ fun answer => ?_
  obtain ⟨hr, typedData⟩ := answer
  by_cases hf : FAILED hr = true
  · simp only [hf, if_true]
    exact .done (.error _)
  · simp only [hf]
    refine Throws.rel_bind (same_allocSubTypedObject mem mem' name typedData) ?_
    exact fun _ _ ho => .done (.ok (.userdata ho))

theorem same_getFieldOf (h : o.typedData = o'.typedData) (key : Key) :
    Same ResultAgree (getFieldOf mem o key) (getFieldOf mem' o' key) := by
  cases key with
  | string s =>
    rw [getFieldOf, getFieldOf, dsTypedObjectGetField_eq h]
    refine Throws.rel_bind_same _ fun answer => ?_
    obtain ⟨hr, typedData⟩ := answer
    by_cases hf : FAILED hr = true
    · simp only [hf, if_true]
      exact .done (.error _)
    · simp only [hf]
      refine Throws.rel_bind (same_allocSubTypedObject mem mem' _ typedData) ?_
      exact fun _ _ ho => .done (.ok (.userdata ho))
  | integer i => exact .done (.error _)
  | other => exact .done (.error _)

theorem Agree.refl (o : DbgScriptTypedObject) : Agree o o :=
  ⟨⟨rfl, rfl, rfl, fun _ => rfl, fun _ => rfl⟩, fun _ => ⟨rfl, rfl, rfl⟩, fun _ => rfl,
    fun _ => rfl⟩

theorem same_refl (f : LuaM LuaResult) : Same ResultAgree f f := by
  refine (Throws.rel_refl f).mono ?_
  rintro _ _ (⟨rfl⟩ | e)
  · rename_i r
    cases r with
    | value v => exact .ok (.value v)
    | userdata o => exact .ok (.userdata (.refl o))
  · exact .error e

/-- What is left of the object, and the result. -/
def OutcomeAgree (r r' : Outcome) : Prop :=
  Agree r.1 r'.1 ∧ Throws.SameError ResultAgree r.2 r'.2

theorem rel_reading (h : Agree o o') {f g : LuaM LuaResult} (hfg : Same ResultAgree f g) :
    Rel OutcomeAgree (reading o f) (reading o' g) :=
  Rel.bind hfg fun _ _ hr => .done ⟨h, hr⟩

theorem rel_typedObjectGetfield (h : Agree o o') (hall : o.stored = .all) (key : Key) :
    Rel OutcomeAgree (reading o (typedObjectGetfield mem o key))
      (reading o' (typedObjectGetfield mem' o' key)) := by
  refine rel_reading h ?_
  rw [typedObjectGetfield, typedObjectGetfield, checkTypedData_eq (h.typedDataValid hall)]
  refine Throws.rel_bind_same _ fun _ => Throws.rel_bind_same _ fun _ => ?_
  exact same_getFieldOf mem mem' (h.typedData hall) key

theorem rel_typedObjectDeref (h : Agree o o') (hall : o.stored = .all) :
    Rel OutcomeAgree (reading o (typedObjectDeref mem o))
      (reading o' (typedObjectDeref mem' o')) := by
  have hnames := h.names (by simp [hall])
  refine rel_reading h ?_
  rw [typedObjectDeref, typedObjectDeref, cstrOf_eq hnames.name]
  exact Throws.rel_bind_same _ fun _ => same_getElement mem mem' (h.typedData hall) _ _

theorem rel_typedObjectLen (h : Agree o o') (hall : o.stored = .all) :
    Rel OutcomeAgree (reading o (typedObjectLen o)) (reading o' (typedObjectLen o')) := by
  have heq : typedObjectLen o = typedObjectLen o' := by
    rw [typedObjectLen, typedObjectLen, checkTypedData_eq (h.typedDataValid hall),
      dsTypedObjectGetArrayElement_eq (h.typedData hall), h.typedData hall]
  rw [heq]
  exact rel_reading h (same_refl _)

theorem rel_typedObjectReadString (h : Agree o o') (hall : o.stored = .all)
    (count : Option (BitVec 64)) :
    Rel OutcomeAgree (reading o (typedObjectReadString o count))
      (reading o' (typedObjectReadString o' count)) := by
  have heq : typedObjectReadString o count = typedObjectReadString o' count := by
    rw [typedObjectReadString, typedObjectReadString, checkTypedData_eq (h.typedDataValid hall),
      h.typedData hall]
  rw [heq]
  exact rel_reading h (same_refl _)

theorem rel_typedObjectReadWideString (h : Agree o o') (hall : o.stored = .all)
    (count : Option (BitVec 64)) :
    Rel OutcomeAgree (reading o (typedObjectReadWideString o count))
      (reading o' (typedObjectReadWideString o' count)) := by
  have heq : typedObjectReadWideString o count = typedObjectReadWideString o' count := by
    rw [typedObjectReadWideString, typedObjectReadWideString,
      checkTypedData_eq (h.typedDataValid hall), h.typedData hall]
  rw [heq]
  exact rel_reading h (same_refl _)

theorem rel_typedObjectReadBytes (h : Agree o o') (hsome : o.stored ≠ .nothing)
    (count : BitVec 64) :
    Rel OutcomeAgree (reading o (typedObjectReadBytes o count))
      (reading o' (typedObjectReadBytes o' count)) := by
  rw [typedObjectReadBytes, typedObjectReadBytes, h.offset hsome]
  exact rel_reading h (same_refl _)

end Readers

/-! ## The value -/

section Value

variable {o o' : DbgScriptTypedObject}

/-- The bytes of the union that the conversion reads. -/
def valueWidth (typedData : DebugTypedData) : ℕ :=
  match typedData.tag with
  | .PointerType => 8
  | .Enum => 4
  | _ =>
    match typedData.baseTypeId with
    | .CHAR | .INT8 | .UINT8 | .BOOL => 1
    | .INT16 | .UINT16 | .WCHAR => 2
    | .INT32 | .LONG32 | .UINT32 | .ULONG32 | .FLOAT32 => 4
    | .INT64 | .UINT64 | .FLOAT64 => 8
    | .other _ => 0

theorem take_eq_of_le {α : Type} {l m : List α} {w n : ℕ} (h : l.take w = m.take w)
    (hn : n ≤ w) : l.take n = m.take n := by
  have hn' := congrArg (List.take n) h
  rwa [List.take_take, List.take_take, min_eq_left hn] at hn'

theorem low_eq_of_take {v v' : TypedObjectValue} {w n : ℕ}
    (h : v.cells.take w = v'.cells.take w) (hn : n ≤ w) : v.low n = v'.low n := by
  rw [TypedObjectValue.low, TypedObjectValue.low, take_eq_of_le h hn]

theorem luaValueFromCValue_eq (htd : o.typedData = o'.typedData)
    (hname : o.typeName.str = o'.typeName.str)
    (hv : o.value.cells.take (valueWidth o.typedData) =
      o'.value.cells.take (valueWidth o.typedData)) :
    luaValueFromCValue o = luaValueFromCValue o' := by
  have hlow : ∀ n, n ≤ valueWidth o.typedData → o.value.low n = o'.value.low n :=
    fun n hn => low_eq_of_take hv hn
  rw [valueWidth] at hlow
  rw [luaValueFromCValue, luaValueFromCValue, ← htd, hname]
  cases htag : o.typedData.tag with
  | PointerType | Enum =>
    simp only [htag] at hlow
    simp only [TypedObjectValue.ui64Val, TypedObjectValue.dwVal, hlow _ le_rfl]
  | ArrayType | BaseType | other =>
    cases hbase : o.typedData.baseTypeId with
    | other => rfl
    | BOOL =>
      simp only [htag, hbase] at hlow
      have hbyte : o.value.byteVal = o'.value.byteVal := congrArg (BitVec.ofNat 8) (hlow _ le_rfl)
      simp only [TypedObjectValue.boolVal, hbyte]
    | _ =>
      simp only [htag, hbase] at hlow
      simp only [TypedObjectValue.ui64Val, TypedObjectValue.dwVal, TypedObjectValue.wordVal,
        TypedObjectValue.byteVal, TypedObjectValue.floatVal, TypedObjectValue.doubleVal,
        hlow _ le_rfl]

/-- The union after a read: the bytes read, and what they leave of those written before. -/
theorem agree_withValue (h : Agree o o') (bytes : List UInt8) :
    Agree (o.withValue bytes) (o'.withValue bytes) := by
  refine ⟨⟨h.stored, ?_, ?_, h.typedData, h.typedDataValid⟩, fun hs => ?_, h.size, h.offset⟩
  · simp only [DbgScriptTypedObject.withValue, h.valueBytes]
  · by_cases hlen : bytes.length ≤ 8
    · have hdrop : (o.value.cells.drop bytes.length).take
            (max o.valueBytes bytes.length - bytes.length) =
          (o'.value.cells.drop bytes.length).take
            (max o.valueBytes bytes.length - bytes.length) := by
        rcases le_total o.valueBytes bytes.length with hle | hle
        · simp [max_eq_right hle]
        · rw [max_eq_left hle, ← List.drop_take, ← List.drop_take, h.value]
      simp only [DbgScriptTypedObject.withValue, hlen, if_true]
      rw [CharBuf.cells_memcpy o.value (by omega), CharBuf.cells_memcpy o'.value (by omega)]
      simp only [List.take_zero, List.nil_append, Nat.zero_add]
      rw [List.take_append, List.take_append, hdrop]
    · simp only [DbgScriptTypedObject.withValue, hlen, if_false, Buf.memcpy, Nat.zero_add,
        dite_false]
      exact h.value
  · have hn := h.names hs
    exact ⟨hn.name, hn.typeName, hn.moduleName⟩

/-- The bytes that the conversion reads have been written, now or by an earlier read. -/
def ValueWritten (a : DebuggerAnswers) (n : ℕ) (o : DbgScriptTypedObject) : Prop :=
  let r := a n (.readTypedData o.typedData.offset o.typedData.modBase o.typedData.typeId)
  FAILED r.1 = false → valueWidth o.typedData ≤ (o.withValue r.2).valueBytes

theorem alike_typedObjectGetvalue (h : Agree o o') (hall : o.stored = .all) {a : DebuggerAnswers}
    {n : ℕ} (hread : ValueWritten a (n + 1) o) :
    Dialogue.Alike a n OutcomeAgree (typedObjectGetvalue o) (typedObjectGetvalue o') := by
  have htd := h.typedData hall
  rw [Dialogue.Alike, run_typedObjectGetvalue, run_typedObjectGetvalue, ← h.typedDataValid hall]
  have hprim : dsTypedObjectIsPrimitive o' = dsTypedObjectIsPrimitive o := by
    rw [dsTypedObjectIsPrimitive, dsTypedObjectIsPrimitive, htd]
  rw [hprim, ← htd]
  split
  · exact ⟨⟨h, .error _⟩, rfl⟩
  split
  · exact ⟨⟨h, .error _⟩, rfl⟩
  split
  · exact ⟨⟨h, .error _⟩, rfl⟩
  simp only
  split
  · exact ⟨⟨h, .error _⟩, rfl⟩
  · rename_i hf
    have hagree := agree_withValue h
      (a (n + 1) (.readTypedData o.typedData.offset o.typedData.modBase o.typedData.typeId)).2
    have hnames := hagree.names fun hs => Stored.noConfusion (hall.symm.trans hs)
    have hvalue := luaValueFromCValue_eq (hagree.typedData hall) hnames.typeName
      (take_eq_of_le hagree.value (hread (by simpa using hf)))
    refine ⟨⟨hagree, ?_⟩, rfl⟩
    rw [hvalue]
    cases luaValueFromCValue (o'.withValue _) with
    | error e => exact .error e
    | ok v => exact .ok (.value v)

end Value

/-! ## The indexer -/

section Index

variable {o o' : DbgScriptTypedObject} (mem mem' : DbgScriptTypedObject)

/-- The properties that only read what an object at address 0 has, too. -/
def headerProperties : List (List CHAR) := ["name", "size", "type", "module", "address"].map ansi

/-- What the indexer reads of the object has been written: nothing for a method, the names,
    the size and the address for these properties, the bytes of a value, and the typed data
    for everything else. -/
def IndexReads (a : DebuggerAnswers) (n : ℕ) (o : DbgScriptTypedObject) : Key → Prop
  | .integer _ => o.stored = .all
  | .string s =>
    if s ∈ metatable then True
    else if s ∈ headerProperties then o.stored ≠ .nothing
    else if s = ansi "value" then o.stored = .all ∧ ValueWritten a (n + 2) o
    else o.stored = .all
  | .other => True

theorem rel_getter (h : Agree o o') {v v' : LuaValue} (hv : v = v') :
    Rel OutcomeAgree (reading o (getter v)) (reading o' (getter v')) := by
  rw [hv]
  exact rel_reading h (same_refl _)

/-- A property is the same function on both objects. -/
theorem property?_alike (h : Agree o o') {a : DebuggerAnswers} {n : ℕ} {s : List CHAR}
    (hs : s ∉ metatable) (hreads : IndexReads a n o (.string s)) :
    (property? mem o s = none ∧ property? mem' o' s = none ∧ o.stored = .all) ∨
      ∃ d d', property? mem o s = some d ∧ property? mem' o' s = some d' ∧
        Dialogue.Alike a (n + 1) OutcomeAgree d d' := by
  rw [IndexReads, if_neg hs] at hreads
  by_cases hheader : s ∈ headerProperties
  · rw [if_pos hheader] at hreads
    have hnames := h.names hreads
    simp only [headerProperties, List.map_cons, List.map_nil, List.mem_cons, List.not_mem_nil,
      or_false] at hheader
    right
    rcases hheader with rfl | rfl | rfl | rfl | rfl
    · exact ⟨_, _, rfl, rfl, (rel_getter h (congrArg _ hnames.name)).alike _⟩
    · exact ⟨_, _, rfl, rfl, (rel_getter h (by rw [h.size hreads])).alike _⟩
    · exact ⟨_, _, rfl, rfl, (rel_getter h (congrArg _ hnames.typeName)).alike _⟩
    · exact ⟨_, _, rfl, rfl, (rel_getter h (congrArg _ hnames.moduleName)).alike _⟩
    · exact ⟨_, _, rfl, rfl, (rel_getter h (congrArg _ (h.offset hreads))).alike _⟩
  rw [if_neg hheader] at hreads
  by_cases hvalue : s = ansi "value"
  · rw [if_pos hvalue] at hreads
    obtain ⟨hall, hread⟩ := hreads
    right
    subst hvalue
    exact ⟨_, _, rfl, rfl, alike_typedObjectGetvalue h hall hread⟩
  rw [if_neg hvalue] at hreads
  by_cases hderef : s = ansi "deref"
  · right
    subst hderef
    exact ⟨_, _, rfl, rfl, (rel_typedObjectDeref mem mem' h hreads).alike _⟩
  · left
    simp only [headerProperties, List.map_cons, List.map_nil, List.mem_cons, List.not_mem_nil,
      not_or] at hheader
    obtain ⟨h1, h2, h3, h4, h5, -⟩ := hheader
    simp [property?, h1, h2, h3, h4, h5, hvalue, hderef, hreads]

/-- One question has been asked before the rest. -/
theorem alike_utilCheckAbort {α β : Type} {S : α → β → Prop} {a : DebuggerAnswers} {n : ℕ}
    {f : Bool → DsM α} {g : Bool → DsM β} :
    Dialogue.Alike a n S (utilCheckAbort >>= f) (utilCheckAbort >>= g) ↔
      Dialogue.Alike a (n + 1) S (f (decide (a n .getInterrupt = S_OK)))
        (g (decide (a n .getInterrupt = S_OK))) :=
  Dialogue.alike_ask

theorem alike_typedObjectIndex (h : Agree o o') {a : DebuggerAnswers} {n : ℕ} {key : Key}
    (hreads : a n .getInterrupt ≠ S_OK → IndexReads a n o key) :
    Dialogue.Alike a n OutcomeAgree (typedObjectIndex mem o key)
      (typedObjectIndex mem' o' key) := by
  show Dialogue.Alike a n OutcomeAgree (utilCheckAbort >>= _) (utilCheckAbort >>= _)
  rw [alike_utilCheckAbort]
  by_cases hint : a n .getInterrupt = S_OK
  · simp only [hint, decide_true, if_true]
    exact ⟨⟨h, .error _⟩, rfl⟩
  specialize hreads hint
  simp only [hint, decide_false, Bool.false_eq_true, if_false]
  cases key with
  | integer i =>
    refine (rel_reading h ?_).alike _
    rw [checkTypedData_eq (h.typedDataValid hreads)]
    exact Throws.rel_bind_same _ fun _ => same_getElement mem mem' (h.typedData hreads) i _
  | other => exact ⟨⟨h, .error _⟩, rfl⟩
  | string s =>
    by_cases hs : s ∈ metatable
    · simp only [hs, if_true]
      exact ⟨⟨h, .ok (.value _)⟩, rfl⟩
    simp only [hs, if_false]
    rcases property?_alike mem mem' h hs hreads with
      ⟨hnone, hnone', hall⟩ | ⟨d, d', hd, hd', halike⟩
    · simp only [hnone, hnone']
      refine (rel_reading h ?_).alike _
      rw [checkTypedData_eq (h.typedDataValid hall)]
      refine Throws.rel_bind_same _ fun _ => Throws.rel_bind_same _ fun _ => ?_
      exact same_getFieldOf mem mem' (h.typedData hall) _
    · simp only [hd, hd']
      exact halike

end Index

/-! ## Runtime types -/

section Runtime

variable {o o' : DbgScriptTypedObject} (mem mem' : DbgScriptTypedObject)

theorem rel_dsTypedObjectGetRuntimeType (h : Agree o o') (hall : o.stored = .all) :
    Rel (OrFails Agree) (dsTypedObjectGetRuntimeType o mem.unwritten)
      (dsTypedObjectGetRuntimeType o' mem'.unwritten) := by
  have hname := (h.names (by simp [hall])).name
  have hvtable : readVtablePointer o = readVtablePointer o' := by
    rw [readVtablePointer, readVtablePointer, h.typedData hall]
  rw [dsTypedObjectGetRuntimeType, dsTypedObjectGetRuntimeType, hvtable, h.typedData hall,
    cstrOf_eq hname]
  refine (Rel.refl (R := Eq) (fun _ => rfl) _).bind ?_
  rintro ⟨hr, objAddr, ptrVal⟩ _ rfl
  have hunwritten : ∀ hr, OrFails Agree (mem.unwritten, hr) (mem'.unwritten, hr) :=
    fun hr => ⟨rfl, fun _ => agree_unwritten mem mem'⟩
  by_cases hf : FAILED hr = true
  · simp only [hf, if_true]
    exact .done (hunwritten hr)
  simp only [hf]
  refine .ask _ fun ⟨hr, name, disp⟩ => ?_
  show Rel (OrFails Agree) (if FAILED hr then _ else _) (if FAILED hr then _ else _)
  by_cases hf : FAILED hr = true
  · rw [if_pos hf, if_pos hf]
    exact .ask _ fun _ => .done (hunwritten hr)
  rw [if_neg hf, if_neg hf]
  cases beforeMatch (ansi "::`vftable'") name.chars with
  | none => exact .ask _ fun _ => .done (hunwritten hr)
  | some typeName =>
    refine .ask _ fun typeInfo => ?_
    cases typeInfo with
    | none => exact .ask _ fun _ => .done (hunwritten hr)
    | some typeInfo =>
      refine (rel_dsInitializeTypedObject (dataAgree_unwritten mem mem') ..).bind ?_
      rintro ⟨new, hr⟩ ⟨new', _⟩ ⟨rfl, hagree⟩
      by_cases hf : FAILED hr = true
      · simp only [hf, if_true]
        exact .ask _ fun _ => .done ⟨rfl, hagree⟩
      · simp only [hf]
        exact .done ⟨rfl, hagree⟩

/-- What `getRuntimeObject` reads of the object has been written: all of it, or the
    address, if no pointer can be read from there. -/
def RuntimeReads (a : DebuggerAnswers) (n : ℕ) (o : DbgScriptTypedObject) : Prop :=
  o.stored = .all ∨
    o.stored = .header ∧ FAILED (a (n + 1) (.readPointer o.typedData.offset)).1 = true

theorem same_getRuntimeObject (h : Agree o o') (hall : o.stored = .all) :
    Same ResultAgree (typedObjectGetRuntimeObject mem o) (typedObjectGetRuntimeObject mem' o') :=
  Throws.rel_bind_same _ fun _ =>
    same_raise (rel_dsTypedObjectGetRuntimeType mem mem' h hall) _
      fun _ _ ho => .done (.ok (.userdata ho))

/-- The run on an object at an unreadable address. -/
theorem run_getRuntimeObject_unreadable {a : DebuggerAnswers} {n : ℕ}
    (hf : FAILED (a (n + 1) (.readPointer o.typedData.offset)).1 = true) :
    (typedObjectGetRuntimeObject mem o).attempt.run a n =
      if a n .getInterrupt = S_OK then
        (.error (.error "execution interrupted." []), [.getInterrupt])
      else
        let hr := (a (n + 1) (.readPointer o.typedData.offset)).1
        (.error (.error "DsTypedObjectGetRuntimeType failed. Error 0x%08x." [.hr hr]),
          [.getInterrupt, .readPointer o.typedData.offset,
            .output "Error: Failed to read pointer from offset %p. Error 0x%08x.\n"
              [.ptr o.typedData.offset, .hr hr]]) := by
  by_cases hint : a n .getInterrupt = S_OK
  · simp [typedObjectGetRuntimeObject, checkAbort, hint, raise]
  · simp [typedObjectGetRuntimeObject, checkAbort, hint, raise, dsTypedObjectGetRuntimeType,
      readVtablePointer, hf, outputError]

theorem alike_getRuntimeObject (h : Agree o o') {a : DebuggerAnswers} {n : ℕ}
    (hreads : RuntimeReads a n o) :
    Dialogue.Alike a n OutcomeAgree (reading o (typedObjectGetRuntimeObject mem o))
      (reading o' (typedObjectGetRuntimeObject mem' o')) := by
  rcases hreads with hall | ⟨hheader, hf⟩
  · exact (rel_reading h (same_getRuntimeObject mem mem' h hall)).alike n
  · have hoffset := h.offset (by simp [hheader])
    have halike : Dialogue.Alike a n (Throws.SameError ResultAgree)
        (typedObjectGetRuntimeObject mem o).attempt
        (typedObjectGetRuntimeObject mem' o').attempt := by
      rw [Dialogue.Alike, run_getRuntimeObject_unreadable mem hf,
        run_getRuntimeObject_unreadable mem' (by rw [← hoffset]; exact hf), ← hoffset]
      split
      · exact ⟨.error _, rfl⟩
      · exact ⟨.error _, rfl⟩
    exact halike.bind fun _ _ m hr => ⟨⟨h, hr⟩, rfl⟩

end Runtime

end DbgScript.Lua
