import DbgScript.Support.Queries
import DbgScript.Support.TypedObject

/-!
# What stands behind a success code

`UtilGetFieldOffset`, `UtilGetTypeSize` (src/support/util.cpp:78-152) and
`DsTypedObjectGetRuntimeType` (src/support/dstypedobject.cpp:385-493) ask the debugger
several questions in turn; a name that is unknown is signalled by a null pointer and not by
a code.

* `failed_initializeNames`, `initialize_answered_iff`: when a new object has been filled in
  by the debugger.
* `readVtablePointer_cases`: the pointer reads fail, or lead to a vtable pointer.
* `success_answered_iff`: the exact conditions under which a success code means that the
  type has been found and the output comes from a successful query.
-/

namespace DbgScript

open CharBuf (FixedStr)

/-! ## Specification -/

/-- The answers of a debugger whose answers about named types go through the cache: `e k`
    is the symbol engine, and `s k` the cache, when the `k`-th question is put. -/
def throughCache (a : DebuggerAnswers) (e : ℕ → SymbolEngine) (s : ℕ → SymbolCache) :
    DebuggerAnswers := fun k r =>
  match r with
  | .getCachedSymbolType sym => (Memo.answer (e k).respond (getCachedSymbolType sym (s k))).2
  | r => a k r

/-- The type is cached, or the engine knows it. -/
def Resolves (e : SymbolEngine) (s : SymbolCache) (type : AnsiStr) : Prop :=
  s.symCache[type]? = none → FAILED (e.getSymbolTypeId type).1 = false

/-- The queries about a type that is named. -/
inductive TypeQuery where
  | fieldOffset (field : AnsiStr)
  | typeSize

def TypeQuery.perform (type : AnsiStr) : TypeQuery → DsM (HRESULT × ULONG)
  | .fieldOffset field => utilGetFieldOffset type field
  | .typeSize => utilGetTypeSize type

/-- What the debugger is asked about the type. -/
def TypeQuery.request (info : ModuleAndTypeId) : TypeQuery → Request
  | .fieldOffset field => .getFieldOffset info.moduleBase info.typeId field
  | .typeSize => .getTypeSize info.moduleBase info.typeId

def TypeQuery.answer (a : DebuggerAnswers) (k : ℕ) (info : ModuleAndTypeId) :
    TypeQuery → HRESULT × ULONG
  | .fieldOffset field => a k (.getFieldOffset info.moduleBase info.typeId field)
  | .typeSize => a k (.getTypeSize info.moduleBase info.typeId)

section Answered

variable (a : DebuggerAnswers) (n : ℕ)

/-- If the query is a success, the type has been found and the value is the debugger's. -/
def TypeQuery.Answered (type : AnsiStr) (q : TypeQuery) : Prop :=
  let r := (q.perform type).run a n
  FAILED r.1.1 = false → ∃ info, a n (.getCachedSymbolType type) = some info ∧
    r.2 = [.getCachedSymbolType type, q.request info] ∧ r.1 = q.answer a (n + 1) info

/-- The debugger reads `vptr` as the vtable pointer of the object at `objAddr`, which is
    where the typed object is, or where it points to. `m` is the number of the next
    question. -/
def VtablePointer (typObj : DbgScriptTypedObject) (objAddr vptr : UINT64) (m : ℕ) : Prop :=
  let first := a n (.readPointer typObj.typedData.offset)
  FAILED first.1 = false ∧
    if typObj.typedData.tag = .PointerType then
      let second := a (n + 1) (.readPointer first.2)
      FAILED second.1 = false ∧ objAddr = first.2 ∧ vptr = second.2 ∧ m = n + 2
    else objAddr = typObj.typedData.offset ∧ vptr = first.2 ∧ m = n + 1

/-- The debugger has named the symbol at `vptr`. -/
def Named (vptr : UINT64) (name : FixedStr CHAR MAX_SYMBOL_NAME_LEN) : Prop :=
  FAILED (a n (.getNameByOffset vptr)).1 = false ∧ (a n (.getNameByOffset vptr)).2.1 = name

/-- The object is at `objAddr`, and `info` is the type that its vtable symbol names, in
    front of ``::`vftable'``. `m` is the number of the next question. -/
def VtableType (typObj : DbgScriptTypedObject) (objAddr : UINT64) (info : ModuleAndTypeId)
    (m : ℕ) : Prop :=
  ∃ vptr k name typeName, VtablePointer a n typObj objAddr vptr k ∧ Named a k vptr name ∧
    beforeMatch (ansi "::`vftable'") name.chars = some typeName ∧
    a (k + 1) (.getCachedSymbolType (cstrOfChars typeName)) = some info ∧ m = k + 2

/-- The object has been filled in by the debugger, as one of the type at the address. -/
def FilledIn (info : ModuleAndTypeId) (addr : UINT64)
    (r : (DbgScriptTypedObject × HRESULT) × List Request) : Prop :=
  ∃ k, r.2[k]? = some (.setFromTypeId false info.moduleBase addr info.typeId) ∧
    a (n + k) (.setFromTypeId false info.moduleBase addr info.typeId) =
      (r.1.2, r.1.1.typedData) ∧
    r.1.1.typedDataValid = true

/-- If a runtime type is returned, it is that of the vtable symbol of the object, and the
    new object is of that type and where the object is. -/
def RuntimeTypeAnswered (typObj newTypObj : DbgScriptTypedObject) : Prop :=
  let r := (dsTypedObjectGetRuntimeType typObj newTypObj).run a n
  FAILED r.1.2 = false →
    ∃ objAddr info m, VtableType a n typObj objAddr info m ∧ FilledIn a n info objAddr r

/-- The debugger has no name for the type or its module. -/
def NamesFail (info : ModuleAndTypeId) : Prop :=
  info.moduleBase ≠ 0 ∧ (a n (.getCachedTypeName info) = none ∨
    a (n + 1) (.getCachedModuleName info.moduleBase) = none)

/-- If the symbol at the vtable pointer has a name, it is that of a vtable whose type is
    found, and the object is not at address 0, unless the new object cannot be named. -/
def RuntimeTypeResolves (typObj : DbgScriptTypedObject) : Prop :=
  ∀ objAddr vptr k name, VtablePointer a n typObj objAddr vptr k → Named a k vptr name →
    ∃ info m, VtableType a n typObj objAddr info m ∧ (objAddr = 0 → NamesFail a m info)

end Answered

variable {a : DebuggerAnswers} {n : ℕ}

/-! ## New objects -/

theorem failed_initializeNames (name : Option AnsiStr) (info : ModuleAndTypeId)
    (typObj : DbgScriptTypedObject) :
    FAILED ((initializeNames name info.typeId info.moduleBase typObj).run a n).1.2 = true ↔
      NamesFail a n info := by
  rw [initializeNames]
  by_cases hbase : info.moduleBase ≠ 0
  · rw [if_pos hbase, fillTypeAndModuleName, NamesFail, and_iff_right hbase]
    cases htype : a n (.getCachedTypeName info) with
    | none => simp [htype, outputError]
    | some typeName =>
      cases hmod : a (n + 1) (.getCachedModuleName info.moduleBase) with
      | none => simp [htype, hmod, outputError]
      | some modName => simp [htype, hmod]
  · rw [if_neg hbase]
    exact iff_of_false (by simp) fun h => hbase h.1

/-- The question that fills in typed data. -/
def Request.fillsIn : Request → Bool
  | .setFromTypeId _ _ _ _ => true
  | _ => false

theorem asks_initializeNames (name : Option AnsiStr) (info : ModuleAndTypeId)
    (typObj : DbgScriptTypedObject) :
    (initializeNames name info.typeId info.moduleBase typObj).Asks fun r => r.fillsIn = false := by
  rw [initializeNames]
  split
  · exact asks_fillTypeAndModuleName (fun _ => rfl) (fun _ => rfl) (fun _ _ => rfl) _ _ _
  · trivial

theorem not_filledIn {info : ModuleAndTypeId} {addr : UINT64}
    {r : (DbgScriptTypedObject × HRESULT) × List Request} (h : ∀ q ∈ r.2, q.fillsIn = false) :
    ¬ FilledIn a n info addr r := by
  rintro ⟨k, hk, -⟩
  have hno := h _ (List.mem_of_getElem? hk)
  simp [Request.fillsIn] at hno

/-- A success code comes with typed data, except for an object at address 0 that can be
    named. -/
theorem initialize_answered_iff (size : ULONG) (name : Option AnsiStr) (info : ModuleAndTypeId)
    (addr : UINT64) (typObj : DbgScriptTypedObject) :
    let r := (dsInitializeTypedObject size name info.typeId info.moduleBase addr false
      typObj).run a n
    (FAILED r.1.2 = false → FilledIn a n info addr r) ↔ (addr = 0 → NamesFail a n info) := by
  have hasks := (asks_initializeNames name info typObj).run (o := a) n
  rw [← failed_initializeNames name info typObj]
  simp only [dsInitializeTypedObject, Dialogue.run_bind]
  generalize (initializeNames name info.typeId info.moduleBase typObj).run a n = names at *
  obtain ⟨⟨typObj', hr⟩, qs⟩ := names
  simp only at hasks ⊢
  by_cases hf : FAILED hr = true
  · simp [hf]
  rw [if_neg hf]
  have hok : FAILED hr = false := by simpa using hf
  by_cases haddr : addr = 0
  · rw [if_neg (not_not.2 haddr), Dialogue.run_pure, List.append_nil]
    refine iff_of_false (fun h => not_filledIn hasks (h hok)) fun h => hf (h haddr)
  · rw [if_pos haddr]
    refine iff_of_true ?_ fun h => absurd h haddr
    generalize hset : a (n + qs.length) (.setFromTypeId false info.moduleBase addr info.typeId) =
      answer
    obtain ⟨hr', outData⟩ := answer
    by_cases hf' : FAILED hr' = true
    · simp [hset, hf', outputError]
    · exact fun _ => ⟨qs.length, by simp [hset, hf'], by simp [hset, hf'], by simp [hset, hf']⟩

/-! ## Pointer reads -/

theorem VtablePointer.unique {typObj : DbgScriptTypedObject} {objAddr objAddr' vptr vptr' : UINT64}
    {m m' : ℕ} (h : VtablePointer a n typObj objAddr vptr m)
    (h' : VtablePointer a n typObj objAddr' vptr' m') :
    objAddr = objAddr' ∧ vptr = vptr' ∧ m = m' := by
  unfold VtablePointer at h h'
  by_cases htag : typObj.typedData.tag = .PointerType
  · simp only [if_pos htag] at h h'
    exact ⟨h.2.2.1.trans h'.2.2.1.symm, h.2.2.2.1.trans h'.2.2.2.1.symm,
      h.2.2.2.2.trans h'.2.2.2.2.symm⟩
  · simp only [if_neg htag] at h h'
    exact ⟨h.2.1.trans h'.2.1.symm, h.2.2.1.trans h'.2.2.1.symm, h.2.2.2.trans h'.2.2.2.symm⟩

/-- The reads fail, or give the vtable pointer. -/
theorem readVtablePointer_cases (typObj : DbgScriptTypedObject) :
    let r := (readVtablePointer typObj).run a n
    (FAILED r.1.1 = true ∧ ∀ objAddr vptr m, ¬ VtablePointer a n typObj objAddr vptr m) ∨
      FAILED r.1.1 = false ∧ VtablePointer a n typObj r.1.2.1 r.1.2.2 (n + r.2.length) := by
  simp only [readVtablePointer, VtablePointer, ask, Dialogue.request, Dialogue.ask_bind,
    Dialogue.done_bind, Dialogue.run_ask]
  by_cases hf : FAILED (a n (.readPointer typObj.typedData.offset)).1 = true
  · simp [hf, outputError]
  rw [if_neg hf]
  by_cases htag : typObj.typedData.tag = .PointerType
  · simp only [if_pos htag, Dialogue.run_ask]
    by_cases hf' : FAILED (a (n + 1) (.readPointer
        (a n (.readPointer typObj.typedData.offset)).2)).1 = true
    · simp [hf', outputError]
    · simp [hf, hf']
  · simp [htag, hf]

theorem asks_readVtablePointer (typObj : DbgScriptTypedObject) :
    (readVtablePointer typObj).Asks fun r => r.fillsIn = false := by
  simp only [readVtablePointer, ask, Dialogue.request, Dialogue.ask_bind, Dialogue.done_bind]
  refine ⟨rfl, fun first => ?_⟩
  dsimp only
  split
  · exact ⟨rfl, fun _ => trivial⟩
  split
  · refine ⟨rfl, fun second => ?_⟩
    dsimp only
    split
    · exact ⟨rfl, fun _ => trivial⟩
    · trivial
  · trivial

/-! ## Runtime types -/

/-- Earlier questions that do not fill in typed data make no difference. -/
theorem filledIn_append {info : ModuleAndTypeId} {addr : UINT64}
    {out : DbgScriptTypedObject × HRESULT} {pre post : List Request}
    (h : ∀ q ∈ pre, q.fillsIn = false) :
    FilledIn a n info addr (out, pre ++ post) ↔
      FilledIn a (n + pre.length) info addr (out, post) := by
  constructor
  · rintro ⟨k, hk, hanswer, hvalid⟩
    obtain hlt | hle := Nat.lt_or_ge k pre.length
    · rw [List.getElem?_append_left hlt] at hk
      have hno := h _ (List.mem_of_getElem? hk)
      simp [Request.fillsIn] at hno
    · rw [List.getElem?_append_right hle] at hk
      refine ⟨k - pre.length, hk, ?_, hvalid⟩
      rwa [show n + pre.length + (k - pre.length) = n + k by omega]
  · rintro ⟨k, hk, hanswer, hvalid⟩
    refine ⟨pre.length + k, ?_, ?_, hvalid⟩
    · rw [List.getElem?_append_right (by omega), Nat.add_sub_cancel_left]
      exact hk
    · rwa [← Nat.add_assoc]

theorem Named.unique {vptr : UINT64} {name name' : FixedStr CHAR MAX_SYMBOL_NAME_LEN}
    (h : Named a n vptr name) (h' : Named a n vptr name') : name = name' := h.2.symm.trans h'.2

/-- Where the symbol at the vtable pointer has a name, which type it names. -/
theorem vtableType_iff {typObj : DbgScriptTypedObject} {objAddr vptr : UINT64} {k : ℕ}
    {name : FixedStr CHAR MAX_SYMBOL_NAME_LEN} (hptr : VtablePointer a n typObj objAddr vptr k)
    (hname : Named a k vptr name) {objAddr' : UINT64} {info : ModuleAndTypeId} {m : ℕ} :
    VtableType a n typObj objAddr' info m ↔ objAddr' = objAddr ∧ m = k + 2 ∧
      ∃ typeName, beforeMatch (ansi "::`vftable'") name.chars = some typeName ∧
        a (k + 1) (.getCachedSymbolType (cstrOfChars typeName)) = some info := by
  constructor
  · rintro ⟨vptr', k', name', typeName, hptr', hname', hmatch, htype, hm⟩
    obtain ⟨rfl, rfl, rfl⟩ := hptr.unique hptr'
    obtain rfl := hname.unique hname'
    exact ⟨rfl, hm, typeName, hmatch, htype⟩
  · rintro ⟨rfl, hm, typeName, hmatch, htype⟩
    exact ⟨vptr, k, name, typeName, hptr, hname, hmatch, htype, hm⟩

theorem runtimeTypeResolves_iff {typObj : DbgScriptTypedObject} {objAddr vptr : UINT64} {k : ℕ}
    {name : FixedStr CHAR MAX_SYMBOL_NAME_LEN} (hptr : VtablePointer a n typObj objAddr vptr k)
    (hname : Named a k vptr name) :
    RuntimeTypeResolves a n typObj ↔
      ∃ info m, VtableType a n typObj objAddr info m ∧ (objAddr = 0 → NamesFail a m info) := by
  refine ⟨fun h => h objAddr vptr k name hptr hname, ?_⟩
  rintro h objAddr' vptr' k' name' hptr' -
  obtain ⟨rfl, -, -⟩ := hptr.unique hptr'
  exact h

/-- No type is returned where the symbol names none. -/
theorem not_vtableType_of_no_match {typObj : DbgScriptTypedObject} {objAddr vptr : UINT64} {k : ℕ}
    {name : FixedStr CHAR MAX_SYMBOL_NAME_LEN} (hptr : VtablePointer a n typObj objAddr vptr k)
    (hname : Named a k vptr name)
    (h : ∀ typeName, beforeMatch (ansi "::`vftable'") name.chars = some typeName →
      a (k + 1) (.getCachedSymbolType (cstrOfChars typeName)) = none)
    (objAddr' : UINT64) (info : ModuleAndTypeId) (m : ℕ) :
    ¬ VtableType a n typObj objAddr' info m := by
  intro hvt
  obtain ⟨-, -, typeName, hmatch, htype⟩ := (vtableType_iff hptr hname).1 hvt
  rw [h typeName hmatch] at htype
  contradiction

theorem vtableType_iff_of_type {typObj : DbgScriptTypedObject} {objAddr vptr : UINT64} {k : ℕ}
    {name : FixedStr CHAR MAX_SYMBOL_NAME_LEN} {typeName : List CHAR} {info : ModuleAndTypeId}
    (hptr : VtablePointer a n typObj objAddr vptr k) (hname : Named a k vptr name)
    (hmatch : beforeMatch (ansi "::`vftable'") name.chars = some typeName)
    (htype : a (k + 1) (.getCachedSymbolType (cstrOfChars typeName)) = some info)
    {objAddr' : UINT64} {info' : ModuleAndTypeId} {m : ℕ} :
    VtableType a n typObj objAddr' info' m ↔ objAddr' = objAddr ∧ info' = info ∧ m = k + 2 := by
  rw [vtableType_iff hptr hname]
  constructor
  · rintro ⟨haddr, hm, typeName', hmatch', htype'⟩
    rw [hmatch, Option.some_inj] at hmatch'
    subst hmatch'
    rw [htype, Option.some_inj] at htype'
    exact ⟨haddr, htype'.symm, hm⟩
  · rintro ⟨haddr, rfl, hm⟩
    exact ⟨haddr, hm, typeName, hmatch, htype⟩

/-- A success code is wrong where the symbol names no type. -/
theorem answered_iff_of_no_type {typObj : DbgScriptTypedObject}
    (hno : ∀ objAddr info m, ¬ VtableType a n typObj objAddr info m) (objAddr : UINT64)
    {out : DbgScriptTypedObject × HRESULT} {asked : List Request} (hok : FAILED out.2 = false) :
    (FAILED out.2 = false → ∃ objAddr info m,
        VtableType a n typObj objAddr info m ∧ FilledIn a n info objAddr (out, asked)) ↔
      ∃ info m, VtableType a n typObj objAddr info m ∧ (objAddr = 0 → NamesFail a m info) := by
  refine iff_of_false ?_ ?_
  · intro h
    obtain ⟨objAddr', info, m, hvt, -⟩ := h hok
    exact hno objAddr' info m hvt
  · rintro ⟨info, m, hvt, -⟩
    exact hno objAddr info m hvt

/-- Where the type is found, everything depends on how the new object is filled in. -/
theorem answered_iff_of_type {typObj : DbgScriptTypedObject} {objAddr : UINT64} {k : ℕ}
    {info : ModuleAndTypeId} (newTypObj : DbgScriptTypedObject)
    (hvt : ∀ {objAddr' info' m}, VtableType a n typObj objAddr' info' m ↔
      objAddr' = objAddr ∧ info' = info ∧ m = k + 2)
    {pre : List Request} (hlen : n + pre.length = k + 2) (hpre : ∀ q ∈ pre, q.fillsIn = false)
    {out : DbgScriptTypedObject × HRESULT} {asked : List Request}
    (hcode : out.2 = ((dsInitializeTypedObject typObj.typedData.size (some (cstrOf typObj.name))
      info.typeId info.moduleBase objAddr false newTypObj).run a (k + 2)).1.2)
    (hrun : FAILED out.2 = false → (out, asked) =
      let init := (dsInitializeTypedObject typObj.typedData.size (some (cstrOf typObj.name))
        info.typeId info.moduleBase objAddr false newTypObj).run a (k + 2)
      (init.1, pre ++ init.2)) :
    (FAILED out.2 = false → ∃ objAddr info m,
        VtableType a n typObj objAddr info m ∧ FilledIn a n info objAddr (out, asked)) ↔
      (objAddr = 0 → NamesFail a (k + 2) info) := by
  have hinit := initialize_answered_iff (a := a) (n := k + 2) typObj.typedData.size
    (some (cstrOf typObj.name)) info objAddr newTypObj
  simp only at hinit
  rw [← hinit, ← hcode]
  refine forall_congr' fun hok => ?_
  rw [hrun hok]
  simp only [hvt]
  constructor
  · rintro ⟨_, _, _, ⟨rfl, rfl, rfl⟩, hfilled⟩
    rwa [filledIn_append hpre, hlen] at hfilled
  · intro hfilled
    refine ⟨_, _, _, ⟨rfl, rfl, rfl⟩, ?_⟩
    rwa [filledIn_append hpre, hlen]

theorem runtimeType_answered_iff (typObj newTypObj : DbgScriptTypedObject) :
    RuntimeTypeAnswered a n typObj newTypObj ↔ RuntimeTypeResolves a n typObj := by
  have hcases := readVtablePointer_cases (a := a) (n := n) typObj
  have hasks := (asks_readVtablePointer typObj).run (o := a) n
  rw [RuntimeTypeAnswered]
  simp only [dsTypedObjectGetRuntimeType, Dialogue.run_bind]
  generalize (readVtablePointer typObj).run a n = reads at *
  obtain ⟨⟨hr, objAddr, vptr⟩, qs⟩ := reads
  simp only at hcases hasks ⊢
  obtain ⟨hf, hno⟩ | ⟨hok, hptr⟩ := hcases
  · rw [if_pos hf, Dialogue.run_pure]
    refine iff_of_true (fun h => absurd hf (by simp [h])) ?_
    intro objAddr' vptr' k' _ hptr'
    exact absurd hptr' (hno objAddr' vptr' k')
  rw [if_neg (by simp [hok])]
  simp only [ask, Dialogue.request, Dialogue.ask_bind, Dialogue.done_bind, Dialogue.run_ask]
  generalize hnamed : a (n + qs.length) (.getNameByOffset vptr) = named
  obtain ⟨hr', name, cchActual, disp⟩ := named
  by_cases hf' : FAILED hr' = true
  · refine iff_of_true (fun h => ?_) ?_
    · simp [hf', outputError] at h
    · intro objAddr' vptr' k' name' hptr' hname'
      obtain ⟨-, rfl, rfl⟩ := hptr.unique hptr'
      simp [Named, hnamed, hf'] at hname'
  have hname : Named a (n + qs.length) vptr name := by simp [Named, hnamed, hf']
  have hok' : FAILED hr' = false := by simpa using hf'
  rw [if_neg hf', runtimeTypeResolves_iff hptr hname]
  cases hmatch : beforeMatch (ansi "::`vftable'") name.chars with
  | none =>
    have hno := not_vtableType_of_no_match hptr hname (by simp [hmatch])
    refine answered_iff_of_no_type hno objAddr ?_
    simp [outputError, hok']
  | some typeName =>
    cases htype : a (n + qs.length + 1) (.getCachedSymbolType (cstrOfChars typeName)) with
    | none =>
      have hno := not_vtableType_of_no_match hptr hname (by simp [hmatch, htype])
      refine answered_iff_of_no_type hno objAddr ?_
      simp [outputError, hok', htype]
    | some info =>
      have hvt : ∀ {objAddr' info' m}, VtableType a n typObj objAddr' info' m ↔ _ :=
        vtableType_iff_of_type hptr hname hmatch htype
      have hresolves : (∃ info' m, VtableType a n typObj objAddr info' m ∧
          (objAddr = 0 → NamesFail a m info')) ↔
            (objAddr = 0 → NamesFail a (n + qs.length + 2) info) := by simp [hvt]
      have hpre : ∀ q ∈ qs ++ [.getNameByOffset vptr,
          .getCachedSymbolType (cstrOfChars typeName)], q.fillsIn = false := by
        simpa [or_imp, forall_and, Request.fillsIn] using hasks
      rw [hresolves]
      refine answered_iff_of_type newTypObj hvt (by simp [Nat.add_assoc]) hpre ?_ ?_
      · simp [htype, apply_ite, outputError]
      · simp [htype, apply_ite, outputError]

/-! ## Types that are named -/

theorem typeQuery_answered_iff (type : AnsiStr) (q : TypeQuery) :
    q.Answered a n type ↔ a n (.getCachedSymbolType type) ≠ none := by
  cases hinfo : a n (.getCachedSymbolType type) with
  | none =>
    refine iff_of_false (fun h => ?_) (by simp)
    obtain ⟨info, hinfo', -⟩ := h (by
      cases q <;> simp [TypeQuery.perform, utilGetFieldOffset, utilGetTypeSize, queryType, hinfo,
        outputError])
    rw [hinfo] at hinfo'
    contradiction
  | some info =>
    refine iff_of_true (fun _ => ⟨info, hinfo, ?_, ?_⟩) (by simp)
    · cases q <;> simp [TypeQuery.perform, utilGetFieldOffset, utilGetTypeSize, queryType, hinfo,
        TypeQuery.request]
    · cases q <;> simp [TypeQuery.perform, utilGetFieldOffset, utilGetTypeSize, queryType, hinfo,
        TypeQuery.answer]

theorem getCachedSymbolType_ne_none (e : SymbolEngine) (s : SymbolCache) (type : AnsiStr) :
    (Memo.answer e.respond (getCachedSymbolType type s)).2 ≠ none ↔ Resolves e s type := by
  have hlookup : getCachedSymbolType type s = Memo.lookup symCacheSource type s.symCache >>=
      fun r => .done (({ s with symCache := r.1 } : SymbolCache), r.2) := rfl
  rw [hlookup, Memo.answer_bind_done, Resolves]
  cases hfound : s.symCache[type]? with
  | some info => simp [Memo.lookup_of_found hfound, Memo.answer]
  | none =>
    rw [Memo.answer_lookup hfound]
    by_cases hf : FAILED (e.getSymbolTypeId type).1 = true
    · simp [symCacheSource, succeeded, SymbolEngine.respond, hf]
    · simp [symCacheSource, succeeded, SymbolEngine.respond, hf]

/-- A success code means that the type has been found and that the output comes from a
    successful query, iff the type resolves; for a runtime type, iff the vtable pointer has
    no name or the one of a vtable whose type resolves, and the object is not at address 0
    unless it cannot be named. -/
theorem success_answered_iff (a : DebuggerAnswers) (e : ℕ → SymbolEngine) (s : ℕ → SymbolCache)
    (n : ℕ) :
    (∀ type q, TypeQuery.Answered (throughCache a e s) n type q ↔ Resolves (e n) (s n) type) ∧
      ∀ typObj newTypObj, RuntimeTypeAnswered (throughCache a e s) n typObj newTypObj ↔
        RuntimeTypeResolves (throughCache a e s) n typObj := by
  refine ⟨fun type q => ?_, fun typObj newTypObj => runtimeType_answered_iff typObj newTypObj⟩
  rw [typeQuery_answered_iff, ← getCachedSymbolType_ne_none]
  rfl

/-- An engine that knows no types. -/
def SymbolEngine.untyped : SymbolEngine where
  getSymbolTypeId _ := (E_FAIL, ⟨0, 0⟩)
  getModuleNames _ := (E_FAIL, default)
  getTypeName _ := (E_FAIL, default)

/-- The size of an unknown type, and the runtime type of an object whose vtable pointer is
    that of no vtable: both calls return `S_OK`. -/
theorem success_of_unknown_type :
    let a := throughCache (fun _ _ => default) (fun _ => .untyped) fun _ => .empty
    let typObj := DbgScriptTypedObject.zero
    ((utilGetTypeSize default).run a 0).1 = (S_OK, 0) ∧
      ¬ TypeQuery.Answered a 0 default .typeSize ∧
      ((dsTypedObjectGetRuntimeType typObj typObj).run a 0).1.2 = S_OK ∧
      ¬ RuntimeTypeAnswered a 0 typObj typObj := by
  intro a typObj
  have hnone : ∀ k type, a k (.getCachedSymbolType type) = none := by
    intro k type
    by_contra hne
    exact absurd ((getCachedSymbolType_ne_none .untyped .empty type).1 hne
      Std.TreeMap.getElem?_emptyc) (by simp [SymbolEngine.untyped])
  have hcode : ((dsTypedObjectGetRuntimeType typObj typObj).run a 0).1.2 = S_OK := rfl
  refine ⟨?_, ?_, hcode, ?_⟩
  · simp [utilGetTypeSize, queryType, hnone, outputError]
  · rw [typeQuery_answered_iff]
    simp [hnone]
  · intro h
    obtain ⟨_, info, _, ⟨_, k, _, typeName, _, _, _, htype, _⟩, _⟩ := h (congrArg FAILED hcode)
    rw [hnone] at htype
    contradiction

end DbgScript
