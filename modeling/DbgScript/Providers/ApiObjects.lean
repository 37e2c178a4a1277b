import DbgScript.Lua.WrittenFields
import DbgScript.Providers.ApiRefinement

/-!
# Objects as the scripting interface knows them

A typed object represents what the interface knows of it, whatever else is in its memory.

* `made_dsWrapTypedData`, `made_dsInitializeTypedObject`, `covers_runtimeObject`: so does
  every new one.
* `refines_variables`, `pyRefines_variables`: and those that are made of a frame's variables.
-/

namespace DbgScript.ScriptApi

open CharBuf (CStr Buf FixedStr)
open Dialogue (Covers Rel Settles)
open Python (PyAnswer PyErr PyM)

variable {α β γ δ ε : Type} {R : α → β → Prop} {S : γ → δ → Prop}

/-! ## New objects -/

/-- What the interface knows of the contents. -/
def Contents.Describes : Contents → DbgScriptTypedObject → Prop
  | .typed data, o => o.typedDataValid = true ∧ o.typedData = data
  | .bare size address, o => o.typedData.size = size ∧ o.typedData.offset = address

/-- The object has the names and the contents that the interface knows. -/
structure Represents (o : DbgScriptTypedObject) (x : Datum) : Prop where
  name : o.name.str = x.name
  typeName : o.typeName.str = x.typeName
  moduleName : o.moduleName.str = x.moduleName
  contents : x.contents.Describes o

theorem Represents.size {o : DbgScriptTypedObject} {x : Datum} (h : Represents o x) :
    o.typedData.size = x.contents.size := by
  have hc := h.contents
  revert hc
  cases x.contents with
  | typed data => exact fun hc => congrArg DebugTypedData.size hc.2
  | bare size address => exact fun hc => hc.1

theorem Represents.address {o : DbgScriptTypedObject} {x : Datum} (h : Represents o x) :
    o.typedData.offset = x.contents.address := by
  have hc := h.contents
  revert hc
  cases x.contents with
  | typed data => exact fun hc => congrArg DebugTypedData.offset hc.2
  | bare size address => exact fun hc => hc.2

/-- A failure with its code, or the object that the interface describes. -/
inductive Made : DbgScriptTypedObject × HRESULT → Except HRESULT Datum → Prop
  | failed (o : DbgScriptTypedObject) {hr : HRESULT} (h : FAILED hr = true) :
      Made (o, hr) (.error hr)
  | made {o : DbgScriptTypedObject} {hr : HRESULT} {x : Datum} (hf : FAILED hr = false)
      (h : Represents o x) : Made (o, hr) (.ok x)

/-- A failure with its code, or the object `o` with the names that the interface knows. -/
inductive Named (o : DbgScriptTypedObject) :
    DbgScriptTypedObject × HRESULT → Except HRESULT (List CHAR × List CHAR) → Prop
  | failed (o' : DbgScriptTypedObject) {hr : HRESULT} (h : FAILED hr = true) :
      Named o (o', hr) (.error hr)
  | named {typeName : Buf CHAR MAX_SYMBOL_NAME_LEN} {moduleName : Buf CHAR MAX_MODULE_NAME_LEN}
      {s t : List CHAR} (hs : typeName.str = s) (ht : moduleName.str = t) :
      Named o ({ o with typeName := typeName, moduleName := moduleName }, S_OK) (.ok (s, t))

theorem str_cchCopy_fixedStr {n : ℕ} (b : Buf CHAR n) (s : FixedStr CHAR n) :
    (b.cchCopy s.chars).str = s.chars := by
  have hfits := s.fits
  rw [CharBuf.str_cchCopy b (by omega) s.nulFree]
  exact List.take_of_length_le (by omega)

theorem named_fillTypeAndModuleName (typeId : ULONG) (moduleBase : UINT64)
    (o : DbgScriptTypedObject) :
    Rel (Named o) (fillTypeAndModuleName typeId moduleBase o)
      (typeNames typeId moduleBase).attempt := by
  refine .ask _ fun typeName => ?_
  cases typeName with
  | none => exact .ask _ fun _ => .done (.failed _ rfl)
  | some typeName =>
    refine .ask _ fun moduleName => ?_
    cases moduleName with
    | none => exact .ask _ fun _ => .done (.failed _ rfl)
    | some moduleName =>
      exact .done (.named (str_cchCopy_fixedStr _ typeName) (str_cchCopy_fixedStr _ moduleName))

theorem str_cchCopy_name (b : Buf CHAR MAX_SYMBOL_NAME_LEN) {name : List CHAR}
    (h : (0 : CHAR) ∉ name) : (b.cchCopy name).str = objectName name :=
  CharBuf.str_cchCopy b (by decide) h

theorem made_dsWrapTypedData (name : AnsiStr) (data : DebugTypedData) (mem : DbgScriptTypedObject) :
    Rel Made (dsWrapTypedData name data mem) (wrap name data).attempt := by
  rw [dsWrapTypedData, wrap, Throws.attempt_bind]
  refine (named_fillTypeAndModuleName _ _ _).bind_right ?_
  intro _ _ hnamed
  cases hnamed with
  | failed o' h => exact .done (.failed o' h)
  | named hs ht =>
    exact .done (.made rfl ⟨str_cchCopy_name _ name.nulFree, hs, ht, rfl, rfl⟩)

theorem named_initializeNames (name : Option AnsiStr) (typeId : ULONG) (moduleBase : UINT64)
    (mem : DbgScriptTypedObject) :
    Rel (Named { mem with
        name := mem.name.cchCopy ((name.map CStr.chars).getD (ansi "<unnamed>")) })
      (initializeNames name typeId moduleBase mem) (namesOf typeId moduleBase).attempt := by
  rw [initializeNames, namesOf]
  split_ifs with hbase
  · exact named_fillTypeAndModuleName _ _ _
  · have hinvalid := Lua.ansi_nulFree.2
    have htype : (mem.typeName.cchCopy (ansi "<invalid>")).str = ansi "<invalid>" := by
      rw [CharBuf.str_cchCopy _ (by decide) hinvalid]
      rfl
    have hmodule : (mem.moduleName.cchCopy (ansi "<invalid>")).str = ansi "<invalid>" := by
      rw [CharBuf.str_cchCopy _ (by decide) hinvalid]
      rfl
    exact .done (.named htype hmodule)

theorem nulFree_getD (name : Option AnsiStr) :
    (0 : CHAR) ∉ (name.map CStr.chars).getD (ansi "<unnamed>") := by
  cases name with
  | none => exact Lua.ansi_nulFree.1
  | some name => exact name.nulFree

theorem made_dsInitializeTypedObject (size : ULONG) (name : Option AnsiStr) (typeId : ULONG)
    (moduleBase address : UINT64) (wantPointer : Bool) (mem : DbgScriptTypedObject) :
    Rel Made (dsInitializeTypedObject size name typeId moduleBase address wantPointer mem)
      (initObject size name typeId moduleBase address wantPointer).attempt := by
  have hname := str_cchCopy_name mem.name (nulFree_getD name)
  rw [dsInitializeTypedObject, initObject, Throws.attempt_bind]
  refine (named_initializeNames name typeId moduleBase mem).bind ?_
  intro _ _ hnamed
  cases hnamed with
  | failed o' h =>
    simp only [h, if_true]
    exact .done (.failed o' h)
  | named hs ht =>
    simp only [failed_S_OK, Bool.false_eq_true, if_false, Throws.andThen_ok]
    rw [contentsAt]
    by_cases haddr : address = 0
    · simp only [haddr, ne_eq, not_true_eq_false, if_true, if_false]
      exact .done (.made rfl ⟨hname, hs, ht, rfl, rfl⟩)
    · simp only [haddr, ne_eq, not_false_eq_true, if_true, if_false]
      refine .ask _ ?_
      rintro ⟨hr, data⟩
      by_cases hf : FAILED hr = true
      · simp only [Dialogue.bind, Throws.andThen, hf, if_true]
        exact .ask _ fun _ => .done (.failed _ hf)
      · simp only [Dialogue.bind, Throws.andThen, hf]
        exact .done (.made (by simpa using hf) ⟨hname, hs, ht, rfl, rfl⟩)

theorem visible_typeNames (typeId : ULONG) (moduleBase : UINT64) :
    (typeNames typeId moduleBase).attempt.Asks Visible := by
  refine ⟨rfl, fun typeName => ?_⟩
  cases typeName with
  | none => exact ⟨rfl, fun _ => trivial⟩
  | some typeName =>
    refine ⟨rfl, fun moduleName => ?_⟩
    cases moduleName with
    | none => exact ⟨rfl, fun _ => trivial⟩
    | some moduleName => trivial

theorem visible_wrap (name : AnsiStr) (data : DebugTypedData) :
    (wrap name data).attempt.Asks Visible :=
  Throws.asks_bind (visible_typeNames _ _) fun _ => trivial

theorem visible_namesOf (typeId : ULONG) (moduleBase : UINT64) :
    (namesOf typeId moduleBase).attempt.Asks Visible := by
  rw [namesOf]
  split_ifs
  · exact visible_typeNames _ _
  · trivial

theorem visible_contentsAt (size typeId : ULONG) (moduleBase address : UINT64)
    (wantPointer : Bool) :
    (contentsAt size typeId moduleBase address wantPointer).attempt.Asks Visible := by
  by_cases haddr : address = 0
  · rw [contentsAt, if_pos haddr]
    trivial
  · rw [contentsAt, if_neg haddr]
    refine ⟨rfl, ?_⟩
    rintro ⟨hr, data⟩
    by_cases hf : FAILED hr = true
    · simp only [Dialogue.bind, Throws.andThen, hf, if_true]
      exact ⟨rfl, fun _ => trivial⟩
    · simp only [Dialogue.bind, Throws.andThen, hf]
      trivial

theorem visible_initObject (size : ULONG) (name : Option AnsiStr) (typeId : ULONG)
    (moduleBase address : UINT64) (wantPointer : Bool) :
    (initObject size name typeId moduleBase address wantPointer).attempt.Asks Visible :=
  Throws.asks_bind (visible_namesOf _ _) fun _ =>
    Throws.asks_bind (visible_contentsAt _ _ _ _ _) fun _ => trivial

theorem refines_throw_any (err : ε) (e : ApiError) :
    Refines S (Throws.throw err : Throws Request.Answer ε γ) (Throws.throw e : ApiM δ) := by
  cases e with
  | raised => exact refines_throw err
  | unspecified => exact refines_unspecified _

/-- A function that makes an object; without one the interface ends in `e`. -/
theorem refines_made {R : γ → Datum → Prop} {q : DsM (DbgScriptTypedObject × HRESULT)}
    {d : MakeM Datum} (e : ApiError)
    {k : DbgScriptTypedObject × HRESULT → Throws Request.Answer ε γ} {v : DbgScriptTypedObject → γ}
    (hrel : Rel Made q d.attempt) (hd : d.attempt.Asks Visible)
    (hfail : ∀ o hr, FAILED hr = true → ∃ err, k (o, hr) = Throws.throw err)
    (hok : ∀ o hr, ¬ FAILED hr = true → k (o, hr) = pure (v o))
    (hv : ∀ o x, Represents o x → R (v o) x) : Refines R (Throws.lift q >>= k) (orElse e d) := by
  have hmade : Covers quiet (fun _ => False) Made (q.inl : Dialogue PyAnswer _) d.attempt.inl :=
    .of_rel hrel.inl (Dialogue.asks_inl hd)
  have horElse : ((orElse e d).attempt.inl : Dialogue PyAnswer _) =
      d.attempt.inl >>= fun r => (orElse e (.done r)).attempt.inl := Dialogue.inl_bind _ _
  rw [Refines, inl_attempt_lift_bind, horElse]
  refine hmade.bind (fun _ h => h.elim) ?_
  intro _ _ hr
  cases hr with
  | @failed o hr h =>
    obtain ⟨err, herr⟩ := hfail o hr h
    rw [herr]
    exact refines_throw_any err e
  | @made o hr x hf h =>
    rw [hok o hr (by simp [hf])]
    exact refines_pure (hv o x h)

theorem pyRefines_throw_any {f : PyM γ} (hf : PyRefines S f (raised : ApiM δ)) (e : ApiError) :
    PyRefines S f (Throws.throw e : ApiM δ) := by
  cases e with
  | raised => exact hf
  | unspecified => exact pyRefines_unspecified f

theorem pyRefines_made {R : γ → Datum → Prop} {q : DsM (DbgScriptTypedObject × HRESULT)}
    {d : MakeM Datum} (e : ApiError) {k : DbgScriptTypedObject × HRESULT → PyM γ}
    {v : DbgScriptTypedObject → γ} (hrel : Rel Made q d.attempt) (hd : d.attempt.Asks Visible)
    (hfail : ∀ o hr, FAILED hr = true → PyRefines R (k (o, hr)) raised)
    (hok : ∀ o hr, ¬ FAILED hr = true → k (o, hr) = pure (v o))
    (hv : ∀ o x, Represents o x → R (v o) x) : PyRefines R (Python.ds q >>= k) (orElse e d) := by
  have hmade : Covers quiet (fun _ => False) Made (q.inl : Dialogue PyAnswer _) d.attempt.inl :=
    .of_rel hrel.inl (Dialogue.asks_inl hd)
  have horElse : ((orElse e d).attempt.inl : Dialogue PyAnswer _) =
      d.attempt.inl >>= fun r => (orElse e (.done r)).attempt.inl := Dialogue.inl_bind _ _
  rw [PyRefines, attempt_ds_bind, horElse]
  refine hmade.bind (fun _ h => h.elim) ?_
  intro _ _ hr
  cases hr with
  | @failed o hr h => exact pyRefines_throw_any (hfail o hr h) e
  | @made o hr x hf h =>
    rw [hok o hr (by simp [hf])]
    exact pyRefines_pure (hv o x h)

/-! ## Typed data -/

theorem typed_cases {o : DbgScriptTypedObject} {x : Datum} (h : Represents o x) :
    (∃ data, o.typedDataValid = true ∧ o.typedData = data ∧ typed x = pure data) ∨
      typed x = unspecified := by
  have hc := h.contents
  rw [typed]
  revert hc
  cases x.contents with
  | typed data => exact fun hc => .inl ⟨data, hc.1, hc.2, rfl⟩
  | bare size address => exact fun _ => .inr rfl

theorem rel_dsTypedObjectGetField (o : DbgScriptTypedObject) (name : AnsiStr) :
    Rel Yields (dsTypedObjectGetField o name true) (fieldOf o.typedData name).attempt := by
  refine .ask _ ?_
  rintro ⟨hr, data⟩
  simp only [Dialogue.bind, Throws.andThen]
  split_ifs with hmissing hf
  · rw [hmissing]
    exact .ask _ fun _ => .done (.failed _ rfl)
  · exact .ask _ fun _ => .done (.failed _ hf)
  · exact .done (.value _ (by simpa using hf))

theorem rel_dsTypedObjectGetArrayElement (o : DbgScriptTypedObject) (index : UINT64) :
    Rel Yields (dsTypedObjectGetArrayElement o index) (elementOf o.typedData index).attempt := by
  rw [dsTypedObjectGetArrayElement, elementOf]
  split_ifs with htag
  · exact .ask _ fun _ => .done (.failed _ rfl)
  · refine .ask _ ?_
    rintro ⟨hr, data⟩
    simp only [Dialogue.bind, Throws.andThen]
    split_ifs with hf
    · exact .ask _ fun _ => .done (.failed _ hf)
    · exact .done (.value _ (by simpa using hf))

theorem visible_fieldOf (data : DebugTypedData) (name : AnsiStr) :
    (fieldOf data name).attempt.Asks Visible := by
  refine ⟨rfl, ?_⟩
  rintro ⟨hr, data⟩
  simp only [Dialogue.bind, Throws.andThen]
  split_ifs
  · exact ⟨rfl, fun _ => trivial⟩
  · exact ⟨rfl, fun _ => trivial⟩
  · trivial

theorem visible_elementOf (data : DebugTypedData) (index : UINT64) :
    (elementOf data index).attempt.Asks Visible := by
  rw [elementOf]
  split_ifs
  · exact ⟨rfl, fun _ => trivial⟩
  · refine ⟨rfl, ?_⟩
    rintro ⟨hr, data⟩
    simp only [Dialogue.bind, Throws.andThen]
    split_ifs
    · exact ⟨rfl, fun _ => trivial⟩
    · trivial

theorem visible_pointerAt (addr : UINT64) : (pointerAt addr).attempt.Asks Visible := by
  refine ⟨rfl, ?_⟩
  rintro ⟨hr, ptrVal⟩
  simp only [Dialogue.bind, Throws.andThen]
  split_ifs
  · exact ⟨rfl, fun _ => trivial⟩
  · trivial

theorem visible_vtablePointer (data : DebugTypedData) :
    (vtablePointer data).attempt.Asks Visible := by
  refine Throws.asks_bind (visible_pointerAt _) fun ptrVal => ?_
  split_ifs
  · exact Throws.asks_bind (visible_pointerAt _) fun _ => trivial
  · trivial

theorem rel_readVtablePointer (o : DbgScriptTypedObject) :
    Rel Yields (readVtablePointer o) (vtablePointer o.typedData).attempt := by
  refine .ask _ ?_
  rintro ⟨hr, ptrVal⟩
  simp only [Dialogue.bind, Throws.andThen]
  by_cases hf : FAILED hr = true
  · simp only [hf, if_true]
    exact .ask _ fun _ => .done (.failed _ hf)
  · simp only [hf]
    by_cases htag : o.typedData.tag = .PointerType
    · simp only [htag, if_true]
      refine .ask _ ?_
      rintro ⟨hr', newPtrVal⟩
      simp only [Dialogue.bind, Throws.andThen]
      by_cases hf' : FAILED hr' = true
      · simp only [hf', if_true]
        exact .ask _ fun _ => .done (.failed _ hf')
      · simp only [hf']
        exact .done (.value _ (by simpa using hf'))
    · simp only [htag, if_false]
      exact .done (.value _ (by simpa using hf))

/-- A failure for an error, or the object that the interface describes. -/
inductive Returned : DbgScriptTypedObject × HRESULT → Except ApiError Datum → Prop
  | failed (o : DbgScriptTypedObject) {hr : HRESULT} (h : FAILED hr = true) :
      Returned (o, hr) (.error .raised)
  | made {o : DbgScriptTypedObject} {hr : HRESULT} {x : Datum} (hf : FAILED hr = false)
      (h : Represents o x) : Returned (o, hr) (.ok x)

theorem cstrOfChars_str {n : ℕ} (b : Buf CHAR n) : cstrOfChars b.str = cstrOf b := by
  apply CStr.ext
  show (b.cells.takeWhile _).takeWhile _ = b.cells.takeWhile _
  exact List.takeWhile_idem

theorem cstrOfChars_chars (s : AnsiStr) : cstrOfChars s.chars = s := by
  apply CStr.ext
  refine List.takeWhile_eq_self_iff.2 fun c hc => ?_
  have hne : c ≠ 0 := fun h => s.nulFree (h ▸ hc)
  simpa using hne

theorem visible_reporting {d : MakeM Datum} (hd : d.attempt.Asks Visible) :
    (reporting d).attempt.Asks Visible := by
  refine Dialogue.asks_bind hd (Dialogue.leaves_true _) ?_
  rintro (hr | x) -
  · exact ⟨rfl, fun _ => trivial⟩
  · trivial

/-- The report of a failure, in `DsTypedObjectGetRuntimeType`. -/
theorem rel_reporting {q : DsM (DbgScriptTypedObject × HRESULT)} {d : MakeM Datum}
    (hrel : Rel Made q d.attempt) :
    Rel Made
      (q >>= fun r => do
        if FAILED r.2 then outputError "DsInitializeTypedObject failed. Error 0x%08x." [.hr r.2]
        return (r.1, r.2))
      (reporting d).attempt := by
  refine hrel.bind ?_
  intro _ _ hr
  cases hr with
  | failed o h =>
    simp only [h, if_true]
    exact .ask _ fun _ => .done (.failed o h)
  | made hf h =>
    simp only [hf]
    exact .done (.made hf h)

theorem covers_made {q : DsM (DbgScriptTypedObject × HRESULT)} {d : MakeM Datum}
    (hrel : Rel Made q d.attempt) (hd : d.attempt.Asks Visible) :
    Covers quiet (fun _ => False) Made (q.inl : Dialogue PyAnswer _) d.attempt.inl :=
  .of_rel hrel.inl (Dialogue.asks_inl hd)

theorem covers_orElse_raised {q : DsM (DbgScriptTypedObject × HRESULT)} {d : MakeM Datum}
    (hrel : Rel Made q d.attempt) (hd : d.attempt.Asks Visible) :
    Covers quiet Unspecified Returned (q.inl : Dialogue PyAnswer _)
      (orElse .raised d).attempt.inl := by
  have hinl : ((orElse .raised d).attempt.inl : Dialogue PyAnswer _) =
      d.attempt.inl >>= fun r => (orElse .raised (.done r)).attempt.inl := Dialogue.inl_bind _ _
  rw [hinl]
  refine (covers_made hrel hd).bind_right (fun _ h => h.elim) ?_
  intro _ _ hr
  cases hr with
  | failed o h => exact .done (.failed o h)
  | made hf h => exact .done (.made hf h)

/-- The object of the runtime type. -/
theorem covers_runtimeObject (o mem : DbgScriptTypedObject) :
    Covers quiet Unspecified Returned (dsTypedObjectGetRuntimeType o mem).inl
      (runtimeObject o.name.str o.typedData).attempt.inl := by
  have hv : Covers quiet (fun _ => False) Yields ((readVtablePointer o).inl : Dialogue PyAnswer _)
      (vtablePointer o.typedData).attempt.inl :=
    .of_rel (rel_readVtablePointer o).inl (Dialogue.asks_inl (visible_vtablePointer _))
  rw [dsTypedObjectGetRuntimeType, runtimeObject, Dialogue.inl_bind, Throws.attempt_bind,
    Dialogue.inl_bind]
  refine hv.bind (fun _ h => h.elim) ?_
  intro _ _ hy
  cases hy with
  | failed a h =>
    simp only [h, if_true]
    exact .done (.failed _ h)
  | value a h =>
    obtain ⟨objAddr, ptrVal⟩ := a
    simp only [h]
    refine .ask _ rfl ?_
    rintro ⟨hr, symbol, disp⟩
    simp only [Dialogue.bind, Throws.andThen]
    by_cases hf : FAILED hr = true
    · simp only [hf, if_true]
      exact .ask _ rfl fun _ => .done (.failed _ hf)
    · simp only [hf]
      cases beforeMatch (ansi "::`vftable'") symbol.chars with
      | none => exact .free rfl
      | some typeName =>
        refine .ask _ rfl fun typeInfo => ?_
        cases typeInfo with
        | none => exact .free rfl
        | some typeInfo =>
          rw [cstrOfChars_str]
          exact covers_orElse_raised (rel_reporting (made_dsInitializeTypedObject _ _ _ _ _ _ _))
            (visible_reporting (visible_initObject _ _ _ _ _ _))

/-- A function that returns the object of the runtime type. -/
theorem refines_runtimeObject {R : γ → Reply Datum → Prop} {o mem : DbgScriptTypedObject}
    {k : DbgScriptTypedObject × HRESULT → Throws Request.Answer ε γ} {v : DbgScriptTypedObject → γ}
    (hfail : ∀ o hr, FAILED hr = true → ∃ err, k (o, hr) = Throws.throw err)
    (hok : ∀ o hr, ¬ FAILED hr = true → k (o, hr) = pure (v o))
    (hv : ∀ o x, Represents o x → R (v o) (.entity (.object x))) :
    Refines R (Throws.lift (dsTypedObjectGetRuntimeType o mem) >>= k)
      (runtimeObject o.name.str o.typedData >>= fun obj => return .entity (.object obj)) := by
  rw [Refines, inl_attempt_lift_bind, Throws.attempt_bind, Dialogue.inl_bind]
  refine Covers.bind (covers_runtimeObject o mem) (fun _ => free_andThen) ?_
  intro _ _ hr
  cases hr with
  | @failed o hr h =>
    obtain ⟨err, herr⟩ := hfail o hr h
    rw [herr]
    exact .done (.error err)
  | @made o hr x hf h =>
    rw [hok o hr (by simp [hf])]
    exact .done (.ok (hv o x h))

theorem pyRefines_runtimeObject {R : γ → Reply Datum → Prop} {o mem : DbgScriptTypedObject}
    {k : DbgScriptTypedObject × HRESULT → PyM γ} {v : DbgScriptTypedObject → γ}
    (hfail : ∀ o hr, FAILED hr = true → PyRefines R (k (o, hr)) raised)
    (hok : ∀ o hr, ¬ FAILED hr = true → k (o, hr) = pure (v o))
    (hv : ∀ o x, Represents o x → R (v o) (.entity (.object x))) :
    PyRefines R (Python.ds (dsTypedObjectGetRuntimeType o mem) >>= k)
      (runtimeObject o.name.str o.typedData >>= fun obj => return .entity (.object obj)) := by
  rw [PyRefines, attempt_ds_bind, Throws.attempt_bind, Dialogue.inl_bind]
  refine Covers.bind (covers_runtimeObject o mem) (fun _ => free_andThen) ?_
  intro _ _ hr
  cases hr with
  | @failed o hr h => exact hfail o hr h
  | @made o hr x hf h =>
    rw [hok o hr (by simp [hf])]
    exact .done (.value (hv o x h))

/-! ## Values -/

/-- The bytes that have just been read. -/
theorem low_withValue (o : DbgScriptTypedObject) {bytes : List UInt8} {n : ℕ}
    (hn : n ≤ bytes.length) (hlen : bytes.length ≤ 8) :
    (o.withValue bytes).value.low n = leNat (bytes.take n) := by
  show TypedObjectValue.low (o.value.memcpy 0 bytes) n = _
  rw [TypedObjectValue.low_eq_leNat_append _ hlen, List.take_append_of_le_length hn]

/-- Of a value that the debugger has not given in full nothing is promised. -/
theorem refines_low (o : DbgScriptTypedObject) (bytes : List UInt8) (n : ℕ)
    {f : Throws Request.Answer ε γ} {l : ℕ → ApiM δ}
    (hl : Refines S f (l ((o.withValue bytes).value.low n))) :
    Refines S f (low bytes n >>= l) := by
  rw [low]
  split_ifs with h
  · rw [← low_withValue o h.1 h.2]
    exact hl
  · exact refines_unspecified f

theorem pyRefines_low (o : DbgScriptTypedObject) (bytes : List UInt8) (n : ℕ) {f : PyM γ}
    {l : ℕ → ApiM δ} (hl : PyRefines S f (l ((o.withValue bytes).value.low n))) :
    PyRefines S f (low bytes n >>= l) := by
  rw [low]
  split_ifs with h
  · rw [← low_withValue o h.1 h.2]
    exact hl
  · exact pyRefines_unspecified f

/-! ## The variables of a frame -/

/-- The name of the `i`-th symbol, once its entry is known. -/
theorem readSymbol_eq (i : ℕ) :
    readSymbol i = ask (.getSymbolEntryInformation i) >>= fun r =>
      if r.1 ≠ E_NOINTERFACE ∧ FAILED r.1 then do
        outputError "Error: Failed to get symbol entry information. Error 0x%08x.\n" [.hr r.1]
        return .error r.1
      else do
        let (hr, symName) ← ask (.getSymbolName i)
        if FAILED hr then
          outputError "Error: Failed to get symbol name. Error 0x%08x.\n" [.hr hr]
          return .error hr
        else return .ok (if r.1 = E_NOINTERFACE then .zero else r.2, symName) := rfl

theorem visible_readSymbol (i : ℕ) : (readSymbol i).Asks Visible := by
  rw [readSymbol_eq]
  refine ⟨rfl, fun r => ?_⟩
  simp only [Dialogue.bind]
  by_cases hentry : r.1 ≠ E_NOINTERFACE ∧ FAILED r.1
  · rw [if_pos hentry]
    exact ⟨rfl, fun _ => trivial⟩
  · rw [if_neg hentry]
    refine ⟨rfl, ?_⟩
    rintro ⟨hr, symName⟩
    simp only [Dialogue.bind]
    by_cases hname : FAILED hr = true
    · rw [if_pos hname]
      exact ⟨rfl, fun _ => trivial⟩
    · rw [if_neg hname]
      trivial

/-- What ends the enumeration is a failure. -/
theorem failed_of_readSymbol (i : ℕ) :
    (readSymbol i).Leaves fun r => ∀ hr, r = .error hr → FAILED hr = true := by
  rw [readSymbol_eq]
  intro r
  simp only [Dialogue.bind]
  by_cases hentry : r.1 ≠ E_NOINTERFACE ∧ FAILED r.1
  · rw [if_pos hentry]
    rintro - hr heq
    cases heq
    exact hentry.2
  · rw [if_neg hentry]
    rintro ⟨hr, symName⟩
    simp only [Dialogue.bind]
    by_cases hname : FAILED hr = true
    · rw [if_pos hname]
      rintro - hr' heq
      cases heq
      exact hname
    · rw [if_neg hname]
      rintro hr' heq
      cases heq

/-- A failure, or objects that `Inv` relates. -/
inductive Enumerated {σ : Type} (Inv : σ → List Datum → Prop) :
    HRESULT × σ → Option (List Datum) → Prop
  | failed {hr : HRESULT} (acc : σ) (h : FAILED hr = true) : Enumerated Inv (hr, acc) none
  | all {hr : HRESULT} {acc : σ} {objs : List Datum} (hf : FAILED hr = false)
      (h : Inv acc objs) : Enumerated Inv (hr, acc) (some objs)

section Variables

variable {σ : Type} {Inv : ℕ → σ → List Datum → Prop}

/-- The callback appends an object and returns no failure. -/
def Appended (Inv : ℕ → σ → List Datum → Prop) (i : ℕ) (r : HRESULT × σ) (objs : List Datum) :
    Prop :=
  r.1 = S_OK ∧ Inv (i + 1) r.2 objs

theorem refines_enumSymbols
    {callback : σ → DebugSymbolEntry → FixedStr CHAR MAX_SYMBOL_NAME_LEN → ℕ →
      Throws Request.Answer ε (HRESULT × σ)}
    (hcall : ∀ i acc objs entry symName, Inv i acc objs →
      Refines (Appended Inv i) (callback acc entry symName i) (appendVariable objs entry symName))
    (k i : ℕ) {acc : σ} {objs : List Datum} (h : Inv i acc objs) :
    Refines (Enumerated (Inv (i + k))) (enumSymbols Throws.lift callback k i acc)
      (variablesFrom k i objs) := by
  induction k generalizing i acc objs with
  | zero => exact refines_pure (.all rfl h)
  | succ k ih =>
    rw [enumSymbols, variablesFrom]
    refine (refines_rel (.refl_of_leaves (failed_of_readSymbol i)) (visible_readSymbol i)).bind ?_
    rintro r _ ⟨rfl, hfailed⟩
    cases r with
    | error hr => exact refines_pure (.failed acc (hfailed hr rfl))
    | ok symbol =>
      refine (hcall i acc objs symbol.1 symbol.2 h).bind ?_
      rintro ⟨hr, acc⟩ objs ⟨rfl, hinv⟩
      rw [show i + (k + 1) = i + 1 + k by omega]
      exact ih (i + 1) hinv

/-- The symbol group is released at the end. -/
theorem refines_variables
    {callback : σ → DebugSymbolEntry → FixedStr CHAR MAX_SYMBOL_NAME_LEN → ℕ →
      Throws Request.Answer ε (HRESULT × σ)}
    (hcall : ∀ i acc objs entry symName, Inv i acc objs →
      Refines (Appended Inv i) (callback acc entry symName i) (appendVariable objs entry symName))
    (numSym : ULONG) {acc : σ} (h : Inv 0 acc []) :
    Refines (Enumerated (Inv numSym.toNat))
      (utilEnumStackFrameVariables Throws.lift callback numSym acc) (variablesOf numSym) := by
  have hrun := refines_enumSymbols hcall numSym.toNat 0 h
  rw [Nat.zero_add] at hrun
  refine hrun.bind ?_
  intro r objs hr
  have hrelease : (ask .releaseSymbolGroup).Asks Visible := ⟨rfl, fun _ => trivial⟩
  exact (refines_lift hrelease).bind fun _ _ _ => refines_pure hr

theorem pyRefines_enumSymbols
    {callback : σ → DebugSymbolEntry → FixedStr CHAR MAX_SYMBOL_NAME_LEN → ℕ →
      PyM (HRESULT × σ)}
    (hcall : ∀ i acc objs entry symName, Inv i acc objs →
      PyRefines (Appended Inv i) (callback acc entry symName i)
        (appendVariable objs entry symName))
    (k i : ℕ) {acc : σ} {objs : List Datum} (h : Inv i acc objs) :
    PyRefines (Enumerated (Inv (i + k))) (enumSymbols Python.ds callback k i acc)
      (variablesFrom k i objs) := by
  induction k generalizing i acc objs with
  | zero => exact pyRefines_pure (.all rfl h)
  | succ k ih =>
    rw [enumSymbols, variablesFrom]
    refine (pyRefines_rel (.refl_of_leaves (failed_of_readSymbol i)) (visible_readSymbol i)).bind ?_
    rintro r _ ⟨rfl, hfailed⟩
    cases r with
    | error hr => exact pyRefines_pure (.failed acc (hfailed hr rfl))
    | ok symbol =>
      refine (hcall i acc objs symbol.1 symbol.2 h).bind ?_
      rintro ⟨hr, acc⟩ objs ⟨rfl, hinv⟩
      rw [show i + (k + 1) = i + 1 + k by omega]
      exact ih (i + 1) hinv

theorem pyRefines_variables
    {callback : σ → DebugSymbolEntry → FixedStr CHAR MAX_SYMBOL_NAME_LEN → ℕ →
      PyM (HRESULT × σ)}
    (hcall : ∀ i acc objs entry symName, Inv i acc objs →
      PyRefines (Appended Inv i) (callback acc entry symName i)
        (appendVariable objs entry symName))
    (numSym : ULONG) {acc : σ} (h : Inv 0 acc []) :
    PyRefines (Enumerated (Inv numSym.toNat))
      (utilEnumStackFrameVariables Python.ds callback numSym acc) (variablesOf numSym) := by
  have hrun := pyRefines_enumSymbols hcall numSym.toNat 0 h
  rw [Nat.zero_add] at hrun
  refine hrun.bind ?_
  intro r objs hr
  have hrelease : (ask .releaseSymbolGroup).Asks Visible := ⟨rfl, fun _ => trivial⟩
  exact (pyRefines_lift hrelease).bind fun _ _ _ => pyRefines_pure hr

end Variables

/-! ## Replies -/

section Replies

variable {O O' : Type}

/-- The same, with related objects. -/
inductive EntityRel (R : O → O' → Prop) : Entity O → Entity O' → Prop
  | object {o : O} {x : O'} (h : R o x) : EntityRel R (.object o) (.object x)
  | thread (thd : DbgScriptThread) : EntityRel R (.thread thd) (.thread thd)
  | frame (frame : DbgScriptStackFrame) (thd : DbgScriptThread) :
      EntityRel R (.frame frame thd) (.frame frame thd)

/-- The same reply, with related objects. -/
inductive ReplyRel (R : O → O' → Prop) : Reply O → Reply O' → Prop
  | nothing : ReplyRel R .nothing .nothing
  | integer (i : UINT64) : ReplyRel R (.integer i) (.integer i)
  | boolean (b : Bool) : ReplyRel R (.boolean b) (.boolean b)
  | single (bits : BitVec 32) : ReplyRel R (.single bits) (.single bits)
  | double (bits : BitVec 64) : ReplyRel R (.double bits) (.double bits)
  | text (s : List CHAR) : ReplyRel R (.text s) (.text s)
  | entity {e : Entity O} {e' : Entity O'} (h : EntityRel R e e') :
      ReplyRel R (.entity e) (.entity e')
  | entities {es : List (Entity O)} {es' : List (Entity O')}
      (h : List.Forall₂ (EntityRel R) es es') : ReplyRel R (.entities es) (.entities es')

/-- A reply of a provider, and what the interface says of it. -/
abbrev Promised : Reply DbgScriptTypedObject → Reply Datum → Prop := ReplyRel Represents

theorem promised_objects {os : List DbgScriptTypedObject} {xs : List Datum}
    (h : List.Forall₂ Represents os xs) :
    Promised (.entities (os.map .object)) (.entities (xs.map .object)) := by
  refine .entities ?_
  induction h with
  | nil => exact .nil
  | cons h _ ih => exact .cons (.object h) ih

/-- Threads are what they are. -/
theorem promised_threads (thds : List DbgScriptThread) :
    Promised (.entities (thds.map .thread)) (.entities (thds.map .thread)) := by
  refine .entities ?_
  induction thds with
  | nil => exact .nil
  | cons thd _ ih => exact .cons (.thread thd) ih

/-- The first elements of a list, one by one. -/
theorem range_map_getD {α : Type} [Inhabited α] (xs : List α) (n : ℕ) :
    (List.range (min xs.length n)).map (fun i => xs.getD i default) = xs.take n := by
  refine List.ext_getElem (by simp [Nat.min_comm]) ?_
  intro i hi hi'
  have hlen : i < xs.length := by
    rw [List.length_take] at hi'
    omega
  simp [hlen]

theorem promised_frames (frames : List DbgScriptStackFrame) (thd : DbgScriptThread) :
    Promised (.entities (frames.map fun frame => .frame frame thd))
      (.entities (frames.map fun frame => .frame frame thd)) := by
  refine .entities ?_
  induction frames with
  | nil => exact .nil
  | cons frame _ ih => exact .cons (.frame frame thd) ih

end Replies

/-! ## Calls on an object -/

section Objects

variable {ρ : Type} {Shows : ρ → Reply Datum → Prop} {o : DbgScriptTypedObject} {x : Datum}
  {g : ApiM (Reply Datum)}

/-- The call does what the interface promises, and the object still represents `x`. -/
def RefinesOn (Shows : ρ → Reply Datum → Prop) (x : Datum)
    (d : DsM (DbgScriptTypedObject × Except ε ρ)) (g : ApiM (Reply Datum)) : Prop :=
  Covers quiet Unspecified (fun r b => Represents r.1 x ∧ Caught Shows r.2 b)
    (d.inl : Dialogue PyAnswer _) g.attempt.inl

/-- A call that leaves the object alone. -/
theorem refinesOn_reading (h : Represents o x) {f : Throws Request.Answer ε ρ}
    (hf : Refines Shows f g) : RefinesOn Shows x (f.attempt >>= fun r => .done (o, r)) g := by
  rw [RefinesOn, Dialogue.inl_bind]
  exact Covers.bind_left hf fun _ _ hr => .done ⟨h, hr⟩

theorem refinesOn_settle {c : DsM α} {a : α} {k : α → DsM (DbgScriptTypedObject × Except ε ρ)}
    (hc : Settles quiet a (c.inl : Dialogue PyAnswer α)) (h : RefinesOn Shows x (k a) g) :
    RefinesOn Shows x (c >>= k) g := by
  rw [RefinesOn, Dialogue.inl_bind]
  exact Covers.settle hc h

theorem refinesOn_typed (h : Represents o x) {d : DsM (DbgScriptTypedObject × Except ε ρ)}
    {l : DebugTypedData → ApiM (Reply Datum)}
    (hl : o.typedDataValid = true → RefinesOn Shows x d (l o.typedData)) :
    RefinesOn Shows x d (typed x >>= l) := by
  obtain ⟨data, hvalid, rfl, hx⟩ | hx := typed_cases h
  · rw [hx]
    exact hl hvalid
  · rw [hx]
    exact .free rfl

theorem Represents.withValue (h : Represents o x) (bytes : List UInt8) :
    Represents (o.withValue bytes) x := by
  refine ⟨h.name, h.typeName, h.moduleName, ?_⟩
  have hc := h.contents
  revert hc
  cases x.contents with
  | typed data => exact id
  | bare size address => exact id

/-- The bytes of a value are read; afterwards they are in the union. -/
theorem refinesOn_readTypedData (h : Represents o x)
    {k : DbgScriptTypedObject × HRESULT → DsM (DbgScriptTypedObject × Except ε ρ)}
    {l : List UInt8 → ApiM (Reply Datum)}
    (hfail : ∀ hr, FAILED hr = true → ∃ e, k (o, hr) = .done (o, .error e))
    (hok : ∀ hr bytes, ¬ FAILED hr = true →
      RefinesOn Shows x (k (o.withValue bytes, hr)) (l bytes)) :
    RefinesOn Shows x (readTypedData o >>= k)
      (query (ask (.readTypedData o.typedData.offset o.typedData.modBase o.typedData.typeId))
        >>= l) := by
  refine .ask _ rfl ?_
  rintro ⟨hr, bytes⟩
  by_cases hf : FAILED hr = true
  · obtain ⟨e, he⟩ := hfail hr hf
    simp only [Dialogue.bind, Throws.andThen, hf, if_true]
    show Covers _ _ _ (k (o, hr)).inl _
    rw [he]
    exact .done ⟨h, .error e⟩
  · simp only [Dialogue.bind, Throws.andThen, hf]
    exact hok hr bytes hf

theorem isPrimitive_eq (o : DbgScriptTypedObject) :
    dsTypedObjectIsPrimitive o = isPrimitive o.typedData := rfl

end Objects

end DbgScript.ScriptApi
