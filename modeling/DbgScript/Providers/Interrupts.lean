import DbgScript.Providers.ApiObjects

/-!
# Functions that heed Ctrl-C

The debugger remembers that the user has pressed Ctrl-C until it is asked, and answers so
only once. The functions of the providers ask it at the beginning (`CHECK_ABORT`), some of
them several times.

* `heeds_bind`: a function ends in an error as soon as it hears of an interrupt, if each of
  its steps does.
* `heedsOn_checks`, `heedsOn_checkAbort`: the same for calls on an object.
-/

namespace DbgScript.ScriptApi

open CharBuf (CStr FixedStr)
open Dialogue (EndsAfter Exchange Rel Talk)
open Python (PyAnswer)

def isInterrupt (hr : HRESULT) : Bool := hr = S_OK

/-- The user has pressed Ctrl-C. -/
def interrupted : Exchange PyAnswer → Bool
  | ⟨.inl .getInterrupt, hr⟩ => isInterrupt hr
  | _ => false

variable {α β γ δ ε : Type}

theorem interrupted_visible {r : Request} (h : Visible r) (x : r.Answer) :
    interrupted ⟨.inl r, x⟩ = false := by
  cases r with
  | getInterrupt => exact Bool.noConfusion h
  | _ => rfl

theorem endsAfter_visible {d : DsM α} {E : α → Prop} (h : d.Asks Visible) :
    (d.inl : Dialogue PyAnswer α).EndsAfter interrupted E :=
  .of_asks (Dialogue.asks_inl (h.mono fun _ hr x => interrupted_visible hr x))

theorem endsAfter_utilCheckAbort :
    (utilCheckAbort.inl : Dialogue PyAnswer Bool).EndsAfter interrupted (· = true) := by
  refine fun (hr : HRESULT) => ⟨fun hint => ⟨true, ?_, rfl⟩, trivial⟩
  exact congrArg Dialogue.done hint

/-! ## Functions that leave by a jump -/

/-- The function ends in an error as soon as it hears of an interrupt. -/
structure Heeds (f : Throws Request.Answer ε α) : Prop where
  ends : (f.attempt.inl : Dialogue PyAnswer _).EndsAfter interrupted fun r => ∃ e, r = .error e

theorem heeds_bind {f : Throws Request.Answer ε α} {k : α → Throws Request.Answer ε γ}
    (hf : Heeds f) (hk : ∀ a, Heeds (k a)) : Heeds (f >>= k) := by
  constructor
  rw [Throws.attempt_bind, Dialogue.inl_bind]
  refine hf.ends.bind ?_ ?_
  · rintro _ ⟨e, rfl⟩
    exact ⟨_, rfl, e, rfl⟩
  · rintro (e | a)
    · trivial
    · exact (hk a).ends

theorem heeds_pure (a : α) : Heeds (pure a : Throws Request.Answer ε α) := ⟨trivial⟩

theorem heeds_throw (e : ε) : Heeds (Throws.throw e : Throws Request.Answer ε α) := ⟨trivial⟩

theorem heeds_lift {q : DsM α} (hq : q.Asks Visible) :
    Heeds (Throws.lift q : Throws Request.Answer ε α) :=
  ⟨endsAfter_visible (Throws.asks_lift hq)⟩

/-- A query of the support library. -/
theorem heeds_query {q : DsM (HRESULT × α)} {k : HRESULT × α → Throws Request.Answer ε γ}
    (hq : q.Asks Visible) (hk : ∀ hr a, Heeds (k (hr, a))) : Heeds (Throws.lift q >>= k) :=
  heeds_bind (heeds_lift hq) fun r => hk r.1 r.2

theorem heeds_ite {c : Prop} [Decidable c] {f g : Throws Request.Answer ε α} (hf : Heeds f)
    (hg : Heeds g) : Heeds (if c then f else g) := by
  split_ifs
  · exact hf
  · exact hg

theorem heeds_unless {c : Prop} [Decidable c] {e : ε} {f : Throws Request.Answer ε α}
    (hf : Heeds f) : Heeds (if c then Throws.throw e else f) :=
  heeds_ite (heeds_throw e) hf

theorem heeds_map {f : Throws Request.Answer ε α} {v : α → γ} (hf : Heeds f) :
    Heeds (f >>= fun a => pure (v a)) :=
  heeds_bind hf fun _ => heeds_pure _

theorem heeds_checkAbort {e : ε} :
    Heeds (do
      if ← Throws.lift utilCheckAbort then Throws.throw e : Throws Request.Answer ε Unit) := by
  constructor
  rw [inl_attempt_lift_bind]
  refine endsAfter_utilCheckAbort.bind ?_ ?_
  · rintro _ rfl
    exact ⟨_, rfl, e, rfl⟩
  · rintro (_ | _)
    · trivial
    · trivial

/-- The type of a symbol, and what follows. -/
theorem heeds_symbolType {sym : AnsiStr} {k : Option ModuleAndTypeId → Throws Request.Answer ε γ}
    (hnone : Heeds (k none)) (hsome : ∀ typeInfo, Heeds (k (some typeInfo))) :
    Heeds (Throws.lift (ask (.getCachedSymbolType sym)) >>= k) := by
  refine heeds_bind (heeds_lift ⟨rfl, fun _ => trivial⟩) ?_
  rintro (_ | typeInfo)
  · exact hnone
  · exact hsome typeInfo

/-! ## The support library -/

theorem visible_dsInitializeTypedObject (size : ULONG) (name : Option AnsiStr) (typeId : ULONG)
    (moduleBase address : UINT64) (wantPointer : Bool) (mem : DbgScriptTypedObject) :
    (dsInitializeTypedObject size name typeId moduleBase address wantPointer mem).Asks Visible :=
  (made_dsInitializeTypedObject _ _ _ _ _ _ _).asks (visible_initObject _ _ _ _ _ _)

theorem visible_dsWrapTypedData (name : AnsiStr) (data : DebugTypedData)
    (mem : DbgScriptTypedObject) : (dsWrapTypedData name data mem).Asks Visible :=
  (made_dsWrapTypedData _ _ _).asks (visible_wrap _ _)

theorem visible_dsTypedObjectGetField (o : DbgScriptTypedObject) (name : AnsiStr) :
    (dsTypedObjectGetField o name true).Asks Visible :=
  (rel_dsTypedObjectGetField o name).asks (visible_fieldOf _ _)

theorem visible_dsTypedObjectGetArrayElement (o : DbgScriptTypedObject) (index : UINT64) :
    (dsTypedObjectGetArrayElement o index).Asks Visible :=
  (rel_dsTypedObjectGetArrayElement o index).asks (visible_elementOf _ _)

theorem visible_readTypedData (o : DbgScriptTypedObject) : (readTypedData o).Asks Visible := by
  refine ⟨rfl, ?_⟩
  rintro ⟨hr, bytes⟩
  simp only [Dialogue.bind]
  split_ifs
  · trivial
  · trivial

/-- What the value getters ask once the checks have been made. -/
theorem visible_readTypedData_bind {o : DbgScriptTypedObject}
    {k : DbgScriptTypedObject × HRESULT → DsM α} (hk : ∀ r, (k r).Asks Visible) :
    (readTypedData o >>= k).Asks Visible :=
  Dialogue.asks_bind (visible_readTypedData o) (Dialogue.leaves_true _) fun r _ => hk r

theorem visible_dsTypedObjectGetRuntimeType (o mem : DbgScriptTypedObject) :
    (dsTypedObjectGetRuntimeType o mem).Asks Visible := by
  refine Dialogue.asks_bind ((rel_readVtablePointer o).asks (visible_vtablePointer _))
    (Dialogue.leaves_true _) ?_
  rintro ⟨hr, objAddr, ptrVal⟩ -
  simp only
  split_ifs
  · trivial
  · refine ⟨rfl, ?_⟩
    rintro ⟨hr, name, disp⟩
    simp only [Dialogue.bind]
    split_ifs
    · exact ⟨rfl, fun _ => trivial⟩
    · cases beforeMatch (ansi "::`vftable'") name.chars with
      | none => exact ⟨rfl, fun _ => trivial⟩
      | some typeName =>
        refine ⟨rfl, fun typeInfo => ?_⟩
        cases typeInfo with
        | none => exact ⟨rfl, fun _ => trivial⟩
        | some typeInfo =>
          exact (rel_reporting (made_dsInitializeTypedObject _ _ _ _ _ _ _)).asks
            (visible_reporting (visible_initObject _ _ _ _ _ _))

theorem visible_utilReadAnsiString (addr : UINT64) (count : CInt) :
    (utilReadAnsiString addr count).Asks Visible := ⟨rfl, fun _ => trivial⟩

/-! ## Calls on an object, and callbacks -/

/-- The call on the object `o` ends in an error as soon as it hears of an interrupt, and leaves
    the object as it was. -/
structure HeedsOn {ρ : Type} (o : DbgScriptTypedObject)
    (d : DsM (DbgScriptTypedObject × Except ε ρ)) : Prop where
  ends : (d.inl : Dialogue PyAnswer _).EndsAfter interrupted fun r => ∃ e, r = (o, .error e)

variable {ρ : Type} {o : DbgScriptTypedObject}

theorem heedsOn_done (r : DbgScriptTypedObject × Except ε ρ) : HeedsOn o (.done r) := ⟨trivial⟩

theorem heedsOn_reading {f : Throws Request.Answer ε ρ} (hf : Heeds f)
    (o : DbgScriptTypedObject) : HeedsOn o (f.attempt >>= fun r => .done (o, r)) := by
  constructor
  rw [Dialogue.inl_bind]
  refine hf.ends.bind ?_ fun _ => trivial
  rintro _ ⟨e, rfl⟩
  exact ⟨_, rfl, e, rfl⟩

/-- Checks, and what follows them without a further one. -/
theorem heedsOn_checks {f : Throws Request.Answer ε Unit} (hf : Heeds f)
    {k : Except ε Unit → DsM (DbgScriptTypedObject × Except ε ρ)}
    (herror : ∀ e, k (.error e) = .done (o, .error e)) (hok : (k (.ok ())).Asks Visible) :
    HeedsOn o (f.attempt >>= k) := by
  constructor
  rw [Dialogue.inl_bind]
  refine hf.ends.bind ?_ ?_
  · rintro _ ⟨e, rfl⟩
    exact ⟨_, by rw [herror]; rfl, e, rfl⟩
  · rintro (e | ⟨⟩)
    · rw [herror]
      trivial
    · exact endsAfter_visible hok

/-- A check, and what follows it. -/
theorem heedsOn_checkAbort {k : Bool → DsM (DbgScriptTypedObject × Except ε ρ)}
    (hstop : ∃ e, k true = .done (o, .error e)) (hgo : HeedsOn o (k false)) :
    HeedsOn o (utilCheckAbort >>= k) := by
  obtain ⟨e, he⟩ := hstop
  constructor
  rw [Dialogue.inl_bind]
  refine endsAfter_utilCheckAbort.bind ?_ ?_
  · rintro _ rfl
    exact ⟨(o, .error e), by rw [he]; rfl, e, rfl⟩
  · rintro (_ | _)
    · exact hgo.ends
    · rw [he]
      trivial

/-! ## The variables of a frame -/

theorem heeds_enumSymbols {σ : Type}
    {callback : σ → DebugSymbolEntry → FixedStr CHAR MAX_SYMBOL_NAME_LEN → ℕ →
      Throws Request.Answer ε (HRESULT × σ)}
    (hcall : ∀ acc entry symName i, Heeds (callback acc entry symName i)) (k i : ℕ) (acc : σ) :
    Heeds (enumSymbols Throws.lift callback k i acc) := by
  induction k generalizing i acc with
  | zero => exact heeds_pure _
  | succ k ih =>
    refine heeds_bind (heeds_lift (visible_readSymbol i)) ?_
    rintro (hr | ⟨entry, symName⟩)
    · exact heeds_pure _
    · refine heeds_bind (hcall acc entry symName i) ?_
      rintro ⟨hr, acc⟩
      exact heeds_ite (heeds_pure _) (ih _ _)

theorem heeds_utilEnumStackFrameVariables {σ : Type}
    {callback : σ → DebugSymbolEntry → FixedStr CHAR MAX_SYMBOL_NAME_LEN → ℕ →
      Throws Request.Answer ε (HRESULT × σ)}
    (hcall : ∀ acc entry symName i, Heeds (callback acc entry symName i)) (numSym : ULONG)
    (acc : σ) : Heeds (utilEnumStackFrameVariables Throws.lift callback numSym acc) :=
  heeds_bind (heeds_enumSymbols hcall _ _ _) fun _ =>
    heeds_bind (heeds_lift ⟨rfl, fun _ => trivial⟩) fun _ => heeds_pure _

end DbgScript.ScriptApi
