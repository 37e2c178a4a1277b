import DbgScript.Lib.Conversation
import DbgScript.Lua.TypedObject
import DbgScript.Providers.ScriptApi
import DbgScript.Python.Functions
import DbgScript.Ruby.TypedObject

/-!
# Refining the scripting interface, step by step

A function of a provider refines a call of the interface if it puts the same questions to
the debugger and returns what the interface promises. Its own questions are put aside: it
asks the debugger for a user's interrupt, of which there is none, and CPython for objects,
which it gets.

* `Refines`, `PyRefines`: for the functions that leave by a jump, and for those that return
  null with an exception; each step by step.
-/

namespace DbgScript.ScriptApi

open CharBuf (CStr Buf FixedStr)
open Dialogue (Aside Covers Rel Settles)
open Python (PyAnswer PyCall PyErr PyM)

variable {α β γ δ ε : Type}

/-! ## Questions put aside -/

/-- The call on CPython succeeds, and no command has left an exception pending. -/
def Succeeds : (c : PyCall) → c.Answer → Prop
  | .newObject, r => r = .ok ()
  | .tupleSetItem, r => r = .ok ()
  | .genericGetAttr _, r => r.isOk = true
  | .pendingException, r => r = none

/-- The providers' own questions: nobody has pressed Ctrl-C, CPython does what it is asked, and
    no command leaves a Python exception pending. -/
def quiet : Aside PyAnswer where
  silent
    | .inl .getInterrupt => true
    | .inl _ => false
    | .inr _ => true
  calm
    | .inl .getInterrupt, hr => hr ≠ S_OK
    | .inl _, _ => True
    | .inr c, r => Succeeds c r
  exists_calm r hr := by
    rcases r with r | c
    · cases r with
      | getInterrupt => exact ⟨S_FALSE, show S_FALSE ≠ S_OK by decide⟩
      | _ => exact Bool.noConfusion hr
    · cases c with
      | newObject => exact ⟨.ok (), rfl⟩
      | tupleSetItem => exact ⟨.ok (), rfl⟩
      | genericGetAttr => exact ⟨.ok .attribute, rfl⟩
      | pendingException => exact ⟨none, rfl⟩

/-- The end of what is promised. -/
def Unspecified (r : Except ApiError α) : Prop := r = .error .unspecified

/-- A question that is not put aside. -/
def Visible (r : Request) : Prop := quiet.silent (.inl r) = false

/-! ## Functions that leave by a jump -/

/-- An error for an error, or related results. -/
inductive Caught (R : α → β → Prop) : Except ε α → Except ApiError β → Prop
  | error (e : ε) : Caught R (.error e) (.error .raised)
  | ok {a : α} {b : β} (h : R a b) : Caught R (.ok a) (.ok b)

/-- The function does what the interface promises. -/
def Refines (R : α → β → Prop) (f : Throws Request.Answer ε α) (g : ApiM β) : Prop :=
  Covers quiet Unspecified (Caught R) f.attempt.inl g.attempt.inl

variable {R : α → β → Prop} {S : γ → δ → Prop}

theorem free_andThen {l : β → ApiM δ} {r : Except ApiError β} (h : Unspecified r) :
    ∃ c : Except ApiError δ, Unspecified c ∧
      (Throws.andThen l r).inl = (.done c : Dialogue PyAnswer _) := by
  obtain rfl : r = .error .unspecified := h
  exact ⟨_, rfl, rfl⟩

theorem Refines.bind {f : Throws Request.Answer ε α} {g : ApiM β}
    {k : α → Throws Request.Answer ε γ} {l : β → ApiM δ} (h : Refines R f g)
    (hkl : ∀ a b, R a b → Refines S (k a) (l b)) : Refines S (f >>= k) (g >>= l) := by
  rw [Refines, Throws.attempt_bind, Throws.attempt_bind, Dialogue.inl_bind, Dialogue.inl_bind]
  refine Covers.bind h (fun _ => free_andThen) ?_
  rintro _ _ (e | hab)
  · exact .done (.error e)
  · exact hkl _ _ hab

theorem refines_pure {a : α} {b : β} (h : R a b) :
    Refines R (pure a : Throws Request.Answer ε α) (pure b) :=
  .done (.ok h)

theorem refines_throw (e : ε) : Refines R (Throws.throw e : Throws Request.Answer ε α) raised :=
  .done (.error e)

theorem refines_unspecified (f : Throws Request.Answer ε α) :
    Refines R f (unspecified : ApiM β) := .free rfl

theorem refines_rel {q : DsM α} {q' : DsM β} (h : Rel R q q') (hq : q'.Asks Visible) :
    Refines R (Throws.lift q : Throws Request.Answer ε α) (Throws.lift q' : ApiM β) := by
  have hcovers : Covers quiet (fun _ => False) R (q.inl : Dialogue PyAnswer α) q'.inl :=
    .of_rel h.inl (Dialogue.asks_inl hq)
  rw [Refines, Throws.attempt_lift, Throws.attempt_lift, Dialogue.inl_bind, Dialogue.inl_bind]
  refine hcovers.bind (fun _ h => h.elim) ?_
  intro a b hab
  exact .done (.ok hab)

theorem refines_lift {q : DsM α} (hq : q.Asks Visible) :
    Refines Eq (Throws.lift q : Throws Request.Answer ε α) (Throws.lift q : ApiM α) :=
  refines_rel (.refl (fun _ => rfl) q) hq

theorem refines_lift_bind {q : DsM α} {k : α → Throws Request.Answer ε γ} {l : α → ApiM δ}
    (hq : q.Asks Visible) (hkl : ∀ a, Refines S (k a) (l a)) :
    Refines S (Throws.lift q >>= k) (Throws.lift q >>= l) := by
  refine (refines_lift hq).bind ?_
  rintro a _ rfl
  exact hkl a

theorem inl_attempt_lift_bind (q : DsM α) (k : α → Throws Request.Answer ε γ) :
    ((Throws.lift q >>= k).attempt.inl : Dialogue PyAnswer _) =
      q.inl >>= fun a => (k a).attempt.inl := by
  rw [Throws.attempt_bind, Throws.attempt_lift, Dialogue.bind_assoc, Dialogue.inl_bind]
  rfl

/-- A code that denotes failure for an error, or the value. -/
inductive Yields : HRESULT × α → Except ApiError α → Prop
  | failed {hr : HRESULT} (a : α) (h : FAILED hr = true) : Yields (hr, a) (.error .raised)
  | value {hr : HRESULT} (a : α) (h : FAILED hr = false) : Yields (hr, a) (.ok a)

/-- A call of the support library whose failure raises an error. -/
theorem refines_yields {q : DsM (HRESULT × α)} {d : ApiM α}
    {k : HRESULT × α → Throws Request.Answer ε γ} {l : α → ApiM δ} (hrel : Rel Yields q d.attempt)
    (hd : d.attempt.Asks Visible)
    (hfail : ∀ hr a, FAILED hr = true → Refines S (k (hr, a)) raised)
    (hok : ∀ hr a, FAILED hr = false → Refines S (k (hr, a)) (l a)) :
    Refines S (Throws.lift q >>= k) (d >>= l) := by
  have hyields : Covers quiet (fun _ => False) Yields (q.inl : Dialogue PyAnswer _) d.attempt.inl :=
    .of_rel hrel.inl (Dialogue.asks_inl hd)
  rw [Refines, inl_attempt_lift_bind, Throws.attempt_bind, Dialogue.inl_bind]
  refine hyields.bind (fun _ h => h.elim) ?_
  intro _ _ hr
  cases hr with
  | failed a h => exact hfail _ a h
  | value a h => exact hok _ a h

theorem rel_query (q : DsM (HRESULT × α)) : Rel Yields q (query q).attempt := by
  rw [query, Throws.attempt_bind, Throws.attempt_lift, Dialogue.bind_assoc]
  refine (Rel.refl (fun _ => rfl) q : Rel Eq q q).bind_right ?_
  rintro ⟨hr, a⟩ _ rfl
  by_cases hf : FAILED hr = true
  · simp only [Dialogue.done_bind, Throws.andThen, hf, if_true]
    exact .done (.failed a hf)
  · simp only [Dialogue.done_bind, Throws.andThen, hf]
    exact .done (.value a (by simpa using hf))

theorem visible_query {q : DsM (HRESULT × α)} (hq : q.Asks Visible) :
    (query q).attempt.Asks Visible := by
  refine Throws.asks_bind (Throws.asks_lift hq) ?_
  rintro ⟨hr, a⟩
  simp only
  split_ifs
  · trivial
  · trivial

theorem refines_query {q : DsM (HRESULT × α)} {k : HRESULT × α → Throws Request.Answer ε γ}
    {l : α → ApiM δ} (hq : q.Asks Visible)
    (hfail : ∀ hr a, FAILED hr = true → Refines S (k (hr, a)) raised)
    (hok : ∀ hr a, FAILED hr = false → Refines S (k (hr, a)) (l a)) :
    Refines S (Throws.lift q >>= k) (query q >>= l) :=
  refines_yields (rel_query q) (visible_query hq) hfail hok

/-- What the function asks before is put aside. -/
theorem refines_settle {a : α} {c : Throws Request.Answer ε α} {k : α → Throws Request.Answer ε γ}
    {g : ApiM δ} (hc : Settles quiet (.ok a) c.attempt.inl) (h : Refines S (k a) g) :
    Refines S (c >>= k) g := by
  rw [Refines, Throws.attempt_bind, Dialogue.inl_bind]
  exact Covers.settle hc h

theorem Refines.map {S : γ → β → Prop} {f : Throws Request.Answer ε α} {g : ApiM β} {v : α → γ}
    (h : Refines R f g) (hv : ∀ a b, R a b → S (v a) b) :
    Refines S (f >>= fun a => pure (v a)) g := by
  rw [Refines, Throws.attempt_bind, Dialogue.inl_bind]
  refine Covers.bind_left h ?_
  rintro _ _ (e | hab)
  · exact .done (.error e)
  · exact .done (.ok (hv _ _ hab))

theorem Refines.bind_right {S : α → δ → Prop} {f : Throws Request.Answer ε α} {g : ApiM β}
    {l : β → ApiM δ} (h : Refines R f g)
    (hl : ∀ a b, R a b → Refines S (pure a : Throws Request.Answer ε α) (l b)) :
    Refines S f (g >>= l) := by
  rw [Refines, Throws.attempt_bind, Dialogue.inl_bind]
  refine Covers.bind_right h (fun _ => free_andThen) ?_
  rintro _ _ (e | hab)
  · exact .done (.error e)
  · exact hl _ _ hab

theorem refines_lift_right {q : DsM α} {l : α → ApiM δ} {S : α → δ → Prop} (hq : q.Asks Visible)
    (hl : ∀ a, Refines S (pure a : Throws Request.Answer ε α) (l a)) :
    Refines S (Throws.lift q : Throws Request.Answer ε α) (Throws.lift q >>= l) := by
  refine (refines_lift hq).bind_right ?_
  rintro a _ rfl
  exact hl a

/-- A function that checks for an interrupt and makes one query. -/
theorem refines_checked_query {c : Throws Request.Answer ε Unit} {q : DsM (HRESULT × α)}
    {k : HRESULT × α → Throws Request.Answer ε γ} {v : α → γ} {l : α → ApiM δ}
    (hc : Settles quiet (.ok ()) c.attempt.inl) (hq : q.Asks Visible)
    (hfail : ∀ hr a, FAILED hr = true → ∃ e, k (hr, a) = Throws.throw e)
    (hok : ∀ hr a, ¬ FAILED hr = true → k (hr, a) = pure (v a))
    (hl : ∀ a, Refines S (pure (v a) : Throws Request.Answer ε γ) (l a)) :
    Refines S (c >>= fun _ => Throws.lift q >>= k) (query q >>= l) := by
  refine refines_settle hc (refines_query hq ?_ ?_)
  · intro hr a hf
    obtain ⟨e, he⟩ := hfail hr a hf
    rw [he]
    exact refines_throw e
  · intro hr a hf
    rw [hok hr a (by simp [hf])]
    exact hl a

theorem refines_integer {O : Type} {n : ℕ} {i : BitVec n} {a : γ} {S : γ → Reply O → Prop}
    (h : S a (.integer (i.setWidth 64))) :
    Refines S (pure a : Throws Request.Answer ε γ) (integer i) :=
  refines_pure h

theorem refines_integer64 {O : Type} {i : UINT64} {a : γ} {S : γ → Reply O → Prop}
    (h : S a (.integer i)) : Refines S (pure a : Throws Request.Answer ε γ) (integer i) :=
  refines_pure (by rwa [BitVec.setWidth_eq])

/-- Text that is not ASCII is not promised. -/
theorem refines_text {O : Type} {a : γ} {s : List CHAR} {S : γ → Reply O → Prop}
    (h : S a (.text s)) : Refines S (pure a : Throws Request.Answer ε γ) (text s) := by
  rw [text]
  split_ifs
  · exact refines_pure h
  · exact refines_unspecified _

/-- The type of a symbol; without one an error is raised. -/
theorem refines_symbolType {sym : AnsiStr}
    {k : Option ModuleAndTypeId → Throws Request.Answer ε γ} {l : ModuleAndTypeId → ApiM δ}
    (hnone : Refines S (k none) raised)
    (hsome : ∀ typeInfo, Refines S (k (some typeInfo)) (l typeInfo)) :
    Refines S (Throws.lift (ask (.getCachedSymbolType sym)) >>= k) (symbolType sym >>= l) := by
  have hq : (ask (.getCachedSymbolType sym)).Asks Visible := ⟨rfl, fun _ => trivial⟩
  rw [symbolType, Throws.bind_assoc]
  refine (refines_lift hq).bind ?_
  rintro typeInfo _ rfl
  cases typeInfo with
  | none => exact hnone
  | some typeInfo => exact hsome typeInfo

/-! ## What the support library asks -/

theorem visible_queryType {type : AnsiStr} {q : ModuleAndTypeId → DsM (HRESULT × ULONG)}
    (hq : ∀ typeInfo, (q typeInfo).Asks Visible) : (queryType type q).Asks Visible := by
  refine ⟨rfl, fun typeInfo => ?_⟩
  cases typeInfo with
  | none => exact ⟨rfl, fun _ => trivial⟩
  | some typeInfo => exact hq typeInfo

theorem visible_utilGetNearestSymbol (addr : UINT64) :
    (utilGetNearestSymbol addr).Asks Visible := by
  refine ⟨rfl, ?_⟩
  rintro ⟨hr, name, cchActual, disp⟩
  simp only [Dialogue.bind]
  split_ifs
  · exact ⟨rfl, fun _ => trivial⟩
  · trivial
  · trivial

theorem visible_utilReadWideString (addr : UINT64) (count : CInt) :
    (utilReadWideString addr count).Asks Visible := by
  refine ⟨rfl, fun r => ?_⟩
  simp only [Dialogue.bind]
  split_ifs
  · trivial
  · trivial
  · trivial

theorem visible_utilCountThreads : utilCountThreads.Asks Visible := by
  refine ⟨rfl, ?_⟩
  rintro ⟨hr, cThreads⟩
  simp only [Dialogue.bind]
  split_ifs
  · exact ⟨rfl, fun _ => trivial⟩
  · trivial

theorem visible_utilEnumThreads (cThreads : ULONG) : (utilEnumThreads cThreads).Asks Visible := by
  refine ⟨rfl, ?_⟩
  rintro ⟨hr, ids⟩
  simp only [Dialogue.bind]
  split_ifs
  · exact ⟨rfl, fun _ => trivial⟩
  · trivial

theorem visible_ulongDiv (a b : ULONG) : (ulongDiv a b).Asks Visible := by
  rw [ulongDiv]
  split_ifs
  · exact ⟨rfl, fun _ => trivial⟩
  · trivial

/-! ## Functions that return null with an exception -/

/-- Null for an error, or related results without an exception. -/
inductive Pending (R : α → β → Prop) : Option α × Option PyErr → Except ApiError β → Prop
  | null (flag : Option PyErr) : Pending R (none, flag) (.error .raised)
  | value {a : α} {b : β} (h : R a b) : Pending R (some a, none) (.ok b)

/-- The function, called without an exception pending, does what the interface promises. -/
def PyRefines (R : α → β → Prop) (f : PyM α) (g : ApiM β) : Prop :=
  Covers quiet Unspecified (Pending R) (f.attempt none) g.attempt.inl

theorem PyRefines.bind {f : PyM α} {g : ApiM β} {k : α → PyM γ} {l : β → ApiM δ}
    (h : PyRefines R f g) (hkl : ∀ a b, R a b → PyRefines S (k a) (l b)) :
    PyRefines S (f >>= k) (g >>= l) := by
  rw [PyRefines, Flagged.attempt_bind, Throws.attempt_bind, Dialogue.inl_bind]
  refine Covers.bind h (fun _ => free_andThen) ?_
  rintro _ _ (flag | hab)
  · exact .done (.null flag)
  · exact hkl _ _ hab

theorem pyRefines_pure {a : α} {b : β} (h : R a b) :
    PyRefines R (pure a : PyM α) (pure b) :=
  .done (.value h)

theorem pyRefines_raise (exc : Python.PyExc) (format : String) (args : List MsgArg) :
    PyRefines R (Python.raise exc format args : PyM α) raised :=
  .done (.null _)

theorem pyRefines_unspecified (f : PyM α) : PyRefines R f (unspecified : ApiM β) := .free rfl

theorem pyRefines_rel {q : DsM α} {q' : DsM β} (h : Rel R q q') (hq : q'.Asks Visible) :
    PyRefines R (Python.ds q) (Throws.lift q' : ApiM β) := by
  have hcovers : Covers quiet (fun _ => False) R (q.inl : Dialogue PyAnswer α) q'.inl :=
    .of_rel h.inl (Dialogue.asks_inl hq)
  rw [PyRefines, Python.ds, Flagged.attempt_lift, Throws.attempt_lift, Dialogue.inl_bind]
  refine hcovers.bind (fun _ h => h.elim) ?_
  intro a b hab
  exact .done (.value hab)

theorem pyRefines_lift {q : DsM α} (hq : q.Asks Visible) :
    PyRefines Eq (Python.ds q) (Throws.lift q : ApiM α) :=
  pyRefines_rel (.refl (fun _ => rfl) q) hq

theorem pyRefines_lift_bind {q : DsM α} {k : α → PyM γ} {l : α → ApiM δ} (hq : q.Asks Visible)
    (hkl : ∀ a, PyRefines S (k a) (l a)) :
    PyRefines S (Python.ds q >>= k) (Throws.lift q >>= l) := by
  refine (pyRefines_lift hq).bind ?_
  rintro a _ rfl
  exact hkl a

theorem attempt_ds_bind (q : DsM α) (k : α → PyM γ) (flag : Option PyErr) :
    (Python.ds q >>= k).attempt flag = q.inl >>= fun a => (k a).attempt flag := by
  rw [Flagged.attempt_bind, Python.ds, Flagged.attempt_lift, Dialogue.bind_assoc]
  rfl

theorem pyRefines_yields {q : DsM (HRESULT × α)} {d : ApiM α} {k : HRESULT × α → PyM γ}
    {l : α → ApiM δ} (hrel : Rel Yields q d.attempt) (hd : d.attempt.Asks Visible)
    (hfail : ∀ hr a, FAILED hr = true → PyRefines S (k (hr, a)) raised)
    (hok : ∀ hr a, FAILED hr = false → PyRefines S (k (hr, a)) (l a)) :
    PyRefines S (Python.ds q >>= k) (d >>= l) := by
  have hyields : Covers quiet (fun _ => False) Yields (q.inl : Dialogue PyAnswer _) d.attempt.inl :=
    .of_rel hrel.inl (Dialogue.asks_inl hd)
  rw [PyRefines, attempt_ds_bind, Throws.attempt_bind, Dialogue.inl_bind]
  refine hyields.bind (fun _ h => h.elim) ?_
  intro _ _ hr
  cases hr with
  | failed a h => exact hfail _ a h
  | value a h => exact hok _ a h

theorem pyRefines_query {q : DsM (HRESULT × α)} {k : HRESULT × α → PyM γ} {l : α → ApiM δ}
    (hq : q.Asks Visible) (hfail : ∀ hr a, FAILED hr = true → PyRefines S (k (hr, a)) raised)
    (hok : ∀ hr a, FAILED hr = false → PyRefines S (k (hr, a)) (l a)) :
    PyRefines S (Python.ds q >>= k) (query q >>= l) :=
  pyRefines_yields (rel_query q) (visible_query hq) hfail hok

theorem pyRefines_settle {a : α} {c : PyM α} {k : α → PyM γ} {g : ApiM δ}
    (hc : Settles quiet (some a, none) (c.attempt none)) (h : PyRefines S (k a) g) :
    PyRefines S (c >>= k) g := by
  rw [PyRefines, Flagged.attempt_bind]
  exact Covers.settle hc h

theorem PyRefines.bind_left {S : γ → β → Prop} {f : PyM α} {g : ApiM β} {k : α → PyM γ}
    (h : PyRefines R f g) (hk : ∀ a b, R a b → PyRefines S (k a) (pure b)) :
    PyRefines S (f >>= k) g := by
  rw [PyRefines, Flagged.attempt_bind]
  refine Covers.bind_left h ?_
  rintro _ _ (flag | hab)
  · exact .done (.null flag)
  · exact hk _ _ hab

theorem PyRefines.bind_right {S : α → δ → Prop} {f : PyM α} {g : ApiM β} {l : β → ApiM δ}
    (h : PyRefines R f g) (hl : ∀ a b, R a b → PyRefines S (pure a : PyM α) (l b)) :
    PyRefines S f (g >>= l) := by
  rw [PyRefines, Throws.attempt_bind, Dialogue.inl_bind]
  refine Covers.bind_right h (fun _ => free_andThen) ?_
  rintro _ _ (flag | hab)
  · exact .done (.null flag)
  · exact hl _ _ hab

theorem pyRefines_symbolType {sym : AnsiStr} {k : Option ModuleAndTypeId → PyM γ}
    {l : ModuleAndTypeId → ApiM δ} (hnone : PyRefines S (k none) raised)
    (hsome : ∀ typeInfo, PyRefines S (k (some typeInfo)) (l typeInfo)) :
    PyRefines S (Python.ds (ask (.getCachedSymbolType sym)) >>= k) (symbolType sym >>= l) := by
  have hq : (ask (.getCachedSymbolType sym)).Asks Visible := ⟨rfl, fun _ => trivial⟩
  rw [symbolType, Throws.bind_assoc]
  refine (pyRefines_lift hq).bind ?_
  rintro typeInfo _ rfl
  cases typeInfo with
  | none => exact hnone
  | some typeInfo => exact hsome typeInfo

/-! ## What the providers ask for themselves -/

theorem settles_utilCheckAbort :
    Settles quiet false (utilCheckAbort.inl : Dialogue PyAnswer Bool) := by
  refine ⟨rfl, fun (hr : HRESULT) hcalm => ?_⟩
  have hne : hr ≠ S_OK := hcalm
  show decide (hr = S_OK) = false
  exact decide_eq_false hne

theorem settles_luaCheckAbort :
    Settles quiet (.ok ()) (Lua.checkAbort.attempt.inl : Dialogue PyAnswer _) := by
  rw [Lua.checkAbort, inl_attempt_lift_bind]
  exact settles_utilCheckAbort.bind rfl

theorem settles_rubyCheckAbort :
    Settles quiet (.ok ()) (Ruby.checkAbort.attempt.inl : Dialogue PyAnswer _) := by
  rw [Ruby.checkAbort, inl_attempt_lift_bind]
  exact settles_utilCheckAbort.bind rfl

theorem settles_pyCheckAbort : Settles quiet (some (), none) (Python.checkAbort.attempt none) := by
  rw [Python.checkAbort, attempt_ds_bind]
  exact settles_utilCheckAbort.bind rfl

theorem settles_newObject (o : Python.PyObj) :
    Settles quiet (some o, none) ((Python.newObject o).attempt none) := by
  rw [Python.attempt_newObject]
  refine ⟨rfl, fun r hcalm => ?_⟩
  obtain rfl : r = .ok () := hcalm
  exact rfl

end DbgScript.ScriptApi
