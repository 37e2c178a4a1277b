import DbgScript.Lib.Runs
import DbgScript.Lua.WrittenFields

/-!
# Uninitialised memory behind a Lua script's objects

A run of a script is compared with the same run on other blocks of memory.

* `alike_perform`, `step_alike`: an operation that reads only what has been written to its
  object gives the same on both.
* `runs_alike`: so does a run of such operations.
* `createTypedObject_null_exposes_memory`: a run that exposes what was in a block.
-/

namespace DbgScript.Lua

open CharBuf (FixedStr)
open Dialogue (Rel)

/-! ## Scripts -/

/-- What a script sees of an operation. -/
inductive Seen where
  | value (v : LuaValue)
  | objects (n : ℕ)
  | error (err : LuaError)
  deriving DecidableEq

/-- The operations of a script that involve typed objects. An object is given by its
    position among those that the script has got so far. -/
inductive Op where
  | createTypedObject (typeName : AnsiStr) (addr : UINT64)
  | createTypedPointer (typeName : AnsiStr) (addr : UINT64)
  | getGlobal (symbol : AnsiStr)
  | getVariables (thd : DbgScriptThread) (frame : DbgScriptStackFrame) (flags : ULONG)
  | getfield (obj : ℕ) (key : Key)
  | index (obj : ℕ) (key : Key)
  | len (obj : ℕ)
  | getRuntimeObject (obj : ℕ)
  | readString (obj : ℕ) (count : Option (BitVec 64))
  | readWideString (obj : ℕ) (count : Option (BitVec 64))
  | readBytes (obj : ℕ) (count : BitVec 64)

/-- The script's objects after an operation, and what it has seen. -/
abbrev Store := List DbgScriptTypedObject × Seen

/-- An operation that makes new objects. -/
def creating (objs : List DbgScriptTypedObject) (f : LuaM (List DbgScriptTypedObject)) :
    DsM Store :=
  f.attempt >>= fun
    | .error err => .done (objs, .error err)
    | .ok new => .done (objs ++ new, .objects new.length)

/-- An operation on the object at position `i`. -/
def onObject (objs : List DbgScriptTypedObject) (i : ℕ) (f : DbgScriptTypedObject → DsM Outcome) :
    DsM Store :=
  match objs[i]? with
  | none => .done (objs, .error (.badArgument 1))
  | some typObj => f typObj >>= fun
    | (typObj, .error err) => .done (objs.set i typObj, .error err)
    | (typObj, .ok (.value v)) => .done (objs.set i typObj, .value v)
    | (typObj, .ok (.userdata new)) => .done (objs.set i typObj ++ [new], .objects 1)

/-- The operation, on the blocks of memory `mem` for new objects. -/
def Op.perform (mem : ℕ → DbgScriptTypedObject) (objs : List DbgScriptTypedObject) :
    Op → DsM Store
  | createTypedObject typeName addr =>
    creating objs do return [← dbgscriptCreateTypedObject (mem 0) typeName addr]
  | createTypedPointer typeName addr =>
    creating objs do return [← dbgscriptCreateTypedPointer (mem 0) typeName addr]
  | getGlobal symbol => creating objs do return [← dbgscriptGetGlobal (mem 0) symbol]
  | getVariables thd frame flags => creating objs (getVariablesHelper mem thd frame flags)
  | getfield i key => onObject objs i fun o => reading o (typedObjectGetfield (mem 0) o key)
  | index i key => onObject objs i fun o => typedObjectIndex (mem 0) o key
  | len i => onObject objs i fun o => reading o (typedObjectLen o)
  | getRuntimeObject i =>
    onObject objs i fun o => reading o (typedObjectGetRuntimeObject (mem 0) o)
  | readString i count => onObject objs i fun o => reading o (typedObjectReadString o count)
  | readWideString i count =>
    onObject objs i fun o => reading o (typedObjectReadWideString o count)
  | readBytes i count => onObject objs i fun o => reading o (typedObjectReadBytes o count)

/-- A script's objects, what it has seen, and the requests to the debugger. -/
structure ScriptState where
  objs : List DbgScriptTypedObject
  seen : List Seen
  requests : List Request

def ScriptState.initial : ScriptState := ⟨[], [], []⟩

/-- One operation. The `i`-th block that the `k`-th operation gets is `mem k i`. -/
def step (a : DebuggerAnswers) (mem : ℕ → ℕ → DbgScriptTypedObject) (st : ScriptState)
    (op : Op) : ScriptState :=
  let (r, requests) := (op.perform (mem st.seen.length) st.objs).run a st.requests.length
  ⟨r.1, st.seen ++ [r.2], st.requests ++ requests⟩

/-- What the operation reads of its object has been written. -/
def Op.Written (a : DebuggerAnswers) (st : ScriptState) : Op → Prop
  | getfield i _ | len i | readString i _ | readWideString i _ =>
    ∀ o, st.objs[i]? = some o → o.stored = .all
  | index i key => ∀ o, st.objs[i]? = some o → IndexReads a st.requests.length o key
  | getRuntimeObject i => ∀ o, st.objs[i]? = some o → RuntimeReads a st.requests.length o
  | readBytes i _ => ∀ o, st.objs[i]? = some o → o.stored ≠ .nothing
  | _ => True

/-- The operation reads only what has been written to its object. One that a Ctrl-C ends
    reads nothing. -/
def Op.ReadsWritten (a : DebuggerAnswers) (st : ScriptState) (op : Op) : Prop :=
  a st.requests.length .getInterrupt = S_OK ∨ op.Written a st

/-- The stores agree, and the script has seen the same. -/
def StoreAgree (r r' : Store) : Prop := List.Forall₂ Agree r.1 r'.1 ∧ r.2 = r'.2

section Scripts

variable {objs objs' : List DbgScriptTypedObject} {a : DebuggerAnswers} {n : ℕ}

theorem alike_creating (h : List.Forall₂ Agree objs objs')
    {f g : LuaM (List DbgScriptTypedObject)} (hfg : Same (List.Forall₂ Agree) f g) :
    Dialogue.Alike a n StoreAgree (creating objs f) (creating objs' g) := by
  refine (Rel.bind hfg ?_).alike n
  rintro _ _ (hnew | err)
  · exact .done ⟨List.rel_append h hnew, congrArg Seen.objects hnew.length_eq⟩
  · exact .done ⟨h, rfl⟩

theorem same_single {f g : LuaM DbgScriptTypedObject} (hfg : Same Agree f g) :
    Same (List.Forall₂ Agree) (do return [← f]) (do return [← g]) :=
  Throws.rel_bind hfg fun _ _ ho => .done (.ok (.cons ho .nil))

theorem agree_getElem? (h : List.Forall₂ Agree objs objs') (i : ℕ) :
    (objs[i]? = none ∧ objs'[i]? = none) ∨
      ∃ o o', objs[i]? = some o ∧ objs'[i]? = some o' ∧ Agree o o' := by
  induction h generalizing i with
  | nil => exact .inl ⟨rfl, rfl⟩
  | cons ho _ ih =>
    cases i with
    | zero => exact .inr ⟨_, _, rfl, rfl, ho⟩
    | succ i => exact ih i

theorem agree_set (h : List.Forall₂ Agree objs objs') (i : ℕ) {o o' : DbgScriptTypedObject}
    (ho : Agree o o') : List.Forall₂ Agree (objs.set i o) (objs'.set i o') := by
  induction h generalizing i with
  | nil => exact .nil
  | cons hp hrest ih =>
    cases i with
    | zero => exact .cons ho hrest
    | succ i => exact .cons hp (ih i)

theorem alike_onObject (h : List.Forall₂ Agree objs objs') (i : ℕ)
    {f g : DbgScriptTypedObject → DsM Outcome}
    (hfg : ∀ o o', objs[i]? = some o → Agree o o' → Dialogue.Alike a n OutcomeAgree (f o) (g o')) :
    Dialogue.Alike a n StoreAgree (onObject objs i f) (onObject objs' i g) := by
  rcases agree_getElem? h i with ⟨hnone, hnone'⟩ | ⟨o, o', hsome, hsome', ho⟩
  · rw [onObject, onObject, hnone, hnone']
    exact ⟨⟨h, rfl⟩, rfl⟩
  · rw [onObject, onObject, hsome, hsome']
    refine (hfg o o' hsome ho).bind ?_
    rintro ⟨p, r⟩ ⟨p', r'⟩ m ⟨hp, hr⟩
    have hset := agree_set h i hp
    rcases hr with hres | err
    · rcases hres with v | hnew
      · exact ⟨⟨hset, rfl⟩, rfl⟩
      · exact ⟨⟨List.rel_append hset (.cons hnew .nil), rfl⟩, rfl⟩
    · exact ⟨⟨hset, rfl⟩, rfl⟩

theorem alike_perform_written (h : List.Forall₂ Agree objs objs')
    (mem mem' : ℕ → DbgScriptTypedObject) {op : Op} {st : ScriptState} (hobjs : st.objs = objs)
    (hn : st.requests.length = n) (hreads : op.Written a st) :
    Dialogue.Alike a n StoreAgree (op.perform mem objs) (op.perform mem' objs') := by
  subst hobjs hn
  cases op with
  | createTypedObject typeName addr =>
    exact alike_creating h (same_single (same_createTypedObjectHelper _ _ typeName addr false))
  | createTypedPointer typeName addr =>
    exact alike_creating h (same_single (same_createTypedObjectHelper _ _ typeName addr true))
  | getGlobal symbol =>
    exact alike_creating h (same_single (same_dbgscriptGetGlobal _ _ symbol))
  | getVariables thd frame flags =>
    exact alike_creating h (same_getVariablesHelper mem mem' thd frame flags)
  | getfield i key =>
    exact alike_onObject h i fun o o' hi ho =>
      (rel_typedObjectGetfield _ _ ho (hreads o hi) key).alike _
  | index i key =>
    exact alike_onObject h i fun o o' hi ho => alike_typedObjectIndex _ _ ho fun _ => hreads o hi
  | len i =>
    exact alike_onObject h i fun o o' hi ho => (rel_typedObjectLen ho (hreads o hi)).alike _
  | getRuntimeObject i =>
    exact alike_onObject h i fun o o' hi ho => alike_getRuntimeObject _ _ ho (hreads o hi)
  | readString i count =>
    exact alike_onObject h i fun o o' hi ho =>
      (rel_typedObjectReadString ho (hreads o hi) count).alike _
  | readWideString i count =>
    exact alike_onObject h i fun o o' hi ho =>
      (rel_typedObjectReadWideString ho (hreads o hi) count).alike _
  | readBytes i count =>
    exact alike_onObject h i fun o o' hi ho =>
      (rel_typedObjectReadBytes ho (hreads o hi) count).alike _

/-- After the poll that sees the Ctrl-C there is only the error. -/
theorem alike_interrupted (hint : a n .getInterrupt = S_OK) {o o' : DbgScriptTypedObject}
    (ho : Agree o o') (f f' : LuaM LuaResult) :
    Dialogue.Alike a n OutcomeAgree (reading o (checkAbort >>= fun _ => f))
      (reading o' (checkAbort >>= fun _ => f')) := by
  have hagree : OutcomeAgree (o, .error (.error "execution interrupted." []))
      (o', .error (.error "execution interrupted." [])) := ⟨ho, .error _⟩
  simpa [Dialogue.Alike, reading, checkAbort, raise, hint] using hagree

theorem alike_perform (h : List.Forall₂ Agree objs objs') (mem mem' : ℕ → DbgScriptTypedObject)
    {op : Op} {st : ScriptState} (hobjs : st.objs = objs) (hn : st.requests.length = n)
    (hreads : op.ReadsWritten a st) :
    Dialogue.Alike a n StoreAgree (op.perform mem objs) (op.perform mem' objs') := by
  rcases hreads with hint | hwritten
  · rw [hn] at hint
    cases op with
    | getfield i key => exact alike_onObject h i fun o o' _ ho => alike_interrupted hint ho _ _
    | index i key =>
      exact alike_onObject h i fun o o' _ ho =>
        alike_typedObjectIndex _ _ ho fun hne => absurd hint hne
    | len i => exact alike_onObject h i fun o o' _ ho => alike_interrupted hint ho _ _
    | getRuntimeObject i => exact alike_onObject h i fun o o' _ ho => alike_interrupted hint ho _ _
    | readString i count => exact alike_onObject h i fun o o' _ ho => alike_interrupted hint ho _ _
    | readWideString i count =>
      exact alike_onObject h i fun o o' _ ho => alike_interrupted hint ho _ _
    | readBytes i count => exact alike_onObject h i fun o o' _ ho => alike_interrupted hint ho _ _
    | _ => exact alike_perform_written h mem mem' hobjs hn trivial
  · exact alike_perform_written h mem mem' hobjs hn hwritten

/-! ## The law -/

/-- The scripts have agreeing objects, and have seen and asked the same. -/
structure StateAgree (st st' : ScriptState) : Prop where
  objs : List.Forall₂ Agree st.objs st'.objs
  seen : st.seen = st'.seen
  requests : st.requests = st'.requests

theorem step_alike (mem mem' : ℕ → ℕ → DbgScriptTypedObject) {st st' : ScriptState} {op : Op}
    (h : StateAgree st st') (hreads : op.ReadsWritten a st) :
    StateAgree (step a mem st op) (step a mem' st' op) := by
  obtain ⟨⟨hobjs, hseen⟩, hrequests⟩ :=
    alike_perform h.objs (mem st.seen.length) (mem' st.seen.length) rfl rfl hreads
  refine ⟨?_, ?_, ?_⟩ <;> simp only [step, ← h.seen, ← h.requests]
  · exact hobjs
  · rw [hseen]
  · rw [hrequests]

/-- Two runs of a script on different memory give the same results, errors and requests if
    every operation only reads what has been written to its object. -/
theorem runs_alike (mem mem' : ℕ → ℕ → DbgScriptTypedObject) {ops : List Op}
    (h : Runs.Along (step a mem) (Op.ReadsWritten a) .initial ops) :
    (Runs.run (step a mem) .initial ops).seen = (Runs.run (step a mem') .initial ops).seen ∧
      (Runs.run (step a mem) .initial ops).requests =
        (Runs.run (step a mem') .initial ops).requests := by
  have hstep : ∀ st st' op, StateAgree st st' → Op.ReadsWritten a st op →
      StateAgree (step a mem st op) (step a mem' st' op) :=
    fun _ _ _ hst hreads => step_alike mem mem' hst hreads
  have hsim := Runs.run_sim hstep ⟨.nil, rfl, rfl⟩ h
  exact ⟨hsim.seen, hsim.requests⟩

end Scripts

/-- A debugger that knows a type of every name. -/
def knowingDebugger : DebuggerAnswers
  | _, .getInterrupt => S_FALSE
  | _, .getCachedSymbolType _ => some ⟨1, 0x1000⟩
  | _, .getCachedTypeName _ => some (default : FixedStr CHAR MAX_SYMBOL_NAME_LEN)
  | _, .getCachedModuleName _ => some (default : FixedStr CHAR MAX_MODULE_NAME_LEN)
  | _, r => (default : r.Answer)

/-- Zeroed memory, and memory in which one byte is set. -/
def zeroMemory : ℕ → ℕ → DbgScriptTypedObject := fun _ _ => .zero
def oneByteSet : ℕ → ℕ → DbgScriptTypedObject :=
  fun _ _ => { DbgScriptTypedObject.zero with typedDataValid := true }

/-- The size of an object at address 0 does not depend on the memory. -/
theorem runs_alike_size :
    let ops : List Op := [.createTypedObject (ansiStr "T") 0, .index 0 (.string (ansi "size"))]
    let st := Runs.run (step knowingDebugger zeroMemory) .initial ops
    let st' := Runs.run (step knowingDebugger oneByteSet) .initial ops
    st.seen = st'.seen ∧ st.requests = st'.requests := by
  refine runs_alike zeroMemory oneByteSet ⟨.inr trivial, .inr ?_, trivial⟩
  intro o ho
  have hheader : o.stored = .header := by
    cases ho
    rfl
  rw [IndexReads, if_neg (by decide), if_pos (by decide), hheader]
  decide

/-- Indexing an object at address 0 gives an error that depends on a byte that nobody has
    written. -/
theorem createTypedObject_null_exposes_memory :
    let ops : List Op := [.createTypedObject (ansiStr "T") 0, .index 0 (.integer 0)]
    (Runs.run (step knowingDebugger zeroMemory) .initial ops).seen ≠
      (Runs.run (step knowingDebugger oneByteSet) .initial ops).seen := by
  decide

end DbgScript.Lua
