import DbgScript.Common
import DbgScript.Lib.Guards
import DbgScript.Lib.Runs

/-!
# The debugger's current thread and scope frame

`CAutoSwitchThread` and `CAutoSwitchStackFrame` (src/support/util.cpp:641-826) switch
the engine to a thread and to one of its frames, and the four operations that use them:
`DsGetCurrentStackFrame`, `DsGetStackTrace` (src/support/dsstackframe.cpp:32-135),
`DsThreadGetTeb` (src/support/dsthread.cpp:32-66) and `UtilCountStackFrameVariables`
(src/support/util.cpp:994-1048).

* `scopeStep_restores_iff`: an operation leaves the current thread and the scope frame
  as they were iff it does not switch away from a thread whose scope frame is not the
  outermost one, and its frame guard does not switch away from frame `-1`.
* `scopeOps_keep`: a sequence of such operations keeps them.

Making another thread current resets its scope frame to `0`, and the thread guard
saves the thread only. The frame guard takes the index `-1` for "nothing saved".
-/

namespace DbgScript

open Guards (Guard)
open Runs (run Along)

/-! ## The engine -/

/-- Calls on the engine, `Output` included. -/
inductive ScopeCall where
  | getCurrentThreadId
  | setCurrentThreadId (id : ULONG)
  | getCurrentScopeFrameIndex
  | setScopeFrameByIndex (index : ULONG)
  | getScope
  | getStackTrace (frames : ULONG)
  | getCurrentThreadTeb
  | getScopeSymbolGroup2 (flags : ULONG)
  | getNumberSymbols
  | output (format : String) (hr : HRESULT)
  deriving DecidableEq

/-- The current thread, the index of the scope frame in it, and the calls made. -/
structure Debugger where
  thread : ULONG
  frame : ULONG
  calls : List ScopeCall
  deriving DecidableEq

/-- What a script can see of the switches. -/
def Debugger.scope (d : Debugger) : ULONG × ULONG := (d.thread, d.frame)

def Debugger.call (d : Debugger) (c : ScopeCall) : Debugger := { d with calls := d.calls ++ [c] }

/-- `DebugControl->Output(DEBUG_OUTPUT_ERROR, format, hr)`. -/
def Debugger.error (d : Debugger) (format : String) (hr : HRESULT) : Debugger :=
  d.call (.output format hr)

/-- `SetCurrentThreadId(id)`, which answers `hr`: another thread's scope is its
    outermost frame. -/
def Debugger.setThread (hr : HRESULT) (id : ULONG) (d : Debugger) : Debugger :=
  let d := d.call (.setCurrentThreadId id)
  if FAILED hr ∨ d.thread = id then d else { d with thread := id, frame := 0 }

/-- `SetScopeFrameByIndex(index)`, which answers `hr`. -/
def Debugger.setFrame (hr : HRESULT) (index : ULONG) (d : Debugger) : Debugger :=
  let d := d.call (.setScopeFrameByIndex index)
  if FAILED hr then d else { d with frame := index }

@[simp] theorem Debugger.scope_call (d : Debugger) (c : ScopeCall) :
    (d.call c).scope = d.scope := rfl

@[simp] theorem Debugger.scope_error (d : Debugger) (format : String) (hr : HRESULT) :
    (d.error format hr).scope = d.scope := rfl

@[simp] theorem Debugger.thread_call (d : Debugger) (c : ScopeCall) :
    (d.call c).thread = d.thread := rfl

@[simp] theorem Debugger.frame_call (d : Debugger) (c : ScopeCall) :
    (d.call c).frame = d.frame := rfl

theorem Debugger.scope_setThread (hr : HRESULT) (id : ULONG) (d : Debugger) :
    (d.setThread hr id).scope =
      if FAILED hr ∨ d.thread = id then d.scope else (id, 0) := by
  by_cases h : FAILED hr ∨ d.thread = id
  · simp [Debugger.setThread, h]
  · simp [Debugger.setThread, h, Debugger.scope]

theorem Debugger.scope_setFrame (hr : HRESULT) (index : ULONG) (d : Debugger) :
    (d.setFrame hr index).scope = if FAILED hr then d.scope else (d.thread, index) := by
  by_cases h : FAILED hr
  · simp [Debugger.setFrame, h]
  · simp [Debugger.setFrame, h, Debugger.scope]

/-- `DbgScriptStackFrame` (include/dsstackframe.h:18-27), and what is read of a
    `DEBUG_STACK_FRAME`. -/
structure DbgScriptStackFrame where
  frameNumber : ULONG
  instructionOffset : UINT64
  deriving DecidableEq, Inhabited

/-- `DbgScriptThread` (include/dsthread.h:17-26). -/
structure DbgScriptThread where
  engineId : ULONG
  threadId : ULONG
  deriving DecidableEq

/-- What the engine answers during one operation: result codes, of the destructors'
    calls too, and the values of its successful queries. -/
structure ScopeEnv where
  getThread : HRESULT
  setThread : HRESULT
  restoreThread : HRESULT
  getFrame : HRESULT
  setFrame : HRESULT
  restoreFrame : HRESULT
  getScope : HRESULT
  instructionOffset : UINT64
  getStackTrace : HRESULT
  frames : List DbgScriptStackFrame
  getTeb : HRESULT
  teb : UINT64
  getSymbolGroup : HRESULT
  symbolGroup : ℕ
  getNumberSymbols : HRESULT
  numberSymbols : ULONG

/-- Making a thread or a frame current again that was current before succeeds. -/
structure ScopeEnv.Restores (e : ScopeEnv) : Prop where
  thread : FAILED e.restoreThread = false
  frame : FAILED e.restoreFrame = false

/-! ## The guards -/

/-- `CAutoSwitchThread` (src/support/util.cpp:651-735). -/
structure CAutoSwitchThread where
  prevThreadId : ULONG
  didSwitch : Bool

/-- `CAutoSwitchThread::Switch` on a new guard. -/
def CAutoSwitchThread.switch (e : ScopeEnv) (targetThreadId : ULONG) (d : Debugger) :
    Debugger × CAutoSwitchThread × HRESULT :=
  let d := d.call .getCurrentThreadId
  if FAILED e.getThread then (d, ⟨-1, false⟩, e.getThread)
  else
    let prev := d.thread
    if prev ≠ targetThreadId then
      let d := d.setThread e.setThread targetThreadId
      if FAILED e.setThread then (d, ⟨prev, false⟩, e.setThread)
      else (d, ⟨prev, true⟩, e.setThread)
    else (d, ⟨prev, false⟩, e.getThread)

/-- The destructor. -/
def CAutoSwitchThread.destroy (e : ScopeEnv) (g : CAutoSwitchThread) (d : Debugger) : Debugger :=
  if g.didSwitch then d.setThread e.restoreThread g.prevThreadId else d

def threadGuard (e : ScopeEnv) (thd : DbgScriptThread) :
    Guard Debugger CAutoSwitchThread HRESULT where
  enter := CAutoSwitchThread.switch e thd.engineId
  failed := FAILED
  leave := CAutoSwitchThread.destroy e

/-- `CAutoSwitchStackFrame` (src/support/util.cpp:736-826). -/
structure CAutoSwitchStackFrame where
  prevIdx : ULONG
  didSwitch : Bool

/-- `CAutoSwitchStackFrame::Switch` on a new guard. -/
def CAutoSwitchStackFrame.switch (e : ScopeEnv) (targetIdx : ULONG) (d : Debugger) :
    Debugger × CAutoSwitchStackFrame × HRESULT :=
  let d := d.call .getCurrentScopeFrameIndex
  if FAILED e.getFrame then
    (d.error "Error: Failed to get symbol scope. Error 0x%08x.\n" e.getFrame, ⟨-1, false⟩,
      e.getFrame)
  else
    let prev := d.frame
    if prev ≠ targetIdx then
      let d := d.setFrame e.setFrame targetIdx
      if FAILED e.setFrame then
        (d.error "Error: Failed to set symbol scope. Error 0x%08x.\n" e.setFrame, ⟨prev, false⟩,
          e.setFrame)
      else (d, ⟨prev, true⟩, e.setFrame)
    else (d, ⟨prev, false⟩, e.getFrame)

/-- The destructor. -/
def CAutoSwitchStackFrame.destroy (e : ScopeEnv) (g : CAutoSwitchStackFrame) (d : Debugger) :
    Debugger :=
  if g.didSwitch ∧ g.prevIdx ≠ -1 then
    let d := d.setFrame e.restoreFrame g.prevIdx
    if FAILED e.restoreFrame then
      d.error "Error: Failed to set symbol scope. Error 0x%08x.\n" e.restoreFrame
    else d
  else d

def frameGuard (e : ScopeEnv) (targetIdx : ULONG) :
    Guard Debugger CAutoSwitchStackFrame HRESULT where
  enter := CAutoSwitchStackFrame.switch e targetIdx
  failed := FAILED
  leave := CAutoSwitchStackFrame.destroy e

/-! ## The operations -/

/-- `DsGetCurrentStackFrame(hostCtxt, thread, stackFrame)`. -/
def dsGetCurrentStackFrame (e : ScopeEnv) (thread : DbgScriptThread)
    (stackFrame : DbgScriptStackFrame) : Debugger → Debugger × HRESULT × DbgScriptStackFrame :=
  (threadGuard e thread).scope (fun hr => (hr, stackFrame)) fun d =>
    let curFrameIdx := d.frame
    let d := d.call .getCurrentScopeFrameIndex
    if FAILED e.getFrame then
      (d.error "Error: Failed to get current frame index. Error 0x%08x.\n" e.getFrame,
        e.getFrame, stackFrame)
    else
      let d := d.call .getScope
      if FAILED e.getScope then
        (d.error "Error: Failed to get current scope. Error 0x%08x.\n" e.getScope,
          e.getScope, stackFrame)
      else (d, e.getScope, ⟨curFrameIdx, e.instructionOffset⟩)

/-- `DsGetStackTrace(hostCtxt, thread, frames, cFrames, framesFilled)`: `frames` is what
    the engine has filled. -/
def dsGetStackTrace (e : ScopeEnv) (thread : DbgScriptThread) (cFrames : ULONG) :
    Debugger → Debugger × HRESULT × List DbgScriptStackFrame :=
  (threadGuard e thread).scope (fun hr => (hr, [])) fun d =>
    let d := d.call (.getStackTrace cFrames)
    if FAILED e.getStackTrace then
      (d.error "Error: Failed to get stacktrace. Error 0x%08x.\n" e.getStackTrace,
        e.getStackTrace, [])
    else (d, e.getStackTrace, e.frames.take cFrames.toNat)

/-- `DsThreadGetTeb(hostCtxt, thread, tebAddr)`. -/
def dsThreadGetTeb (e : ScopeEnv) (thread : DbgScriptThread) (tebAddr : UINT64) :
    Debugger → Debugger × HRESULT × UINT64 :=
  (threadGuard e thread).scope (fun hr => (hr, tebAddr)) fun d =>
    let d := d.call .getCurrentThreadTeb
    if FAILED e.getTeb then
      (d.error "Error: Failed to get TEB. Error 0x%08x.\n" e.getTeb, e.getTeb, tebAddr)
    else (d, e.getTeb, e.teb)

/-- The two nested scopes of `UtilCountStackFrameVariables`: the symbol group it
    creates. -/
def scopeSymbolGroup (e : ScopeEnv) (thd : DbgScriptThread) (stackFrame : DbgScriptStackFrame)
    (flags : ULONG) : Debugger → Debugger × HRESULT × Option ℕ :=
  (threadGuard e thd).scope (fun hr => (hr, none)) <|
    (frameGuard e stackFrame.frameNumber).scope (fun hr => (hr, none)) fun d =>
      let d := d.call (.getScopeSymbolGroup2 flags)
      if FAILED e.getSymbolGroup then
        (d.error "Error: Failed to create symbol group. Error 0x%08x.\n" e.getSymbolGroup,
          e.getSymbolGroup, none)
      else (d, e.getSymbolGroup, some e.symbolGroup)

/-- `UtilCountStackFrameVariables(hostCtxt, thd, stackFrame, flags, numVars, symGrp)`. -/
def utilCountStackFrameVariables (e : ScopeEnv) (thd : DbgScriptThread)
    (stackFrame : DbgScriptStackFrame) (flags numVars : ULONG) (d : Debugger) :
    Debugger × HRESULT × ULONG × Option ℕ :=
  match scopeSymbolGroup e thd stackFrame flags d with
  | (d, hr, none) => (d, hr, numVars, none)
  | (d, _, some symGrp) =>
    let d := d.call .getNumberSymbols
    if FAILED e.getNumberSymbols then
      (d.error "Error: Failed to get number of symbols. Error 0x%08x.\n" e.getNumberSymbols,
        e.getNumberSymbols, numVars, some symGrp)
    else (d, e.getNumberSymbols, e.numberSymbols, some symGrp)

/-- One of the four operations, with the engine's answers during it. -/
inductive ScopeOp where
  | getCurrentStackFrame (e : ScopeEnv) (thread : DbgScriptThread)
      (stackFrame : DbgScriptStackFrame)
  | getStackTrace (e : ScopeEnv) (thread : DbgScriptThread) (cFrames : ULONG)
  | threadGetTeb (e : ScopeEnv) (thread : DbgScriptThread) (tebAddr : UINT64)
  | countVariables (e : ScopeEnv) (thread : DbgScriptThread) (stackFrame : DbgScriptStackFrame)
      (flags numVars : ULONG)

/-- The debugger after the operation. -/
def scopeStep (d : Debugger) : ScopeOp → Debugger
  | .getCurrentStackFrame e thread stackFrame => (dsGetCurrentStackFrame e thread stackFrame d).1
  | .getStackTrace e thread cFrames => (dsGetStackTrace e thread cFrames d).1
  | .threadGetTeb e thread tebAddr => (dsThreadGetTeb e thread tebAddr d).1
  | .countVariables e thread stackFrame flags numVars =>
    (utilCountStackFrameVariables e thread stackFrame flags numVars d).1

/-- The answers during the operation, and the thread it is about. -/
def ScopeOp.env : ScopeOp → ScopeEnv
  | .getCurrentStackFrame e _ _ | .getStackTrace e _ _ | .threadGetTeb e _ _
  | .countVariables e _ _ _ _ => e

def ScopeOp.target : ScopeOp → DbgScriptThread
  | .getCurrentStackFrame _ thread _ | .getStackTrace _ thread _ | .threadGetTeb _ thread _
  | .countVariables _ thread _ _ _ => thread

/-- The frame the operation switches to. -/
def ScopeOp.targetFrame? : ScopeOp → Option ULONG
  | .countVariables _ _ stackFrame _ _ => some stackFrame.frameNumber
  | _ => none

/-! ## When the scope is restored -/

/-- The thread guard makes another thread current. -/
def SwitchesThread (e : ScopeEnv) (thd : DbgScriptThread) (d : Debugger) : Prop :=
  FAILED e.getThread = false ∧ d.thread ≠ thd.engineId ∧ FAILED e.setThread = false

/-- The thread guard stays on the current thread and lets the scope go on. -/
def StaysOnThread (e : ScopeEnv) (thd : DbgScriptThread) (d : Debugger) : Prop :=
  FAILED e.getThread = false ∧ d.thread = thd.engineId

/-- The frame guard makes another frame the scope. -/
def SwitchesFrame (e : ScopeEnv) (targetIdx : ULONG) (d : Debugger) : Prop :=
  FAILED e.getFrame = false ∧ d.frame ≠ targetIdx ∧ FAILED e.setFrame = false

instance (e : ScopeEnv) (thd : DbgScriptThread) (d : Debugger) :
    Decidable (SwitchesThread e thd d) := inferInstanceAs (Decidable (_ ∧ _ ∧ _))

instance (e : ScopeEnv) (targetIdx : ULONG) (d : Debugger) :
    Decidable (SwitchesFrame e targetIdx d) := inferInstanceAs (Decidable (_ ∧ _ ∧ _))

/-- A switch to another thread starts at the outermost frame, and a switch to another
    frame of the current thread starts at a frame that is not numbered `-1`. -/
def ScopeOp.Restorable (op : ScopeOp) (d : Debugger) : Prop :=
  (SwitchesThread op.env op.target d → d.frame = 0) ∧
    ∀ idx, op.targetFrame? = some idx → StaysOnThread op.env op.target d →
      SwitchesFrame op.env idx d → d.frame ≠ -1

variable {e : ScopeEnv} {thd : DbgScriptThread} {d : Debugger}

/-! ## The thread guard -/

theorem threadGuard_respects (e : ScopeEnv) (thd : DbgScriptThread) :
    (threadGuard e thd).Respects Debugger.scope := by
  intro g s t h
  have hthread : s.thread = t.thread := congrArg Prod.fst h
  show (g.destroy e s).scope = (g.destroy e t).scope
  unfold CAutoSwitchThread.destroy
  split_ifs
  · rw [Debugger.scope_setThread, Debugger.scope_setThread, h, hthread]
  · exact h

theorem threadGuard_enter (h : SwitchesThread e thd d) :
    ((threadGuard e thd).enter d).1.scope = (thd.engineId, 0) ∧
      ((threadGuard e thd).enter d).2 = (⟨d.thread, true⟩, e.setThread) := by
  obtain ⟨hget, hne, hset⟩ := h
  show (CAutoSwitchThread.switch e thd.engineId d).1.scope = _ ∧
    (CAutoSwitchThread.switch e thd.engineId d).2 = _
  simp [CAutoSwitchThread.switch, hget, hne, hset, Debugger.scope_setThread]

/-- A guard that does not switch does nothing, and its scope is entered iff the target
    is the current thread. -/
theorem threadGuard_idle (h : ¬ SwitchesThread e thd d) :
    (threadGuard e thd).IdleAt Debugger.scope d ∧
      (FAILED ((threadGuard e thd).enter d).2.2 = false ↔ StaysOnThread e thd d) := by
  show ((CAutoSwitchThread.switch e thd.engineId d).1.scope = d.scope ∧
      ∀ t, ((CAutoSwitchThread.switch e thd.engineId d).2.1.destroy e t).scope = t.scope) ∧
    (FAILED (CAutoSwitchThread.switch e thd.engineId d).2.2 = false ↔ _)
  unfold StaysOnThread
  cases hget : FAILED e.getThread with
  | true => simp [CAutoSwitchThread.switch, CAutoSwitchThread.destroy, hget]
  | false =>
    by_cases heq : d.thread = thd.engineId
    · simp [CAutoSwitchThread.switch, CAutoSwitchThread.destroy, hget, heq]
    · have hset : FAILED e.setThread = true := by
        cases hs : FAILED e.setThread with
        | true => rfl
        | false => exact absurd ⟨hget, heq, hs⟩ h
      simp [CAutoSwitchThread.switch, CAutoSwitchThread.destroy, hget, heq, hset,
        Debugger.scope_setThread]

/-- Entering and leaving the thread guard makes the outermost frame of the first thread
    the scope, if it has switched. -/
theorem threadGuard_bounce (he : e.Restores) (h : SwitchesThread e thd d) :
    ((threadGuard e thd).bounce d).scope = (d.thread, 0) := by
  obtain ⟨hscope, hobj⟩ := threadGuard_enter h
  have hthread : ((threadGuard e thd).enter d).1.thread = thd.engineId := congrArg Prod.fst hscope
  show (((threadGuard e thd).enter d).2.1.destroy e ((threadGuard e thd).enter d).1).scope = _
  rw [hobj]
  show (Debugger.setThread e.restoreThread d.thread ((threadGuard e thd).enter d).1).scope = _
  rw [Debugger.scope_setThread, if_neg]
  rintro (hf | heq)
  · simp [he.thread] at hf
  · exact h.2.1 (heq.symm.trans hthread)

/-! ## The frame guard -/

theorem frameGuard_respects (e : ScopeEnv) (targetIdx : ULONG) :
    (frameGuard e targetIdx).Respects Debugger.scope := by
  intro g s t h
  have hthread : s.thread = t.thread := congrArg Prod.fst h
  show (g.destroy e s).scope = (g.destroy e t).scope
  unfold CAutoSwitchStackFrame.destroy
  dsimp only
  split_ifs
  · rw [Debugger.scope_error, Debugger.scope_error, Debugger.scope_setFrame,
      Debugger.scope_setFrame, h, hthread]
  · rw [Debugger.scope_setFrame, Debugger.scope_setFrame, h, hthread]
  · exact h

theorem frameGuard_idle {idx : ULONG} (h : ¬ SwitchesFrame e idx d) :
    (frameGuard e idx).IdleAt Debugger.scope d := by
  show (CAutoSwitchStackFrame.switch e idx d).1.scope = d.scope ∧
    ∀ t, ((CAutoSwitchStackFrame.switch e idx d).2.1.destroy e t).scope = t.scope
  cases hget : FAILED e.getFrame with
  | true => simp [CAutoSwitchStackFrame.switch, CAutoSwitchStackFrame.destroy, hget]
  | false =>
    by_cases heq : d.frame = idx
    · simp [CAutoSwitchStackFrame.switch, CAutoSwitchStackFrame.destroy, hget, heq]
    · have hset : FAILED e.setFrame = true := by
        cases hs : FAILED e.setFrame with
        | true => rfl
        | false => exact absurd ⟨hget, heq, hs⟩ h
      simp [CAutoSwitchStackFrame.switch, CAutoSwitchStackFrame.destroy, hget, heq, hset,
        Debugger.scope_setFrame]

theorem frameGuard_enter {idx : ULONG} (h : SwitchesFrame e idx d) :
    ((frameGuard e idx).enter d).1.scope = (d.thread, idx) ∧
      ((frameGuard e idx).enter d).2 = (⟨d.frame, true⟩, e.setFrame) := by
  obtain ⟨hget, hne, hset⟩ := h
  show (CAutoSwitchStackFrame.switch e idx d).1.scope = _ ∧
    (CAutoSwitchStackFrame.switch e idx d).2 = _
  simp [CAutoSwitchStackFrame.switch, hget, hne, hset, Debugger.scope_setFrame]

theorem scope_destroyFrame (he : e.Restores) (prev : ULONG) (d : Debugger) :
    (CAutoSwitchStackFrame.destroy e ⟨prev, true⟩ d).scope =
      if prev = -1 then d.scope else (d.thread, prev) := by
  by_cases hp : prev = -1
  · rw [if_pos hp]
    simp [CAutoSwitchStackFrame.destroy, hp]
  · rw [if_neg hp]
    have hdestroy : CAutoSwitchStackFrame.destroy e ⟨prev, true⟩ d =
        d.setFrame e.restoreFrame prev := by
      simp only [CAutoSwitchStackFrame.destroy, hp, he.frame, ne_eq, not_false_eq_true, and_self,
        if_true, Bool.false_eq_true, if_false]
    rw [hdestroy, Debugger.scope_setFrame, he.frame, if_neg Bool.false_ne_true]

/-- A switch away from frame `-1` is not undone; every other one is. -/
theorem frameGuard_bounce {idx : ULONG} (he : e.Restores) (h : SwitchesFrame e idx d) :
    ((frameGuard e idx).bounce d).scope = if d.frame = -1 then (d.thread, idx) else d.scope := by
  obtain ⟨hscope, hobj⟩ := frameGuard_enter h
  have hthread : ((frameGuard e idx).enter d).1.thread = d.thread := congrArg Prod.fst hscope
  show (((frameGuard e idx).enter d).2.1.destroy e ((frameGuard e idx).enter d).1).scope = _
  rw [hobj, scope_destroyFrame he, hscope, hthread]
  rfl

/-! ## The operations -/

/-- A scope of the thread guard whose body leaves the engine's scope alone restores it
    iff it does not switch away from an inner frame. -/
theorem threadScope_restores_iff {ρ : Type} (he : e.Restores) (fail : HRESULT → ρ)
    {body : Debugger → Debugger × ρ} (hbody : ∀ d, (body d).1.scope = d.scope) :
    ((threadGuard e thd).scope fail body d).1.scope = d.scope ↔
      (SwitchesThread e thd d → d.frame = 0) := by
  rw [Guards.scope_view_iff fail body (threadGuard_respects e thd) hbody]
  by_cases h : SwitchesThread e thd d
  · rw [threadGuard_bounce he h]
    constructor
    · intro heq _
      exact (congrArg Prod.snd heq).symm
    · intro hz
      rw [Debugger.scope, hz h]
  · simp [h, Guards.bounce_of_idle (threadGuard_idle h).1]

theorem currentStackFrame_restores_iff (he : e.Restores) (stackFrame : DbgScriptStackFrame) :
    (dsGetCurrentStackFrame e thd stackFrame d).1.scope = d.scope ↔
      (SwitchesThread e thd d → d.frame = 0) := by
  apply threadScope_restores_iff he
  intro d
  dsimp only
  split_ifs <;> rfl

theorem stackTrace_restores_iff (he : e.Restores) (cFrames : ULONG) :
    (dsGetStackTrace e thd cFrames d).1.scope = d.scope ↔
      (SwitchesThread e thd d → d.frame = 0) := by
  apply threadScope_restores_iff he
  intro d
  dsimp only
  split_ifs <;> rfl

theorem teb_restores_iff (he : e.Restores) (tebAddr : UINT64) :
    (dsThreadGetTeb e thd tebAddr d).1.scope = d.scope ↔
      (SwitchesThread e thd d → d.frame = 0) := by
  apply threadScope_restores_iff he
  intro d
  dsimp only
  split_ifs <;> rfl

/-- A scope of the frame guard whose body leaves the engine's scope alone. -/
theorem frameScope_scope {ρ : Type} {idx : ULONG} (he : e.Restores) (fail : HRESULT → ρ)
    {body : Debugger → Debugger × ρ} (hbody : ∀ d, (body d).1.scope = d.scope) :
    ((frameGuard e idx).scope fail body d).1.scope =
      if SwitchesFrame e idx d ∧ d.frame = -1 then (d.thread, idx) else d.scope := by
  rw [Guards.scope_view fail body (frameGuard_respects e idx) fun _ => hbody _]
  by_cases h : SwitchesFrame e idx d
  · rw [frameGuard_bounce he h]
    simp [h]
  · rw [Guards.bounce_of_idle (frameGuard_idle h), if_neg fun hc => h hc.1]

/-- The frame scope restores the engine's scope unless it switches away from frame `-1`. -/
theorem frameScope_restores_iff {ρ : Type} (he : e.Restores) (idx : ULONG) (fail : HRESULT → ρ)
    {body : Debugger → Debugger × ρ} (hbody : ∀ d, (body d).1.scope = d.scope) :
    ((frameGuard e idx).scope fail body d).1.scope = d.scope ↔
      (SwitchesFrame e idx d → d.frame ≠ -1) := by
  rw [frameScope_scope he fail hbody]
  by_cases h : SwitchesFrame e idx d ∧ d.frame = -1
  · rw [if_pos h]
    constructor
    · intro heq
      exact absurd (congrArg Prod.snd heq).symm h.1.2.1
    · intro hne
      exact absurd h.2 (hne h.1)
  · rw [if_neg h]
    simpa using h

/-- Outside the two nested scopes nothing is switched. -/
theorem scope_countVariables (stackFrame : DbgScriptStackFrame) (flags numVars : ULONG) :
    (utilCountStackFrameVariables e thd stackFrame flags numVars d).1.scope =
      (scopeSymbolGroup e thd stackFrame flags d).1.scope := by
  unfold utilCountStackFrameVariables
  rcases hg : scopeSymbolGroup e thd stackFrame flags d with ⟨d', hr, _ | symGrp⟩
  · rfl
  · dsimp only
    split_ifs <;> rfl

theorem countVariables_restores_iff (he : e.Restores) (stackFrame : DbgScriptStackFrame)
    (flags numVars : ULONG) :
    (utilCountStackFrameVariables e thd stackFrame flags numVars d).1.scope = d.scope ↔
      (SwitchesThread e thd d → d.frame = 0) ∧ (StaysOnThread e thd d →
        SwitchesFrame e stackFrame.frameNumber d → d.frame ≠ -1) := by
  rw [scope_countVariables, scopeSymbolGroup]
  have hgroup : ∀ d : Debugger, (if FAILED e.getSymbolGroup then
      ((d.call (.getScopeSymbolGroup2 flags)).error
        "Error: Failed to create symbol group. Error 0x%08x.\n" e.getSymbolGroup,
        e.getSymbolGroup, none)
      else (d.call (.getScopeSymbolGroup2 flags), e.getSymbolGroup, some e.symbolGroup)).1.scope =
      d.scope := by
    intro d
    split_ifs <;> rfl
  have hinner := fun d => frameScope_restores_iff (d := d) he stackFrame.frameNumber
    (fun hr => (hr, none)) hgroup
  by_cases h : SwitchesThread e thd d
  · -- the inner scope starts at frame `0`, so it restores what the thread guard has set
    have hz : ((threadGuard e thd).enter d).1.frame = 0 := congrArg Prod.snd (threadGuard_enter h).1
    have hkeep := (hinner ((threadGuard e thd).enter d).1).mpr fun _ => by rw [hz]; decide
    rw [Guards.scope_view _ _ (threadGuard_respects e thd) fun _ => hkeep, threadGuard_bounce he h]
    have hstay : ¬ StaysOnThread e thd d := fun hs => h.2.1 hs.2
    constructor
    · intro heq
      exact ⟨fun _ => (congrArg Prod.snd heq).symm, fun hs => absurd hs hstay⟩
    · rintro ⟨hzero, -⟩
      rw [Debugger.scope, hzero h]
  · obtain ⟨hidle, hentered⟩ := threadGuard_idle h
    rw [Guards.scope_view_of_idle _ _ hidle]
    by_cases hs : StaysOnThread e thd d
    · have hsame : ((threadGuard e thd).enter d).1.frame = d.frame := congrArg Prod.snd hidle.1
      have hsw : SwitchesFrame e stackFrame.frameNumber ((threadGuard e thd).enter d).1 ↔
          SwitchesFrame e stackFrame.frameNumber d := by rw [SwitchesFrame, SwitchesFrame, hsame]
      rw [show (threadGuard e thd).failed ((threadGuard e thd).enter d).2.2 = false from
        hentered.mpr hs, if_neg Bool.false_ne_true, ← hidle.1, hinner, hsw, hsame]
      simp [h, hs]
    · have hfail : (threadGuard e thd).failed ((threadGuard e thd).enter d).2.2 = true := by
        cases hf : FAILED ((threadGuard e thd).enter d).2.2 with
        | true => exact hf
        | false => exact absurd (hentered.mp hf) hs
      rw [hfail, if_pos rfl]
      simp [h, hs]

theorem scopeStep_restores_iff {op : ScopeOp} (he : op.env.Restores) :
    (scopeStep d op).scope = d.scope ↔ op.Restorable d := by
  cases op with
  | getCurrentStackFrame e thread stackFrame =>
    rw [scopeStep, currentStackFrame_restores_iff (e := e) he]
    simp [ScopeOp.Restorable, ScopeOp.env, ScopeOp.target, ScopeOp.targetFrame?]
  | getStackTrace e thread cFrames =>
    rw [scopeStep, stackTrace_restores_iff (e := e) he]
    simp [ScopeOp.Restorable, ScopeOp.env, ScopeOp.target, ScopeOp.targetFrame?]
  | threadGetTeb e thread tebAddr =>
    rw [scopeStep, teb_restores_iff (e := e) he]
    simp [ScopeOp.Restorable, ScopeOp.env, ScopeOp.target, ScopeOp.targetFrame?]
  | countVariables e thread stackFrame flags numVars =>
    rw [scopeStep, countVariables_restores_iff (e := e) he]
    simp [ScopeOp.Restorable, ScopeOp.env, ScopeOp.target, ScopeOp.targetFrame?]

/-- A sequence of operations whose guards bring everything back keeps the scope. -/
theorem scopeOps_keep {ops : List ScopeOp}
    (hok : Along scopeStep (fun d op => op.env.Restores ∧ op.Restorable d) d ops) :
    (run scopeStep d ops).scope = d.scope := by
  refine Runs.run_inv (I := fun t => t.scope = d.scope) ?_ rfl hok
  intro t op ht h
  rw [(scopeStep_restores_iff h.1).mpr h.2, ht]

/-- Each of the four operations returns with the current thread and the scope frame
    index it was called with iff its guards bring back the scope they switch away from. -/
theorem debuggerContext_restored_iff (thread frame : ULONG) (calls : List ScopeCall) (op : ScopeOp)
    (he : op.env.Restores) :
    (scopeStep ⟨thread, frame, calls⟩ op).thread = thread ∧
        (scopeStep ⟨thread, frame, calls⟩ op).frame = frame ↔
      op.Restorable ⟨thread, frame, calls⟩ := by
  rw [← scopeStep_restores_iff he, Debugger.scope, Debugger.scope, Prod.mk.injEq]

/-- Every call succeeds. -/
def ScopeEnv.succeeding : ScopeEnv where
  getThread := S_OK
  setThread := S_OK
  restoreThread := S_OK
  getFrame := S_OK
  setFrame := S_OK
  restoreFrame := S_OK
  getScope := S_OK
  instructionOffset := 0x77a01000#64
  getStackTrace := S_OK
  frames := [⟨0, 0x77a01000#64⟩]
  getTeb := S_OK
  teb := 0x7ffde000#64
  getSymbolGroup := S_OK
  symbolGroup := 1
  getNumberSymbols := S_OK
  numberSymbols := 2

theorem debuggerContext_restored_outermost :
    ScopeEnv.succeeding.Restores ∧ ((scopeStep ⟨0, 0, []⟩
      (.countVariables .succeeding ⟨1, 0x1a4⟩ ⟨2, 0x77a01000#64⟩ 0 0)).thread = 0 ∧
      (scopeStep ⟨0, 0, []⟩
        (.countVariables .succeeding ⟨1, 0x1a4⟩ ⟨2, 0x77a01000#64⟩ 0 0)).frame = 0) :=
  ⟨⟨failed_S_OK, failed_S_OK⟩, (debuggerContext_restored_iff 0 0 []
    (.countVariables .succeeding ⟨1, 0x1a4⟩ ⟨2, 0x77a01000#64⟩ 0 0)
    ⟨failed_S_OK, failed_S_OK⟩).mpr
      ⟨fun _ => rfl, fun _ _ _ _ => show (0 : ULONG) ≠ -1 by decide⟩⟩

/-- With frame `3` of thread `0` in scope, asking thread `1` for its TEB leaves frame
    `0` of thread `0` in scope. -/
theorem teb_of_other_thread_moves_scope :
    ScopeEnv.succeeding.Restores ∧
      (scopeStep ⟨0, 3, []⟩ (.threadGetTeb .succeeding ⟨1, 0x1a4⟩ 0)).scope = (0, 0) ∧
      ¬ ((scopeStep ⟨0, 3, []⟩ (.threadGetTeb .succeeding ⟨1, 0x1a4⟩ 0)).thread = 0 ∧
        (scopeStep ⟨0, 3, []⟩ (.threadGetTeb .succeeding ⟨1, 0x1a4⟩ 0)).frame = 3) :=
  ⟨⟨failed_S_OK, failed_S_OK⟩, by decide, by decide⟩

end DbgScript
