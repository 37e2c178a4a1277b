import DbgScript.Support.OutputCapture

/-!
# Where a client's output goes after a command

`CAutoSetOutputCallback` (src/support/util.cpp:841-903) takes the client's output callbacks
for the time of a command. Its destructor puts back `m_Prev` on every exit from the scope,
also where `Install` has failed before `m_Prev` was read and is still null.

* `executeCommand_undisturbed_iff`: the client has its callbacks back, and a failed command
  has not touched the buffer, iff null is not put back in place of callbacks that could not
  be read.

`Execute` is taken to report output to the callbacks that are set, and not to call back into
the host in any other way: the engine runs no extension command here.
-/

namespace DbgScript

/-! ## Specification -/

/-- What the caller of `UtilExecuteCommand` relies on: `h` is the host at entry, `r` what
    the call leaves and returns. -/
structure Undisturbed (h : Host) (r : Host × HRESULT) : Prop where
  routing : r.1.routing = h.routing
  failed : FAILED r.2 = true → r.1.ctx.toOutputBuffer = h.ctx.toOutputBuffer

/-- Setting null has the right effect for a client with these callbacks: it does nothing
    where they could not be read, unless there are none, and succeeds where there were none
    before the host's own. -/
structure ExecEnv.NullFits (e : ExecEnv) (callbacks : Option OutputCb) : Prop where
  unread : FAILED e.getCallbacks = true → callbacks ≠ none → FAILED e.restoreCallbacks = true
  unset : e.Installs → callbacks = none → FAILED e.restoreCallbacks = false

/-! ## The guard -/

theorem routing_setOutputCallbacks {h : Host} {routing : ClientId → Option OutputCb}
    (hrouting : h.routing = routing) (client : ClientId)
    (hclient : h.ctx.debugClient = some client) (hr : HRESULT) (cb : Option OutputCb) :
    (setOutputCallbacks hr cb h).routing =
      if FAILED hr then routing else Function.update routing client cb := by
  have hemit : (h.emit (.setOutputCallbacks h.ctx.debugClient cb)).ctx.debugClient = some client :=
    hclient
  rw [setOutputCallbacks, hemit, ← hrouting]
  dsimp only
  split_ifs <;> rfl

theorem routing_bufferOutput (h : Host) (text : List CHAR) :
    (utilBufferOutput h text).routing = h.routing := by
  unfold utilBufferOutput utilFlushMessageBuffer
  split_ifs <;> rfl

/-- While the engine makes its `Output` calls, only the captured text changes. -/
theorem deliver_frame (callbacks : List (ULONG × AnsiStr)) (h : Host) :
    (deliver callbacks h).ctx = h.ctx ∧ (deliver callbacks h).routing = h.routing := by
  obtain ⟨b, hb, -⟩ := deliver_eq callbacks h
  rw [hb]
  exact ⟨rfl, rfl⟩

variable {e : ExecEnv} (command : AnsiStr) {h : Host} {client : ClientId}

/-- The callbacks could not be read: null is put back. -/
theorem executeCommand_of_unread (hbuf : 0 < h.ctx.isBuffering)
    (hget : FAILED e.getCallbacks = true) (hclient : h.ctx.debugClient = some client) :
    let r := utilExecuteCommand e command h
    r.1.ctx = h.ctx ∧ r.1.routing = if FAILED e.restoreCallbacks then h.routing
      else Function.update h.routing client none := by
  have hinstall : installCallbacks e h =
      (h.emit (.getOutputCallbacks h.ctx.debugClient), none, e.getCallbacks) := by
    rw [installCallbacks, if_pos hget]
  simp only [utilExecuteCommand, execBegin, if_pos hbuf, hinstall, if_pos hget]
  exact ⟨(setOutputCallbacks_frame _ _ _).1,
    routing_setOutputCallbacks rfl client (by exact hclient) _ _⟩

/-- The callbacks of the client are `m_Prev` once they have been read. -/
theorem installCallbacks_of_read (hget : FAILED e.getCallbacks = false)
    (hclient : h.ctx.debugClient = some client) :
    (installCallbacks e h).2 = (h.routing client, e.setCallbacks) ∧
      (installCallbacks e h).1.routing = if FAILED e.setCallbacks then h.routing
        else Function.update h.routing client (some .dbgScript) := by
  rw [installCallbacks, if_neg (by simp [hget])]
  refine ⟨?_, routing_setOutputCallbacks rfl client (by exact hclient) _ _⟩
  show (h.ctx.debugClient.bind h.routing, e.setCallbacks) = _
  rw [hclient, Option.bind_some]

/-- The host's own callbacks could not be set: the client's are put back. -/
theorem executeCommand_of_unset (hbuf : 0 < h.ctx.isBuffering)
    (hget : FAILED e.getCallbacks = false) (hset : FAILED e.setCallbacks = true)
    (hclient : h.ctx.debugClient = some client) :
    let r := utilExecuteCommand e command h
    r.1.ctx = h.ctx ∧ r.1.routing = h.routing := by
  have hctx := (installCallbacks_frame e h).1
  obtain ⟨hprev, hrouting⟩ := installCallbacks_of_read hget hclient
  rw [if_pos hset] at hrouting
  simp only [utilExecuteCommand, execBegin, if_pos hbuf, hprev, if_pos hset]
  refine ⟨(setOutputCallbacks_frame _ _ _).1.trans hctx,
    (routing_setOutputCallbacks (by exact hrouting) client ?_ _ _).trans ?_⟩
  · rw [← hclient, ← hctx]
    rfl
  · rw [Function.update_eq_self, ite_self]

/-- The command is executed. -/
theorem executeCommand_of_installs (hbuf : 0 < h.ctx.isBuffering) (hins : e.Installs)
    (hclient : h.ctx.debugClient = some client) :
    let r := utilExecuteCommand e command h
    r.2 = e.execute ∧ (FAILED e.execute = true → r.1.ctx = h.ctx) ∧
      r.1.routing = if FAILED e.restoreCallbacks then
        Function.update h.routing client (some .dbgScript) else h.routing := by
  have hctx := (installCallbacks_frame e h).1
  obtain ⟨hprev, hrouting⟩ := installCallbacks_of_read hins.1 hclient
  have hset : ¬ FAILED e.setCallbacks = true := by simp [hins.2]
  rw [if_neg hset] at hrouting
  simp only [utilExecuteCommand, execBegin, if_pos hbuf, hprev, if_neg hset]
  generalize hg : deliver e.callbacks
    ((installCallbacks e h).1.emit (.execute (installCallbacks e h).1.ctx.debugControl
      command.chars)) = g
  have hgctx : g.ctx = h.ctx := by
    rw [← hg, (deliver_frame _ _).1]
    exact hctx
  have hgrouting : g.routing = Function.update h.routing client (some .dbgScript) := by
    rw [← hg, (deliver_frame _ _).2]
    exact hrouting
  have hgclient : g.ctx.debugClient = some client := by rw [hgctx, hclient]
  have hback : (if FAILED e.restoreCallbacks then
      Function.update h.routing client (some .dbgScript)
        else Function.update (Function.update h.routing client (some .dbgScript)) client
          (h.routing client)) =
      if FAILED e.restoreCallbacks then Function.update h.routing client (some .dbgScript)
        else h.routing := by
    rw [Function.update_idem, Function.update_eq_self]
  rw [execEnd]
  by_cases hex : FAILED e.execute = true
  · simp only [if_pos hex, true_and]
    exact ⟨fun _ => (setOutputCallbacks_frame _ _ _).1.trans hgctx, (routing_setOutputCallbacks
      (by exact hgrouting) client (by exact hgclient) _ _).trans hback⟩
  · simp only [if_neg hex, true_and]
    refine ⟨fun hf => absurd hf hex, ?_⟩
    rw [routing_bufferOutput, routing_setOutputCallbacks hgrouting client hgclient]
    exact hback

/-! ## The routing -/

theorem ExecEnv.nullFits_of_unread {callbacks : Option OutputCb}
    (hget : FAILED e.getCallbacks = true) :
    e.NullFits callbacks ↔ (callbacks ≠ none → FAILED e.restoreCallbacks = true) := by
  constructor
  · intro h
    exact h.unread hget
  · intro h
    refine ⟨fun _ => h, fun hins => ?_⟩
    simp [hins.1] at hget

theorem ExecEnv.nullFits_of_installs {callbacks : Option OutputCb} (hins : e.Installs) :
    e.NullFits callbacks ↔ (callbacks = none → FAILED e.restoreCallbacks = false) := by
  constructor
  · intro h
    exact h.unset hins
  · intro h
    refine ⟨fun hf => ?_, fun _ => h⟩
    simp [hins.1] at hf

theorem ExecEnv.nullFits_of_unset {callbacks : Option OutputCb}
    (hget : FAILED e.getCallbacks = false) (hset : FAILED e.setCallbacks = true) :
    e.NullFits callbacks := by
  refine ⟨fun hf => ?_, fun hins => ?_⟩
  · simp [hget] at hf
  · simp [hins.2] at hset

/-- While buffering, a command leaves the client's callbacks as they were, and a failed one
    the buffer, iff setting null has the right effect. Callbacks that have been read can be
    set again. -/
theorem executeCommand_undisturbed_iff (e : ExecEnv) (command : AnsiStr) (h : Host)
    (client : ClientId) (hbuf : 0 < h.ctx.isBuffering) (hclient : h.ctx.debugClient = some client)
    (hrestore : FAILED e.getCallbacks = false → h.routing client ≠ none →
      FAILED e.restoreCallbacks = false) :
    Undisturbed h (utilExecuteCommand e command h) ↔ e.NullFits (h.routing client) := by
  by_cases hget : FAILED e.getCallbacks = true
  · obtain ⟨hctx, hrouting⟩ := executeCommand_of_unread command hbuf hget hclient
    rw [ExecEnv.nullFits_of_unread hget]
    constructor
    · intro hund hne
      by_contra hok
      have hsame := hund.routing
      rw [hrouting, if_neg hok, Function.update_eq_self_iff] at hsame
      exact hne hsame.symm
    · intro hunread
      refine ⟨?_, fun _ => by rw [hctx]⟩
      rw [hrouting]
      split_ifs with hok
      · rfl
      · rw [Function.update_eq_self_iff]
        by_contra hne
        exact hok (hunread fun hnone => hne hnone.symm)
  have hget' : FAILED e.getCallbacks = false := by simpa using hget
  by_cases hset : FAILED e.setCallbacks = true
  · obtain ⟨hctx, hrouting⟩ := executeCommand_of_unset command hbuf hget' hset hclient
    exact iff_of_true ⟨hrouting, fun _ => by rw [hctx]⟩ (ExecEnv.nullFits_of_unset hget' hset)
  have hins : e.Installs := ⟨hget', by simpa using hset⟩
  obtain ⟨hcode, hctx, hrouting⟩ :=
    executeCommand_of_installs command hbuf hins hclient
  rw [ExecEnv.nullFits_of_installs hins]
  constructor
  · intro hund hnone
    by_contra hf
    have hsame := hund.routing
    rw [hrouting, if_pos (by simpa using hf), Function.update_eq_self_iff, hnone] at hsame
    exact Option.some_ne_none _ hsame
  · intro hunset
    have hok : FAILED e.restoreCallbacks = false := by
      by_cases hnone : h.routing client = none
      · exact hunset hnone
      · exact hrestore hget' hnone
    refine ⟨by rw [hrouting, if_neg (by simp [hok])], fun hf => ?_⟩
    rw [hctx (hcode ▸ hf)]

/-- A script of client 0 has started buffering; the client's output goes to `callbacks`. -/
def bufferingHost (callbacks : Option OutputCb) : Host :=
  let h := bufferStep (Host.fresh fun _ => callbacks) .start
  { h with ctx := { h.ctx with debugClient := some 0 } }

/-- A command that fails, with callbacks that can be read, set and set again. -/
theorem failing_command_undisturbed :
    Undisturbed (bufferingHost (some (.other 1)))
      (utilExecuteCommand { printsOnce with execute := E_FAIL } ⟨[107], by decide⟩
        (bufferingHost (some (.other 1)))) :=
  (executeCommand_undisturbed_iff { printsOnce with execute := E_FAIL } ⟨[107], by decide⟩
    (bufferingHost (some (.other 1))) 0 (by decide) rfl fun _ _ => rfl).2
    ⟨fun hf => absurd hf (by decide), fun _ h => absurd h (by decide)⟩

/-- The callbacks of the client cannot be read. -/
def unreadable : ExecEnv := { printsOnce with getCallbacks := E_FAIL }

/-- Afterwards the client has none. -/
theorem unread_callbacks_lost :
    let r := utilExecuteCommand unreadable ⟨[107], by decide⟩ (bufferingHost (some (.other 1)))
    FAILED unreadable.restoreCallbacks = false ∧ r.1.routing 0 = none ∧
      ¬ Undisturbed (bufferingHost (some (.other 1))) r := by
  have hget : FAILED unreadable.getCallbacks = true := failed_E_FAIL
  have hset : FAILED unreadable.restoreCallbacks = false := failed_S_OK
  obtain ⟨-, hrouting⟩ := executeCommand_of_unread (h := bufferingHost (some (.other 1)))
    ⟨[107], by decide⟩ (by decide) hget rfl
  rw [if_neg (by simp [hset])] at hrouting
  refine ⟨hset, by rw [hrouting, Function.update_self], fun h => ?_⟩
  have hsame := h.routing
  rw [hrouting] at hsame
  rw [Function.update_eq_self_iff] at hsame
  have hset : (bufferingHost (some (.other 1))).routing 0 = some (.other 1) := rfl
  rw [hset] at hsame
  contradiction

end DbgScript
