import DbgScript.Host.HostArgs
import DbgScript.Support.OutputCapture

/-!
# What host functions leave alone

Most host functions only talk to the debugger: they print, buffer or execute a
command. `Quiet` says so once, and the parts of the host that the providers and the
interfaces are about follow from it (`SameProviders`, `SameIfaces`).

* `quiet_outputStep`: everything a script does to the output is quiet.
* `quiet_parseArgs`: so is argument parsing.
-/

namespace DbgScript

open Runs (run)

/-! ## Frames -/

/-- The call is made on the client or the control interface, whatever they are. -/
def HostCall.Through (i : DbgEngIfaces) : HostCall → Prop
  | .output control _ _ _ => control = i.debugControl
  | .getOutputCallbacks client => client = i.debugClient
  | .setOutputCallbacks client _ => client = i.debugClient
  | .execute control _ => control = i.debugControl
  | .com _ => False
  | .prov _ => False

/-- From `h` to `h'` the host has only used the client and the control interface. -/
structure Quiet (h h' : Host) : Prop where
  ifaces : h'.ctx.toDbgEngIfaces = h.ctx.toDbgEngIfaces
  scriptProviders : h'.ctx.scriptProviders = h.ctx.scriptProviders
  startVMEnabled : h'.ctx.startVMEnabled = h.ctx.startVMEnabled
  info : h'.info = h.info
  nextNode : h'.nextNode = h.nextNode
  nextSerial : h'.nextSerial = h.nextSerial
  log : ∃ new, h'.log = h.log ++ new ∧ ∀ c ∈ new, c.Through h.ctx.toDbgEngIfaces

/-- From `h` to `h'` nothing has happened to the script providers. -/
structure SameProviders (h h' : Host) : Prop where
  scriptProviders : h'.ctx.scriptProviders = h.ctx.scriptProviders
  startVMEnabled : h'.ctx.startVMEnabled = h.ctx.startVMEnabled
  info : h'.info = h.info
  nextNode : h'.nextNode = h.nextNode
  nextSerial : h'.nextSerial = h.nextSerial
  provCalls : h'.provCalls = h.provCalls

/-- From `h` to `h'` nothing has happened to the interfaces, and none of them has been
    used that was null. -/
structure SameIfaces (h h' : Host) : Prop where
  ifaces : h'.ctx.toDbgEngIfaces = h.ctx.toDbgEngIfaces
  comCalls : h'.comCalls = h.comCalls
  nullCalls : h.ctx.debugClient ≠ none → h.ctx.debugControl ≠ none → h'.nullCalls = h.nullCalls

variable {h h' h'' : Host}

theorem Quiet.refl (h : Host) : Quiet h h :=
  ⟨rfl, rfl, rfl, rfl, rfl, rfl, [], (List.append_nil _).symm, by simp⟩

theorem Quiet.trans (h1 : Quiet h h') (h2 : Quiet h' h'') : Quiet h h'' := by
  obtain ⟨new1, hl1, ht1⟩ := h1.log
  obtain ⟨new2, hl2, ht2⟩ := h2.log
  refine ⟨h2.ifaces.trans h1.ifaces, h2.scriptProviders.trans h1.scriptProviders,
    h2.startVMEnabled.trans h1.startVMEnabled, h2.info.trans h1.info,
    h2.nextNode.trans h1.nextNode, h2.nextSerial.trans h1.nextSerial, new1 ++ new2, ?_, ?_⟩
  · rw [hl2, hl1, List.append_assoc]
  · intro c hc
    rcases List.mem_append.mp hc with hc | hc
    · exact ht1 c hc
    · rw [← h1.ifaces]
      exact ht2 c hc

theorem SameProviders.refl (h : Host) : SameProviders h h := ⟨rfl, rfl, rfl, rfl, rfl, rfl⟩

theorem SameProviders.trans (h1 : SameProviders h h') (h2 : SameProviders h' h'') :
    SameProviders h h'' :=
  ⟨h2.scriptProviders.trans h1.scriptProviders, h2.startVMEnabled.trans h1.startVMEnabled,
    h2.info.trans h1.info, h2.nextNode.trans h1.nextNode, h2.nextSerial.trans h1.nextSerial,
    h2.provCalls.trans h1.provCalls⟩

theorem SameProviders.pool (hs : SameProviders h h') : h'.pool = h.pool := by
  rw [Host.pool, Host.pool, hs.info, hs.nextSerial, hs.provCalls]

theorem SameIfaces.refl (h : Host) : SameIfaces h h := ⟨rfl, rfl, fun _ _ => rfl⟩

theorem SameIfaces.trans (h1 : SameIfaces h h') (h2 : SameIfaces h' h'') : SameIfaces h h'' := by
  refine ⟨h2.ifaces.trans h1.ifaces, h2.comCalls.trans h1.comCalls, fun hc hd => ?_⟩
  rw [h2.nullCalls (by rwa [h1.ifaces]) (by rwa [h1.ifaces]), h1.nullCalls hc hd]

theorem filterMap_append_of_none {α β : Type*} {f : α → Option β} {l new : List α}
    (hnew : ∀ a ∈ new, f a = none) : (l ++ new).filterMap f = l.filterMap f := by
  rw [List.filterMap_append, List.filterMap_eq_nil_iff.mpr hnew, List.append_nil]

theorem Quiet.sameProviders (hq : Quiet h h') : SameProviders h h' := by
  obtain ⟨new, hl, ht⟩ := hq.log
  refine ⟨hq.scriptProviders, hq.startVMEnabled, hq.info, hq.nextNode, hq.nextSerial, ?_⟩
  rw [Host.provCalls, hl]
  refine filterMap_append_of_none fun c hc => ?_
  have := ht c hc
  cases c <;> first | rfl | exact this.elim

theorem Quiet.sameIfaces (hq : Quiet h h') : SameIfaces h h' := by
  obtain ⟨new, hl, ht⟩ := hq.log
  refine ⟨hq.ifaces, ?_, fun hc hd => ?_⟩
  · rw [Host.comCalls, hl]
    refine filterMap_append_of_none fun c hc => ?_
    have := ht c hc
    cases c <;> first | rfl | exact this.elim
  · have hnone : new.filter HostCall.viaNull = [] := by
      refine List.filter_eq_nil_iff.mpr fun c hmem => ?_
      have := ht c hmem
      cases c <;> simp_all [HostCall.Through, HostCall.viaNull]
    rw [Host.nullCalls, hl, List.filter_append, hnone, List.append_nil, Host.nullCalls]

/-! ## Quiet functions -/

theorem quiet_emit (h : Host) {c : HostCall} (hc : c.Through h.ctx.toDbgEngIfaces) :
    Quiet h (h.emit c) :=
  ⟨rfl, rfl, rfl, rfl, rfl, rfl, [c], rfl, by simpa using hc⟩

theorem quiet_output (h : Host) (mask : ULONG) (format : String) (args : List FmtArg) :
    Quiet h (h.output mask format args) :=
  quiet_emit h rfl

/-- Changing the buffer, the captured text or the routing of outputs is quiet. -/
theorem quiet_set (h : Host) (b : OutputBuffer) (path : List (List CHAR))
    (capture : CharBuf.Buf CHAR 4096) (routing : ClientId → Option OutputCb) :
    Quiet h { h with
      ctx := { h.ctx with toOutputBuffer := b, scriptPath := path }
      capture := capture
      routing := routing } :=
  ⟨rfl, rfl, rfl, rfl, rfl, rfl, [], (List.append_nil _).symm, by simp⟩

theorem quiet_flush (h : Host) : Quiet h (utilFlushMessageBuffer h) := by
  unfold utilFlushMessageBuffer
  split_ifs
  · set b := h.ctx.messageBuf.setCell h.ctx.bufPosition 0
    have h1 := quiet_set h { h.ctx.toOutputBuffer with messageBuf := b } h.ctx.scriptPath
      h.capture h.routing
    refine (h1.trans (quiet_output _ DEBUG_OUTPUT_NORMAL "%s" [.str b.str])).trans ?_
    exact quiet_set _ ⟨h.ctx.isBuffering, b, 0⟩ h.ctx.scriptPath h.capture h.routing
  · exact Quiet.refl h

theorem quiet_bufferOutput (h : Host) (text : List CHAR) : Quiet h (utilBufferOutput h text) := by
  unfold utilBufferOutput
  split_ifs
  · exact (quiet_flush h).trans (quiet_set _ _ _ _ _)
  · exact (quiet_flush h).trans (quiet_set _ _ _ _ _)
  · exact quiet_set _ _ _ _ _

theorem quiet_bufferStep (h : Host) (op : BufferOp) : Quiet h (bufferStep h op) := by
  have hset : ∀ d : ℤ, Quiet h { h with ctx := { h.ctx with isBuffering := d } } := fun d =>
    quiet_set h { h.ctx.toOutputBuffer with isBuffering := d } h.ctx.scriptPath h.capture h.routing
  cases op with
  | start => exact hset _
  | stop =>
    show Quiet h (stopBuffering h).1
    unfold stopBuffering
    dsimp only
    split_ifs
    · exact hset 0
    · exact (hset _).trans (quiet_flush _)
    · exact hset _
  | write mask text =>
    show Quiet h (outputCb mask text h)
    unfold outputCb
    split_ifs
    · exact quiet_bufferOutput h _
    · exact quiet_output h _ _ _
  | cleanup => exact (hset 0).trans (quiet_flush _)

theorem quiet_setOutputCallbacks (hr : HRESULT) (cb : Option OutputCb) (h : Host) :
    Quiet h (setOutputCallbacks hr cb h) := by
  have h1 : Quiet h (h.emit (.setOutputCallbacks h.ctx.debugClient cb)) := quiet_emit h rfl
  unfold setOutputCallbacks
  dsimp only
  split
  · split_ifs
    · exact h1
    · exact h1.trans (quiet_set _ _ _ _ _)
  · exact h1

theorem quiet_execBegin (e : ExecEnv) (command : AnsiStr) (h : Host) :
    Quiet h (execBegin e command h).1 := by
  have hinstall : Quiet h (installCallbacks e h).1 := by
    have h1 : Quiet h (h.emit (.getOutputCallbacks h.ctx.debugClient)) := quiet_emit h rfl
    unfold installCallbacks
    dsimp only
    split_ifs
    · exact h1
    · exact h1.trans (quiet_setOutputCallbacks _ _ _)
  unfold execBegin
  dsimp only
  split_ifs
  · exact (hinstall.trans (quiet_output _ _ _ _)).trans (quiet_setOutputCallbacks _ _ _)
  · exact hinstall.trans (quiet_emit _ rfl)
  · exact quiet_emit _ rfl

theorem quiet_captureOutput (mask : ULONG) (text : AnsiStr) (h : Host) :
    Quiet h (captureOutput mask text h) := by
  unfold captureOutput
  split_ifs
  · exact Quiet.refl h
  · exact quiet_set h h.ctx.toOutputBuffer h.ctx.scriptPath _ h.routing

theorem quiet_deliver (callbacks : List (ULONG × AnsiStr)) (h : Host) :
    Quiet h (deliver callbacks h) := by
  induction callbacks generalizing h with
  | nil => exact Quiet.refl h
  | cons c callbacks ih => exact (quiet_captureOutput c.1 c.2 h).trans (ih _)

theorem quiet_execEnd (e : ExecEnv) (command : AnsiStr) (scope : ExecScope) (h : Host) :
    Quiet h (execEnd e command scope h).1 := by
  cases scope with
  | buffered prev =>
    simp only [execEnd]
    split_ifs
    · exact (quiet_output _ _ _ _).trans (quiet_setOutputCallbacks _ _ _)
    · exact (quiet_setOutputCallbacks _ _ _).trans (quiet_bufferOutput _ _)
  | unbuffered =>
    simp only [execEnd]
    split_ifs
    · exact quiet_output _ _ _ _
    · exact Quiet.refl h

/-- Everything a script does to the output is quiet. -/
theorem quiet_outputStep (h : Host) (op : OutputOp) : Quiet h (outputStep h op) := by
  cases op with
  | buffer op => exact quiet_bufferStep h op
  | execute e command =>
    have h1 := quiet_execBegin e command h
    show Quiet h (utilExecuteCommand e command h).1
    unfold utilExecuteCommand
    split
    · next heq => rw [heq] at h1; exact h1
    · next heq =>
      rw [heq] at h1
      exact (h1.trans (quiet_deliver _ _)).trans (quiet_execEnd _ _ _ _)
    · next heq => rw [heq] at h1; exact h1.trans (quiet_execEnd _ _ _ _)

theorem quiet_outputRun (h : Host) (ops : List OutputOp) : Quiet h (run outputStep h ops) := by
  induction ops generalizing h with
  | nil => exact Quiet.refl h
  | cons op ops ih => exact (quiet_outputStep h op).trans (ih _)

theorem quiet_parseArgs (args : AnsiStr) (h : Host) : Quiet h (parseArgs args h).1 := by
  have hspec := parseArgs_spec args h
  unfold LoopResult at hspec
  split at hspec
  · obtain ⟨-, format, fmtArgs, hout⟩ := hspec
    rw [hout]
    exact quiet_output h _ _ _
  · rw [hspec.1]
    exact Quiet.refl h

end DbgScript
