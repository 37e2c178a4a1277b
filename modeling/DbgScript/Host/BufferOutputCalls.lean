import DbgScript.Host.ConsoleFrames
import DbgScript.Host.Session

/-!
# Calls of `UtilBufferOutput`

`UtilBufferOutput` asserts that the refcount is positive. Its callers test the refcount,
but `UtilExecuteCommand` does so before it has the engine execute the command, and calls
`UtilBufferOutput` afterwards. In between the engine may call extension commands, whose
scripts stop buffering, and the exit of `runscript` sets the refcount to 0.

* `bufferCall_spec`: the calls that a step makes.
* `isBuffering_step`: what a step does to the refcount.
* `buffers_while_buffering_iff`: all calls are made while buffering iff no captured command
  returns when, counting calls, buffering is off.
-/

namespace DbgScript

open Runs (run Along)

/-! ## Specification -/

/-- The call of `UtilBufferOutput` that a step makes: the host at that point, and the text.
    A `write` calls it if the script is buffering, and `UtilExecuteCommand` after a captured
    command has succeeded. -/
def Session.bufferCall (s : Session) : Label → Option (Host × List CHAR)
  | .buffer (.write _ text) =>
    if s.active = true ∧ 0 < s.host.ctx.isBuffering then some (s.host, text.chars) else none
  | .executed =>
    match s.stack with
    | .exec e _ (.buffered prev) :: _ =>
      if FAILED e.execute then none
      else
        let h := setOutputCallbacks e.restoreCallbacks prev s.host
        some (h, h.capture.str)
    | _ => none
  | _ => none

/-- The assertion at the head of `UtilBufferOutput` holds. -/
def BuffersWhileBuffering (s : Session) (l : Label) : Prop :=
  ∀ h text, s.bufferCall l = some (h, text) → 0 < h.ctx.isBuffering

/-- What a `start_buffering` or a `stop_buffering` does to the number of unmatched starts,
    kept in a `LONG`. -/
def BufferOp.count (n : ℤ) : BufferOp → ℤ
  | .start => wrapLong (n + 1)
  | .stop => max 0 (wrapLong (n - 1))
  | .write _ _ => n
  | .cleanup => 0

/-- The exit of a `runscript`. -/
def Rest.endsRunscript : Rest → Bool
  | .exit .runscript _ => true
  | _ => false

/-- A `runscript` returns in the step: it has no script to run and no `Cleanup` to wait
    for. -/
def Session.endsRunscript (s : Session) (l : Label) : Bool :=
  match l with
  | .call (.script .runscript) _ _ _ => s.accepts && (s.step l).stack.length == s.stack.length
  | .ret _ _ =>
    match s.stack with
    | .script f :: stack => f.command == .runscript && (s.step l).stack.length == stack.length
    | _ => false
  | .cleanedUp =>
    match s.stack with
    | .cleanup _ _ t :: stack => t.rest.endsRunscript && (s.step l).stack.length == stack.length
    | _ => false
  | _ => false

/-- The number of unmatched starts after a step, if it was `n` before. The end of a
    `runscript` counts as the stop of all of them. -/
def Session.count (s : Session) (n : ℤ) : Label → ℤ
  | .buffer op => if s.active then op.count n else n
  | l => if s.endsRunscript l then 0 else n

/-- The session together with the count. -/
def countedStep (c : Session × ℤ) (l : Label) : Session × ℤ := (c.1.step l, c.1.count c.2 l)

/-- `Execute` returns successfully to a `UtilExecuteCommand` that captures the output, and by
    the count no start is unmatched. -/
def ReturnsUncounted (c : Session × ℤ) (l : Label) : Prop :=
  ∃ e command prev stack, l = .executed ∧ c.1.stack = .exec e command (.buffered prev) :: stack ∧
    FAILED e.execute = false ∧ c.2 ≤ 0

/-- The step makes this call, and appends nothing else to the buffer. -/
theorem bufferCall_spec {s : Session} {l : Label} {h : Host} {text : List CHAR}
    (hcall : s.bufferCall l = some (h, text)) : (s.step l).host = utilBufferOutput h text := by
  unfold Session.bufferCall at hcall
  split at hcall
  · next mask t =>
    split_ifs at hcall with hbuf
    cases hcall
    rw [Session.step, if_pos hbuf.1]
    show outputCb mask t s.host = _
    rw [outputCb, if_pos hbuf.2]
  · split at hcall
    · next e command prev stack hstack =>
      split_ifs at hcall with hf
      cases hcall
      rw [Session.step, hstack]
      simp only [execEnd]
      rw [if_neg hf]
    · cases hcall
  · cases hcall

/-! ## The refcount -/

variable {h h' : Host}

theorem SameConsole.isBuffering (hs : SameConsole h h') :
    h'.ctx.isBuffering = h.ctx.isBuffering :=
  congrArg OutputBuffer.isBuffering hs.buffer

theorem isBuffering_flush (h : Host) :
    (utilFlushMessageBuffer h).ctx.isBuffering = h.ctx.isBuffering := by
  unfold utilFlushMessageBuffer
  split_ifs <;> rfl

theorem isBuffering_bufferOutput (h : Host) (text : List CHAR) :
    (utilBufferOutput h text).ctx.isBuffering = h.ctx.isBuffering := by
  unfold utilBufferOutput
  split_ifs
  · exact isBuffering_flush h
  · exact isBuffering_flush h
  · rfl

theorem isBuffering_bufferStep (h : Host) (op : BufferOp) :
    (bufferStep h op).ctx.isBuffering = op.count h.ctx.isBuffering := by
  match op with
  | .start => rfl
  | .stop =>
    show (stopBuffering h).1.ctx.isBuffering = max 0 (wrapLong (h.ctx.isBuffering - 1))
    unfold stopBuffering
    dsimp only
    split_ifs with hneg hzero
    · exact (max_eq_left hneg.le).symm
    · rw [isBuffering_flush]
      exact (max_eq_right hzero.ge).symm
    · exact (max_eq_right (not_lt.mp hneg)).symm
  | .write mask text =>
    show (outputCb mask text h).ctx.isBuffering = h.ctx.isBuffering
    unfold outputCb
    split_ifs
    · exact isBuffering_bufferOutput h _
    · rfl
  | .cleanup => exact isBuffering_flush _

theorem isBuffering_execEnd (e : ExecEnv) (command : AnsiStr) (scope : ExecScope) (h : Host) :
    (execEnd e command scope h).1.ctx.isBuffering = h.ctx.isBuffering := by
  cases scope with
  | buffered prev =>
    simp only [execEnd]
    split_ifs
    · have hfailed := sameConsole_setOutputCallbacks e.restoreCallbacks prev
        (h.output DEBUG_OUTPUT_ERROR "Error: Failed to execute command '%s'. Error 0x%08x.\n"
          [.str command.chars, .hex e.execute])
      exact hfailed.isBuffering
    · rw [isBuffering_bufferOutput]
      exact (sameConsole_setOutputCallbacks ..).isBuffering
  | unbuffered =>
    simp only [execEnd]
    split_ifs <;> rfl

/-- The rest of a `runscript` turns buffering off, and no other rest does. -/
theorem isBuffering_rest (rest : Rest) (h : Host) :
    (rest.run h).ctx.isBuffering = if rest.endsRunscript then 0 else h.ctx.isBuffering := by
  match rest with
  | .returns => rfl
  | .exit .runscript hr =>
    exact (sameConsole_printFailure hr _).isBuffering.trans (isBuffering_flush _)
  | .exit .evalstring hr => exact (sameConsole_printFailure hr h).isBuffering
  | .stopvm => rfl
  | .unloadExtension => exact (sameConsole_release h.forgetProviders).isBuffering

/-- Unwinding turns buffering off if it gets to the end of a `runscript`. -/
theorem isBuffering_unwind (stack : List Frame) (rest : Rest) (ps : List ProviderPtr) (h : Host) :
    (Session.unwind stack rest ps h).host.ctx.isBuffering =
      if (rest.endsRunscript &&
        (Session.unwind stack rest ps h).stack.length == stack.length) = true
      then 0 else h.ctx.isBuffering := by
  have hcases := unwind_cases stack rest ps h
  generalize Session.unwind stack rest ps h = s at hcases ⊢
  cases hcases with
  | done hnone =>
    show (rest.run h).ctx.isBuffering = _
    rw [isBuffering_rest]
    simp
  | cleaning skipped ps' p i hps hnone hslot => simp; rfl

/-! ## Steps -/

/-- How a script command begins: its script goes on the stack, or it is at its exit. -/
theorem begin_rest {command : ScriptCommand} {e : CommandEnv} {client : ClientId} {args : AnsiStr}
    {h g : Host} {t : Teardown} {hr : HRESULT}
    (hbegin : (Command.script command).begin e client args h = (g, .inr (t, hr))) :
    t.rest = .exit command hr := by
  have heffect := (begin_effect command e client args h).2
  rw [hbegin] at heffect
  cases heffect with
  | notReached hr ht hs => rfl
  | loadFailed p hr ht hf hslot hs => rfl
  | notRun p hr ht hf hs => rfl

theorem isBuffering_script {s : Session} (command : ScriptCommand) (client : ClientId)
    (args : AnsiStr) (env : CommandEnv) (haccepts : s.accepts = true) :
    (s.step (.call (.script command) client args env)).host.ctx.isBuffering =
      if (command == .runscript && (s.step (.call (.script command) client args env)).stack.length
        == s.stack.length) = true
      then 0 else s.host.ctx.isBuffering := by
  have hstep : s.step (.call (.script command) client args env) = Session.enter s.stack
      ((Command.script command).begin env client args s.host) := by
    rw [Session.step, if_pos haccepts]
  have hsame := (sameConsole_begin command env client args s.host).isBuffering
  rw [hstep]
  rcases hbegin : (Command.script command).begin env client args s.host with ⟨g, f | ⟨t, hr⟩⟩
  · rw [hbegin] at hsame
    show g.ctx.isBuffering = _
    simpa [Session.enter] using hsame
  · rw [hbegin] at hsame
    have hrest := begin_rest hbegin
    have hends : t.rest.endsRunscript = (command == .runscript) := by
      rw [hrest]
      cases command <;> rfl
    show (Session.unwind s.stack t.rest t.providers g).host.ctx.isBuffering = _
    rw [isBuffering_unwind, hends]
    exact congrArg _ hsame

theorem isBuffering_call {s : Session} {command : Command} {client : ClientId} {args : AnsiStr}
    {env : CommandEnv} (haccepts : s.accepts = true) :
    (s.step (.call command client args env)).host.ctx.isBuffering =
      s.count s.host.ctx.isBuffering (.call command client args env) := by
  match command with
  | .script .runscript =>
    have hscript := isBuffering_script .runscript client args env haccepts
    rw [hscript]
    simp [Session.count, Session.endsRunscript, haccepts]
  | .script .evalstring =>
    have hscript := isBuffering_script .evalstring client args env haccepts
    rw [hscript]
    rfl
  | .scriptpath =>
    rw [Session.step, if_pos haccepts]
    exact (sameConsole_scriptpath env client args s.host).isBuffering
  | .startvm =>
    rw [Session.step, if_pos haccepts]
    exact (sameConsole_startvm env client s.host).isBuffering
  | .stopvm =>
    have hsame := (sameConsole_beginStopvm env client s.host).isBuffering
    have hcases := (beginStopvm_cases env client s.host).2
    rw [Session.step, if_pos haccepts]
    show (Session.unwind s.stack (beginStopvm env client s.host).2.1.rest
      (beginStopvm env client s.host).2.1.providers
      (beginStopvm env client s.host).1).host.ctx.isBuffering = s.host.ctx.isBuffering
    have hends : (beginStopvm env client s.host).2.1.rest.endsRunscript = false := by
      rcases hcases with ⟨-, ht⟩ | ⟨-, -, ht⟩
      · rw [ht]
        rfl
      · rw [ht]
        rfl
    rw [isBuffering_unwind, hends]
    exact hsame

/-- A command that is not accepted does not count. -/
theorem count_refused {s : Session} {command : Command} {client : ClientId} {args : AnsiStr}
    {env : CommandEnv} {n : ℤ} (hrefused : ¬ s.accepts = true) :
    s.count n (.call command client args env) = n := by
  cases command with
  | script command =>
    cases command with
    | runscript => simp [Session.count, Session.endsRunscript, hrefused]
    | evalstring => rfl
  | _ => rfl

/-- The refcount is the count. -/
theorem isBuffering_step (s : Session) (l : Label) :
    (s.step l).host.ctx.isBuffering = s.count s.host.ctx.isBuffering l := by
  match l with
  | .loadExtension e =>
    show (s.step (.loadExtension e)).host.ctx.isBuffering = s.host.ctx.isBuffering
    rw [Session.step]
    split
    · exact (sameConsole_loadExtension e s.host).isBuffering
    · rfl
  | .unloadExtension =>
    show (s.step .unloadExtension).host.ctx.isBuffering = s.host.ctx.isBuffering
    rw [Session.step]
    split
    · exact isBuffering_unwind [] .unloadExtension s.host.ctx.scriptProviders s.host
    · rfl
  | .call command client args env =>
    by_cases haccepts : s.accepts = true
    · exact isBuffering_call haccepts
    · rw [Session.step, if_neg haccepts, count_refused haccepts]
  | .buffer op =>
    simp only [Session.step, Session.count]
    split_ifs
    · exact isBuffering_bufferStep s.host op
    · rfl
  | .execute e command =>
    have hexec := (sameConsole_execBegin e command s.host).isBuffering
    show (s.step (.execute e command)).host.ctx.isBuffering = s.host.ctx.isBuffering
    rw [Session.step]
    split_ifs
    · split <;> next heq => rw [heq] at hexec; exact hexec
    · rfl
  | .callback mask text =>
    show (s.step (.callback mask text)).host.ctx.isBuffering = s.host.ctx.isBuffering
    rw [Session.step]
    unfold captureOutput
    split_ifs <;> rfl
  | .executed =>
    show (s.step .executed).host.ctx.isBuffering = s.host.ctx.isBuffering
    rw [Session.step]
    split
    · exact isBuffering_execEnd _ _ _ _
    · rfl
  | .ret hr endTime =>
    rcases hstack : s.stack with _ | ⟨f | _ | _, stack⟩ <;>
      simp only [Session.step, Session.count, Session.endsRunscript, hstack, Bool.false_eq_true,
        if_false]
    have hsame := (sameConsole_leave f hr endTime s.host).isBuffering
    have hrest : (f.leave hr endTime s.host).2.rest.endsRunscript = (f.command == .runscript) := by
      rw [(leave_spec ..).2]
      show (Rest.exit f.command hr).endsRunscript = _
      cases f.command <;> rfl
    have hunwind := isBuffering_unwind stack (f.leave hr endTime s.host).2.rest
      (f.leave hr endTime s.host).2.providers (f.leave hr endTime s.host).1
    rw [hrest, hsame] at hunwind
    exact hunwind
  | .cleanedUp =>
    rcases hstack : s.stack with _ | ⟨_ | _ | ⟨p, i, t⟩, stack⟩ <;>
      simp only [Session.step, Session.count, Session.endsRunscript, hstack, Bool.false_eq_true,
        if_false]
    have hunwind := isBuffering_unwind stack t.rest t.providers (endUnload s.host p)
    rw [(sameConsole_endUnload s.host p).isBuffering] at hunwind
    exact hunwind

/-- The calls of a step are made while buffering iff no captured command returns uncounted. -/
theorem buffersWhileBuffering_iff (s : Session) (l : Label) :
    BuffersWhileBuffering s l ↔ ¬ ReturnsUncounted (s, s.host.ctx.isBuffering) l := by
  constructor
  · rintro hall ⟨e, command, prev, stack, rfl, hstack, hf, hcount⟩
    have hset := (sameConsole_setOutputCallbacks e.restoreCallbacks prev s.host).isBuffering
    have hpos := hall (setOutputCallbacks e.restoreCallbacks prev s.host) _ (by
      rw [Session.bufferCall, hstack]
      simp only [hf]
      rfl)
    rw [hset] at hpos
    exact absurd hpos (not_lt.mpr hcount)
  · intro hno h text hcall
    unfold Session.bufferCall at hcall
    split at hcall
    · split_ifs at hcall with hbuf
      cases hcall
      exact hbuf.2
    · split at hcall
      · next e command prev stack hstack =>
        split_ifs at hcall with hf
        cases hcall
        rw [(sameConsole_setOutputCallbacks e.restoreCallbacks prev s.host).isBuffering]
        by_contra hle
        exact hno ⟨e, command, prev, stack, rfl, hstack, by simpa using hf, not_lt.mp hle⟩
      · cases hcall
    · cases hcall

/-- **`UtilBufferOutput` is called while buffering.** In a session of any calls, nested in
    scripts, in `Cleanup` calls and in each other, and with scripts that do anything to the
    output: the refcount is positive at every call of `UtilBufferOutput` iff no captured
    command returns when every start has been matched, by a stop or by the end of a
    `runscript`. -/
theorem buffers_while_buffering_iff (routing : ClientId → Option OutputCb) (ls : List Label) :
    Along Session.step BuffersWhileBuffering (Session.fresh routing) ls ↔
      Along countedStep (fun c l => ¬ ReturnsUncounted c l) (Session.fresh routing, 0) ls := by
  refine Runs.along_sim (R := fun s c => c.1 = s ∧ c.2 = s.host.ctx.isBuffering) ?_ ?_
    ⟨rfl, rfl⟩ ls
  · rintro s ⟨t, n⟩ l ⟨ht, hn⟩
    dsimp only at ht hn
    rw [hn, ht]
    exact ⟨rfl, (isBuffering_step s l).symm⟩
  · rintro s ⟨t, n⟩ l ⟨ht, hn⟩
    dsimp only at ht hn
    rw [hn, ht]
    exact buffersWhileBuffering_iff s l

/-- With the VM on, a script starts buffering and executes a command that calls
    `!runscript -l a f`. When this has returned, the captured text is buffered with the
    refcount at 0. -/
theorem nested_runscript_stops_buffering :
    let script := Label.call (.script .runscript) 0 ⟨[45, 108, 32, 97, 32, 102], by decide⟩
      CommandEnv.succeeding
    let ls : List Label :=
      [.loadExtension (InitEnv.succeeding 0 [⟨⟨[97], by decide⟩, true, ⟨[92, 100], by decide⟩⟩]),
        .call .startvm 0 ⟨[], by decide⟩ CommandEnv.succeeding, script, .buffer .start,
        .execute printsOnce ⟨[107], by decide⟩, script, .ret S_OK 0, .executed]
    ¬ Along Session.step BuffersWhileBuffering (Session.fresh fun _ => none) ls := by
  intro script ls hall
  have hcall : ((run Session.step (Session.fresh fun _ => none) (ls.take 7)).bufferCall
      .executed).map (fun c => c.1.ctx.isBuffering) = some 0 := by decide +kernel
  obtain ⟨⟨h, text⟩, hsome, hzero⟩ := Option.map_eq_some_iff.mp hcall
  have hpos : 0 < h.ctx.isBuffering := hall.2.2.2.2.2.2.2.1 h text hsome
  dsimp only at hzero
  omega

end DbgScript
