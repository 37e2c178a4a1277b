import DbgScript.Host.ConsoleFrames

/-!
# Buffering and the end of commands

`stop_buffering` documents that the buffer is flushed when a script terminates, for any
reason (docs/shared/stop_buffering.txt). The exit of `runscript` does so: after the
provider has been torn down it resets the refcount and flushes. The exit of `evalstring`
does neither.

Here a completed command comes with everything that is done to the output while it runs,
the tear-down of providers included.

* `exec_silent`: a tear-down that prints nothing is that of the other modules.
* `prints_exec`: what is done to the output is what the script and the tear-down do, and
  after `runscript` the reset.
* `buffering_ends_iff`: every command ends without buffered text iff no command other than
  `runscript` leaves some.
-/

namespace DbgScript

open Runs (run Along)

/-! ## Model -/

/-- A completed command: what the script and its provider do to the output while the
    script is run, and what is done to it while a provider is torn down. -/
structure PrintingCall where
  command : Command
  client : ClientId
  args : AnsiStr
  env : CommandEnv
  acts : List ScriptAct
  cleanup : ProviderPtr → List ScriptAct
  result : HRESULT
  endTime : BitVec 32

/-- What is done to the output while a provider's instance is cleaned up. -/
def printing (cleanup : ProviderPtr → List ScriptAct) (p : ProviderPtr) (h : Host) : Host :=
  run scriptStep h (cleanup p)

def PrintingCall.start (c : PrintingCall) (h : Host) : Started :=
  (c.command.begin c.env c.client c.args h).completeWith (printing c.cleanup)

/-- A command from its call to its return. -/
def PrintingCall.exec (c : PrintingCall) (h : Host) : Host × HRESULT :=
  match c.start h with
  | (h, .inr hr) => (h, hr)
  | (h, .inl f) => f.finishWith (printing c.cleanup) c.result c.endTime (run scriptStep h c.acts)

def printingStep (h : Host) (c : PrintingCall) : Host := (c.exec h).1

/-! ## Specification -/

/-- What is done to the output while the providers `ps` are unloaded one after the other. -/
def unloadActs (cleanup : ProviderPtr → List ScriptAct) : List ProviderPtr → Host → List ScriptAct
  | [], _ => []
  | p :: ps, h =>
    (if (h.info p).scriptProvider = none then [] else cleanup p) ++
      unloadActs cleanup ps (unloadScriptProviderWith (printing cleanup) h p)

/-- What scripts and the tear-down of their providers do to the output while the command
    runs. A script is run once its provider has been loaded and, in `runscript`, its
    arguments have been made; the provider is torn down unless the VM is on. -/
def PrintingCall.printed (c : PrintingCall) (h : Host) : List ScriptAct :=
  match c.command with
  | .script command =>
    match loadPoint (.script command) c.env c.client c.args h with
    | some (g, p) =>
      if FAILED (loadScriptProviderIfNeeded c.env.load p g).2 then []
      else
        (if (c.start h).2.isLeft then c.acts else []) ++
          if h.ctx.startVMEnabled then [] else c.cleanup p
    | none => []
  | .stopvm =>
    if FAILED (stopvm c.env c.client h).2 then []
    else unloadActs c.cleanup h.ctx.scriptProviders (reAcquireIfacesIfNeeded c.env.qi c.client h).1
  | _ => []

/-- The tally at the end of the script and of the tear-down, and the texts they have
    printed. -/
def PrintingCall.tally (c : PrintingCall) (h : Host) : Tally :=
  run Tally.step h.tally (c.printed h)

/-- When the command returns, the buffer is off and empty, and every text printed while it
    ran has been sent, each of them once. -/
def EndsUnbuffered (h : Host) (c : PrintingCall) : Prop :=
  (printingStep h c).Unbuffered ∧
    ∃ texts : List (List CHAR), texts.Perm (c.tally h).texts ∧
      (printingStep h c).sent = h.sent ++ texts.flatten

/-- The command is not `runscript`, and by the tally buffering has not been stopped as often
    as started, or a text is waiting. -/
def LeavesBuffered (h : Host) (c : PrintingCall) : Prop :=
  c.command ≠ .script .runscript ∧ ((c.tally h).refcount ≠ 0 ∨ (c.tally h).waiting = true)

/-! ## Without anything printed in a tear-down -/

/-- A completed command of the other modules. -/
def Call.printing (c : Call) : PrintingCall :=
  ⟨c.command, c.client, c.args, c.env, c.ops.map .output, fun _ => [], c.result, c.endTime⟩

theorem run_output (ops : List OutputOp) (h : Host) :
    run scriptStep h (ops.map .output) = run outputStep h ops := by
  induction ops generalizing h with
  | nil => rfl
  | cons op ops ih => exact ih _

theorem exec_silent (c : Call) (h : Host) : c.printing.exec h = c.exec h := by
  have hstart : c.printing.start h = c.start h := rfl
  unfold PrintingCall.exec Call.exec
  rw [hstart]
  rcases c.start h with ⟨g, f | hr⟩
  · show f.finish c.result c.endTime (run scriptStep g (c.ops.map .output)) = _
    rw [run_output]
  · rfl

/-! ## What is done to the output while a command runs -/

/-- From `h` to `h'` the acts `as` have been done to the output, in this order, and nothing
    else that concerns the console. -/
inductive Prints : Host → List ScriptAct → Host → Prop
  | same {h h' : Host} (hs : SameConsole h h') : Prints h [] h'
  | acts (h : Host) (as : List ScriptAct) : Prints h as (run scriptStep h as)
  | trans {h h' h'' : Host} {as bs : List ScriptAct} (h1 : Prints h as h')
    (h2 : Prints h' bs h'') : Prints h (as ++ bs) h''

variable {h h' h'' : Host} {as : List ScriptAct}

theorem Prints.tallied {base : List CHAR} {t : Tally} (hp : Prints h as h')
    (ht : Tallied base h t) : Tallied base h' (run Tally.step t as) := by
  induction hp generalizing t with
  | same hs => exact ht.same hs
  | acts h as => exact tallied_run ht as
  | trans h1 h2 ih1 ih2 =>
    rw [Runs.run_append]
    exact ih2 (ih1 ht)

theorem Prints.then_same (hp : Prints h as h') (hs : SameConsole h' h'') : Prints h as h'' := by
  have htrans := hp.trans (.same hs)
  rwa [List.append_nil] at htrans

theorem SameConsole.then_prints (hs : SameConsole h h') (hp : Prints h' as h'') :
    Prints h as h'' :=
  (Prints.same hs).trans hp

/-- What the exit of `runscript` does to the output. -/
def resetActs : List ScriptAct := [.output (.buffer .cleanup)]

/-- And the exit of either command. -/
def ScriptCommand.resets : ScriptCommand → List ScriptAct
  | .runscript => resetActs
  | .evalstring => []

/-- What unloading a provider does to the output, unless the VM is on. -/
def exitActs (cleanup : ProviderPtr → List ScriptAct) (vm : Bool) (h : Host) (p : ProviderPtr) :
    List ScriptAct :=
  if vm then [] else if (h.info p).scriptProvider = none then [] else cleanup p

section Cleanup

variable (cleanup : ProviderPtr → List ScriptAct)

theorem prints_unload (h : Host) (p : ProviderPtr) :
    Prints h (if (h.info p).scriptProvider = none then [] else cleanup p)
      (unloadScriptProviderWith (printing cleanup) h p) := by
  cases hslot : (h.info p).scriptProvider with
  | none =>
    have hsame : unloadScriptProviderWith (printing cleanup) h p = h := by
      simp only [unloadScriptProviderWith, hslot]
    rw [hsame, if_pos rfl]
    exact .same (SameConsole.refl h)
  | some inst =>
    rw [if_neg (Option.some_ne_none inst)]
    simp only [unloadScriptProviderWith, hslot]
    refine (sameConsole_prov h (.cleanup inst)).then_prints (Prints.then_same (.acts _ _) ?_)
    exact sameConsole_endUnload _ p

theorem prints_unloads (ps : List ProviderPtr) (h : Host) :
    Prints h (unloadActs cleanup ps h)
      (ps.foldl (unloadScriptProviderWith (printing cleanup)) h) := by
  induction ps generalizing h with
  | nil => exact .same (SameConsole.refl h)
  | cons p ps ih => exact (prints_unload cleanup h p).trans (ih _)

/-- What the exit of a script command does to the output after the teardown. -/
theorem prints_exitRest (command : ScriptCommand) (hr : HRESULT) (h : Host) :
    Prints h command.resets (Rest.run (.exit command hr) h) := by
  cases command with
  | runscript => exact Prints.then_same (.acts h resetActs) (sameConsole_printFailure hr _)
  | evalstring => exact .same (sameConsole_printFailure hr h)

/-- The exit, if the provider has not been initialised, and if it has. -/
theorem prints_exit_none (command : ScriptCommand) (vm : Bool) (hr : HRESULT) (h : Host) :
    Prints h command.resets
      ((command.exitTeardown vm none hr).1.completeWith (printing cleanup) h) := by
  have hexit := prints_exitRest command hr h
  unfold ScriptCommand.exitTeardown Teardown.completeWith
  rw [exitProviders_none]
  exact hexit

theorem prints_exit (command : ScriptCommand) (vm : Bool) (p : ProviderPtr) (hr : HRESULT)
    (h : Host) :
    Prints h (exitActs cleanup vm h p ++ command.resets)
      ((command.exitTeardown vm (some p) hr).1.completeWith (printing cleanup) h) := by
  cases vm with
  | true => exact prints_exitRest command hr h
  | false => exact (prints_unload cleanup h p).trans (prints_exitRest command hr _)

/-- After the script. -/
theorem prints_finish (f : ScriptFrame) (hr : HRESULT) (endTime : BitVec 32) (h : Host) :
    Prints h (exitActs cleanup f.startVMEnabled h f.scriptProv ++ f.command.resets)
      (f.finishWith (printing cleanup) hr endTime h).1 := by
  have hexit := prints_exit cleanup f.command f.startVMEnabled f.scriptProv hr
    (f.leave hr endTime h).1
  have hinfo : exitActs cleanup f.startVMEnabled (f.leave hr endTime h).1 f.scriptProv =
      exitActs cleanup f.startVMEnabled h f.scriptProv := by
    rw [exitActs, exitActs, (quiet_leave f hr endTime h).info]
  rw [hinfo] at hexit
  exact (sameConsole_leave f hr endTime h).then_prints hexit

theorem prints_stopvm (e : CommandEnv) (client : ClientId) (h : Host) :
    Prints h
      (if FAILED (stopvm e client h).2 then []
        else unloadActs cleanup h.ctx.scriptProviders (reAcquireIfacesIfNeeded e.qi client h).1)
      ((beginStopvm e client h).2.1.completeWith (printing cleanup)
        (beginStopvm e client h).1) := by
  have hacquire := sameConsole_reAcquire e.qi client h
  have hlist := (onlyCom_reAcquire e.qi client h).providers.scriptProviders
  have hstop : (stopvm e client h).2 = (beginStopvm e client h).2.2 := rfl
  rw [hstop]
  by_cases hacq : FAILED (reAcquireIfacesIfNeeded e.qi client h).2 = true
  · have hbegin : beginStopvm e client h = ((reAcquireIfacesIfNeeded e.qi client h).1, .nothing,
        (reAcquireIfacesIfNeeded e.qi client h).2) := by simp only [beginStopvm, if_pos hacq]
    rw [hbegin, if_pos hacq]
    exact .same hacquire
  · by_cases hvm : (!(reAcquireIfacesIfNeeded e.qi client h).1.ctx.startVMEnabled) = true
    · have hbegin : beginStopvm e client h = ((reAcquireIfacesIfNeeded e.qi client h).1.output
          DEBUG_OUTPUT_ERROR "Error: VM not started. Use !startvm to start it.\n" [], .nothing,
          E_INVALIDARG) := by simp only [beginStopvm, if_neg hacq, if_pos hvm]
      rw [hbegin, if_pos failed_E_INVALIDARG]
      exact .same (hacquire.trans (sameConsole_output _ _ _ (by decide)))
    · have hbegin : beginStopvm e client h = ((reAcquireIfacesIfNeeded e.qi client h).1,
          ⟨h.ctx.scriptProviders, .stopvm⟩, (reAcquireIfacesIfNeeded e.qi client h).2) := by
        simp only [beginStopvm, if_neg hacq, if_neg hvm, hlist]
      rw [hbegin, if_neg hacq]
      exact hacquire.then_prints ((prints_unloads cleanup _ _).then_same ⟨rfl, rfl, rfl⟩)

end Cleanup

/-! ## Commands that run scripts -/

/-- A script leaves the nodes of the providers alone. -/
theorem quiet_flush_output (h : Host) (mask : ULONG) (format : String) (args : List FmtArg) :
    Quiet h ((utilFlushMessageBuffer h).output mask format args) :=
  (quiet_flush h).trans (quiet_output _ _ _ _)

theorem quiet_scriptStep (h : Host) (a : ScriptAct) : Quiet h (scriptStep h a) := by
  match a with
  | .output op => exact quiet_outputStep h op
  | .luaError _ _ => exact quiet_flush_output h _ _ _
  | .rubyNoMessage _ => exact quiet_output h _ _ _
  | .rubyException _ _ => exact quiet_flush_output h _ _ _
  | .rubyStackTrace frames =>
    refine (quiet_output h DEBUG_OUTPUT_ERROR "Stack trace:\n" []).trans ?_
    show Quiet _ (frames.foldl _ (h.output DEBUG_OUTPUT_ERROR "Stack trace:\n" []))
    generalize h.output DEBUG_OUTPUT_ERROR "Stack trace:\n" [] = g
    induction frames generalizing g with
    | nil => exact Quiet.refl g
    | cons frame frames ih => exact (quiet_output g _ _ _).trans (ih _)

theorem quiet_scriptRun (h : Host) (as : List ScriptAct) : Quiet h (run scriptStep h as) := by
  induction as generalizing h with
  | nil => exact Quiet.refl h
  | cons a as ih => exact (quiet_scriptStep h a).trans (ih _)

/-- A provider that has been loaded is torn down at the exit, unless the VM is on. -/
theorem exitActs_of_load {e : LoadEnv} {p : ProviderPtr} {g : Host}
    (hok : FAILED (loadScriptProviderIfNeeded e p g).2 = false)
    (hinfo : h.info = (loadScriptProviderIfNeeded e p g).1.info)
    (cleanup : ProviderPtr → List ScriptAct) (vm : Bool) :
    exitActs cleanup vm h p = if vm then [] else cleanup p := by
  have hpool := (load_effect e p g).2 hok
  obtain ⟨i, hi⟩ := Slots.slot_load g.pool p true
  have hslot : (h.info p).scriptProvider = some i := by
    rw [hinfo]
    show (loadScriptProviderIfNeeded e p g).1.pool.slot p = some i
    rw [hpool]
    exact hi
  rw [exitActs, hslot, if_neg (Option.some_ne_none i)]

/-- A script that has been started prints, and then its provider is torn down. -/
theorem prints_running {b : Host} {command : ScriptCommand} (c : PrintingCall)
    (f : ScriptFrame) {load : LoadEnv} {g : Host} (hs : SameConsole h b)
    (hok : FAILED (loadScriptProviderIfNeeded load f.scriptProv g).2 = false)
    (hinfo : b.info = (loadScriptProviderIfNeeded load f.scriptProv g).1.info)
    (hcommand : f.command = command) (hvm : f.startVMEnabled = h.ctx.startVMEnabled) :
    Prints h ((c.acts ++ if h.ctx.startVMEnabled then [] else c.cleanup f.scriptProv) ++
        command.resets)
      (f.finishWith (printing c.cleanup) c.result c.endTime (run scriptStep b c.acts)).1 := by
  have hscript := quiet_scriptRun b c.acts
  have hfinish := prints_finish c.cleanup f c.result c.endTime (run scriptStep b c.acts)
  rw [exitActs_of_load hok (hscript.info.trans hinfo), hcommand, hvm] at hfinish
  rw [List.append_assoc]
  exact hs.then_prints ((Prints.acts b c.acts).trans hfinish)

theorem prints_script (c : PrintingCall) (command : ScriptCommand)
    (hc : c.command = .script command) (h : Host) :
    Prints h (c.printed h ++ command.resets) (printingStep h c) := by
  have hbegin := sameConsole_begin command c.env c.client c.args h
  unfold PrintingCall.printed printingStep PrintingCall.exec PrintingCall.start
  rw [hc]
  cases start_cases command c.env c.client c.args h with
  | notReached g hr hsel hpoint hstart =>
    rw [hstart] at hbegin
    simp only [hstart, hpoint, Begun.completeWith]
    exact hbegin.then_prints (prints_exit_none c.cleanup command h.ctx.startVMEnabled hr g)
  | notLoaded g b p hr hl hf hstart =>
    rw [hstart] at hbegin
    simp only [hstart, hl.point, hl.load, if_pos hf, Begun.completeWith]
    exact hbegin.then_prints (prints_exit_none c.cleanup command h.ctx.startVMEnabled hr b)
  | notRun g b b' p hr hr' text hl hok hargs hstart =>
    -- the arguments cannot be made: no script is run
    have hinfo : b'.info = (loadScriptProviderIfNeeded c.env.load p g).1.info := by
      rw [hl.load]
      exact (quiet_args hargs).info
    have hload : FAILED (loadScriptProviderIfNeeded c.env.load p g).2 = false := by
      rw [hl.load]
      exact hok
    have hexit := prints_exit c.cleanup command h.ctx.startVMEnabled p hr' b'
    rw [exitActs_of_load hload hinfo] at hexit
    rw [hstart] at hbegin
    simp only [hstart, hl.point, hload, Begun.completeWith, Bool.false_eq_true, if_false,
      Sum.isLeft_inr, List.nil_append]
    exact hbegin.then_prints hexit
  | run g b b' p hr text argList timeRun hl hok hargs hstart =>
    have hinfo : b'.info = (loadScriptProviderIfNeeded c.env.load p g).1.info := by
      rw [hl.load]
      exact (quiet_args hargs).info
    have hload : FAILED (loadScriptProviderIfNeeded c.env.load p g).2 = false := by
      rw [hl.load]
      exact hok
    rw [hstart] at hbegin
    simp only [hstart, hl.point, hload, Begun.completeWith, Bool.false_eq_true, if_false,
      Sum.isLeft_inl, if_true]
    exact prints_running c ⟨command, h.ctx.startVMEnabled, p, (b'.info p).scriptProvider, timeRun,
      c.env.startTime⟩ hbegin hload hinfo rfl rfl
  | runString g b b' p hr text timeRun hl hok hout hstart =>
    have hinfo : b'.info = (loadScriptProviderIfNeeded c.env.load p g).1.info := by
      rw [hl.load, hout]
      exact (quiet_output b _ _ _).info
    have hload : FAILED (loadScriptProviderIfNeeded c.env.load p g).2 = false := by
      rw [hl.load]
      exact hok
    rw [hstart] at hbegin
    simp only [hstart, hl.point, hload, Begun.completeWith, Bool.false_eq_true, if_false,
      Sum.isLeft_inl, if_true]
    exact prints_running c ⟨command, h.ctx.startVMEnabled, p, (b'.info p).scriptProvider, timeRun,
      c.env.startTime⟩ hbegin hload hinfo rfl rfl

/-- What is done to the output in any command. -/
theorem prints_exec (h : Host) (c : PrintingCall) :
    Prints h (c.printed h ++ if c.command = .script .runscript then resetActs else [])
      (printingStep h c) := by
  rcases hc : c.command with (_ | _) | _ | _ | _
  · rw [if_pos rfl]
    exact prints_script c .runscript hc h
  · rw [if_neg (by decide)]
    exact prints_script c .evalstring hc h
  · have hsame := sameConsole_scriptpath c.env c.client c.args h
    simp only [PrintingCall.printed, printingStep, PrintingCall.exec, PrintingCall.start, hc]
    exact .same hsame
  · have hsame := sameConsole_startvm c.env c.client h
    simp only [PrintingCall.printed, printingStep, PrintingCall.exec, PrintingCall.start, hc]
    exact .same hsame
  · have hstop := prints_stopvm c.cleanup c.env c.client h
    have hend : printingStep h c = (beginStopvm c.env c.client h).2.1.completeWith
        (printing c.cleanup) (beginStopvm c.env c.client h).1 := by
      simp only [printingStep, PrintingCall.exec, PrintingCall.start, hc]
      rfl
    rw [if_neg (by simp), List.append_nil, hend, PrintingCall.printed, hc]
    exact hstop

/-! ## The law -/

/-- Between commands, nothing is buffered. -/
structure Settled (h : Host) : Prop where
  buffer : BufferOk h
  unbuffered : h.Unbuffered

theorem tallied_exec {c : PrintingCall} (hs : Settled h) :
    Tallied h.sent (printingStep h c)
      (run Tally.step (c.tally h) (if c.command = .script .runscript then resetActs else [])) := by
  have htallied := (prints_exec h c).tallied (tallied_tally hs.buffer hs.unbuffered)
  rwa [Runs.run_append] at htallied

theorem unbuffered_exec_iff {c : PrintingCall} (hs : Settled h) :
    (printingStep h c).Unbuffered ↔ ¬ LeavesBuffered h c := by
  have htallied := tallied_exec (c := c) hs
  rw [htallied.unbuffered_iff]
  by_cases hrun : c.command = .script .runscript
  · rw [if_pos hrun]
    exact ⟨fun _ hl => hl.1 hrun, fun _ => ⟨rfl, rfl⟩⟩
  · rw [if_neg hrun, Runs.run_nil]
    constructor
    · rintro ⟨hcount, hwaiting⟩ ⟨-, hbad | hbad⟩
      · exact hbad hcount
      · rw [hwaiting] at hbad
        cases hbad
    · intro hl
      refine ⟨?_, ?_⟩
      · by_contra hcount
        exact hl ⟨hrun, Or.inl hcount⟩
      · rw [← Bool.not_eq_true]
        intro hwaiting
        exact hl ⟨hrun, Or.inr hwaiting⟩

theorem endsUnbuffered_iff {c : PrintingCall} (hs : Settled h) :
    EndsUnbuffered h c ↔ ¬ LeavesBuffered h c := by
  refine ⟨fun hends => (unbuffered_exec_iff hs).mp hends.1, fun hl => ?_⟩
  have hun := (unbuffered_exec_iff hs).mpr hl
  obtain ⟨texts, hperm, hsent⟩ := (tallied_exec (c := c) hs).sent_of_unbuffered hun
  refine ⟨hun, texts, ?_, hsent⟩
  -- the reset prints nothing
  have htexts : (run Tally.step (c.tally h)
      (if c.command = .script .runscript then resetActs else [])).texts = (c.tally h).texts := by
    split_ifs <;> rfl
  rwa [htexts] at hperm

theorem settled_step {c : PrintingCall} (hs : Settled h) (hl : ¬ LeavesBuffered h c) :
    Settled (printingStep h c) :=
  ⟨(tallied_exec (c := c) hs).ok, (unbuffered_exec_iff hs).mpr hl⟩

theorem settled_init (routing : ClientId → Option OutputCb) (e : InitEnv) :
    Settled (debugExtensionInitialize e (Host.fresh routing)).1 := by
  have hfresh : Tallied [] (Host.fresh routing) (Host.fresh routing).tally :=
    tallied_tally (bufferOk_fresh routing) ⟨rfl, rfl⟩
  have htallied := hfresh.same (sameConsole_loadExtension e (Host.fresh routing))
  exact ⟨htallied.ok, htallied.unbuffered_iff.mpr ⟨rfl, rfl⟩⟩

/-- **Buffering ends with the command.** Over every sequence of completed commands, with or
    without a VM, and whatever the scripts, the reports of their failures and the tear-down
    of the providers do: at the end of every command the buffer is off and empty and every
    text has been sent, iff no command other than `runscript` leaves buffering on or a text
    in the buffer. A debugger command that a script executes calls no extension command here;
    a `runscript` nested in a script stops the buffering of this one
    (`DbgScript.Host.BufferOutputCalls`). -/
theorem buffering_ends_iff (routing : ClientId → Option OutputCb) (e : InitEnv)
    (cs : List PrintingCall) :
    let h := (debugExtensionInitialize e (Host.fresh routing)).1
    Along printingStep EndsUnbuffered h cs ↔
      Along printingStep (fun h c => ¬ LeavesBuffered h c) h cs := by
  intro h
  have hcongr := Runs.along_congr_of_inv (I := Settled) (fun h c hs hl => settled_step hs hl)
    (fun h c hs => (endsUnbuffered_iff (c := c) hs).symm) (settled_init routing e) cs
  exact hcongr.symm

/-- `!evalstring -l a x`, where the script starts buffering and prints `a`. -/
theorem evalstring_keeps_buffering :
    let c : PrintingCall :=
      { command := .script .evalstring, client := 0,
        args := ⟨[45, 108, 32, 97, 32, 120], by decide⟩,
        env := CommandEnv.succeeding,
        acts := [.output (.buffer .start),
          .output (.buffer (.write DEBUG_OUTPUT_NORMAL ⟨[97], by decide⟩))],
        cleanup := fun _ => [], result := S_OK, endTime := 0 }
    ¬ Along printingStep EndsUnbuffered Host.oneProvider [c] := by
  rintro c ⟨⟨hun, -⟩, -⟩
  have hon : (printingStep Host.oneProvider c).ctx.isBuffering = 1 := by decide +kernel
  rw [hun.isBuffering] at hon
  cases hon

end DbgScript
