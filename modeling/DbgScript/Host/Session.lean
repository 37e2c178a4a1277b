import DbgScript.Host.Commands

/-!
# Sessions

Everything that can happen to the host, in any nesting: the debugger calls an entry
point; a script writes, buffers and executes debugger commands, and so does what is left
of it while its provider's instance is cleaned up; and while the engine executes such a
command, it may call extension commands again. A session is the host with the stack of
what is still running: scripts inside `Run` or `RunString`, instances inside `Cleanup`,
and `Execute` calls inside `UtilExecuteCommand`. A label that is not possible in a session
leaves it as it is.

`unloadScriptProvider` empties a provider's slot only after the instance's `Cleanup` has
returned, so while it runs the commands that it executes find the provider loaded. While
`DebugExtensionUninitialize` runs they still find all providers; the nodes that it has
deleted by then are taken to keep their contents. An instance's `Init` is one step of the
load: it is taken to run no script.

* `call_simulated`: a completed command is a run of a session.
* `unwind_cases`: where the unloading of providers gets to.
* `step_change`: what one step can do to the provider instances.
* `undercut_step`: what is going to unload the provider of a frame below it stays on the
  stack until that has happened.
* `sessionOk_step`: the invariant of the providers and the stack.
-/

namespace DbgScript

open Slots (Pool)
open Runs (run)

/-! ## Model -/

/-- What is on the call stack: a script that runs, a debugger command that is executed, or
    the `Cleanup` of the instance of `p`, where `t` is what its command has left to do once
    `p` has been unloaded. -/
inductive Frame where
  | script (f : ScriptFrame)
  | exec (e : ExecEnv) (command : AnsiStr) (scope : ExecScope)
  | cleanup (p : ProviderPtr) (inst : Instance) (t : Teardown)

/-- The host and the call stack, innermost first. -/
structure Session where
  host : Host
  stack : List Frame

/-- What can happen next. -/
inductive Label where
  | loadExtension (e : InitEnv)
  | unloadExtension
  | call (command : Command) (client : ClientId) (args : AnsiStr) (env : CommandEnv)
  | buffer (op : BufferOp)
  | execute (e : ExecEnv) (command : AnsiStr)
  | callback (mask : ULONG) (text : AnsiStr)
  | executed
  | ret (hr : HRESULT) (endTime : BitVec 32)
  | cleanedUp

/-- The engine executes a command whose output is captured. -/
def Frame.captures : Frame → Bool
  | .exec _ _ (.buffered _) => true
  | _ => false

/-- Extension commands are called by the debugger, or by the engine while it executes a
    command. -/
def Session.accepts (s : Session) : Bool :=
  match s.stack with
  | [] => true
  | .exec _ _ _ :: _ => true
  | _ => false

/-- Script code is running: a script, or what the `Cleanup` of its instance calls. -/
def Session.active (s : Session) : Bool :=
  match s.stack with
  | .script _ :: _ => true
  | .cleanup _ _ _ :: _ => true
  | _ => false

/-- Providers are unloaded up to the first one that has an instance, whose `Cleanup` is
    called. If there is none, the command does the rest and returns. -/
def Session.unwind (stack : List Frame) (rest : Rest) : List ProviderPtr → Host → Session
  | [], h => ⟨rest.run h, stack⟩
  | p :: ps, h =>
    match (h.info p).scriptProvider with
    | none => Session.unwind stack rest ps h
    | some inst => ⟨h.emit (.prov (.cleanup inst)), .cleanup p inst ⟨ps, rest⟩ :: stack⟩

def Teardown.unwind (t : Teardown) (stack : List Frame) (h : Host) : Session :=
  Session.unwind stack t.rest t.providers h

/-- A command has started: its script goes on the stack, or it goes on to its exit. -/
def Session.enter (stack : List Frame) : Begun → Session
  | (h, .inl f) => ⟨h, .script f :: stack⟩
  | (h, .inr (t, _)) => t.unwind stack h

def Session.step (s : Session) : Label → Session
  | .loadExtension e =>
    match s.stack with
    | [] => ⟨(debugExtensionInitialize e s.host).1, []⟩
    | _ => s
  | .unloadExtension =>
    match s.stack with
    | [] => (unloadTeardown s.host).unwind [] s.host
    | _ => s
  | .call command client args env =>
    if s.accepts then Session.enter s.stack (command.begin env client args s.host) else s
  | .buffer op => if s.active then ⟨bufferStep s.host op, s.stack⟩ else s
  | .execute e command =>
    if s.active then
      match execBegin e command s.host with
      | (h, .inl scope) => ⟨h, .exec e command scope :: s.stack⟩
      | (h, .inr _) => ⟨h, s.stack⟩
    else s
  | .callback mask text =>
    if s.stack.any Frame.captures then ⟨captureOutput mask text s.host, s.stack⟩ else s
  | .executed =>
    match s.stack with
    | .exec e command scope :: stack => ⟨(execEnd e command scope s.host).1, stack⟩
    | _ => s
  | .ret hr endTime =>
    match s.stack with
    | .script f :: stack =>
      let (h, t) := f.leave hr endTime s.host
      t.unwind stack h
    | _ => s
  | .cleanedUp =>
    match s.stack with
    | .cleanup p _ t :: stack => t.unwind stack (endUnload s.host p)
    | _ => s

/-- The session right after the DLL has been loaded. -/
def Session.fresh (routing : ClientId → Option OutputCb) : Session := ⟨Host.fresh routing, []⟩

def Frame.script? : Frame → Option ScriptFrame
  | .script f => some f
  | _ => none

/-- The scripts on the stack, innermost first. -/
def Session.scripts (s : Session) : List ScriptFrame := s.stack.filterMap Frame.script?

/-! ## Completed commands as runs of a session -/

/-- An operation of a script, as labels. -/
def OutputOp.labels : OutputOp → List Label
  | .buffer op => [.buffer op]
  | .execute e command =>
    .execute e command :: (e.callbacks.map fun c => .callback c.1 c.2) ++ [.executed]

/-- The `Cleanup` of at most `n` instances returns, one after the other. -/
def cleanedUps (n : ℕ) : List Label := List.replicate n .cleanedUp

/-- A completed command that unloads at most `n` providers, as labels. -/
def Call.labels (c : Call) (n : ℕ) : List Label :=
  .call c.command c.client c.args c.env :: (cleanedUps n ++ c.ops.flatMap OutputOp.labels ++
    .ret c.result c.endTime :: cleanedUps n)

theorem run_callbacks (callbacks : List (ULONG × AnsiStr)) (s : Session) :
    run Session.step s (callbacks.map fun c => .callback c.1 c.2) =
      if s.stack.any Frame.captures then ⟨deliver callbacks s.host, s.stack⟩ else s := by
  induction callbacks generalizing s with
  | nil => split_ifs <;> rfl
  | cons c callbacks ih =>
    rw [List.map_cons, Runs.run_cons, ih]
    by_cases hcap : s.stack.any Frame.captures = true
    · have hstep : s.step (.callback c.1 c.2) = ⟨captureOutput c.1 c.2 s.host, s.stack⟩ := by
        rw [Session.step, if_pos hcap]
      rw [hstep, if_pos hcap, if_pos hcap]
      rfl
    · have hstep : s.step (.callback c.1 c.2) = s := by rw [Session.step, if_neg hcap]
      rw [hstep, if_neg hcap, if_neg hcap]

/-- In a script that is not nested, an operation has the effect of its labels. -/
theorem outputOp_simulated (f : ScriptFrame) (h : Host) (op : OutputOp) :
    run Session.step ⟨h, [.script f]⟩ op.labels = ⟨outputStep h op, [.script f]⟩ := by
  cases op with
  | buffer op => rfl
  | execute e command =>
    have hexec : (Session.mk h [.script f]).step (.execute e command) =
        match execBegin e command h with
        | (h, .inl scope) => ⟨h, [.exec e command scope, .script f]⟩
        | (h, .inr _) => ⟨h, [.script f]⟩ := rfl
    have hout : outputStep h (.execute e command) = (utilExecuteCommand e command h).1 := rfl
    rw [OutputOp.labels, List.cons_append, Runs.run_cons, Runs.run_append, hexec, run_callbacks,
      hout, utilExecuteCommand]
    rcases execBegin e command h with ⟨g, (prev | _) | hr⟩ <;> rfl

theorem outputOps_simulated (f : ScriptFrame) (h : Host) (ops : List OutputOp) :
    run Session.step ⟨h, [.script f]⟩ (ops.flatMap OutputOp.labels) =
      ⟨run outputStep h ops, [.script f]⟩ := by
  induction ops generalizing h with
  | nil => rfl
  | cons op ops ih =>
    rw [List.flatMap_cons, Runs.run_append, outputOp_simulated, ih]
    rfl

/-- Without a script, the labels of its operations do nothing. -/
theorem outputOps_idle (h : Host) (ops : List OutputOp) :
    run Session.step ⟨h, []⟩ (ops.flatMap OutputOp.labels) = ⟨h, []⟩ := by
  induction ops with
  | nil => rfl
  | cons op ops ih =>
    have hop : run Session.step ⟨h, []⟩ op.labels = ⟨h, []⟩ := by
      cases op with
      | buffer op => rfl
      | execute e command =>
        have hexec : (Session.mk h []).step (.execute e command) = ⟨h, []⟩ := rfl
        rw [OutputOp.labels, List.cons_append, Runs.run_cons, Runs.run_append, hexec,
          run_callbacks]
        rfl
    rw [List.flatMap_cons, Runs.run_append, hop, ih]

/-- No `Cleanup` returns where none is running. -/
theorem cleanedUps_idle (s : Session) (hs : s.step .cleanedUp = s) (n : ℕ) :
    run Session.step s (cleanedUps n) = s := by
  induction n with
  | zero => rfl
  | succ n ih =>
    show run Session.step (s.step .cleanedUp) (cleanedUps n) = s
    rw [hs]
    exact ih

/-- If nothing happens in any `Cleanup`, the unwinding is the teardown. -/
theorem unwind_complete (rest : Rest) (ps : List ProviderPtr) (h : Host) (n : ℕ)
    (hn : ps.length ≤ n) :
    run Session.step (Session.unwind [] rest ps h) (cleanedUps n) =
      ⟨rest.run (ps.foldl unloadScriptProvider h), []⟩ := by
  induction ps generalizing h n with
  | nil => exact cleanedUps_idle ⟨rest.run h, []⟩ rfl n
  | cons p ps ih =>
    rw [List.length_cons] at hn
    rw [Session.unwind, List.foldl_cons]
    cases hslot : (h.info p).scriptProvider with
    | none =>
      have hsame : unloadScriptProvider h p = h := by
        simp only [unloadScriptProvider, unloadScriptProviderWith, hslot]
      rw [hsame]
      exact ih h n (by omega)
    | some inst =>
      have hunload : unloadScriptProvider h p = endUnload (h.emit (.prov (.cleanup inst))) p := by
        simp only [unloadScriptProvider, unloadScriptProviderWith, hslot]
        rfl
      obtain ⟨m, rfl⟩ : ∃ m, n = m + 1 := ⟨n - 1, by omega⟩
      rw [hunload]
      exact ih _ m (by omega)

/-- How many providers a command that is at its exit can have to unload. -/
theorem begin_length {command : Command} {e : CommandEnv} {client : ClientId} {args : AnsiStr}
    {h g : Host} {t : Teardown} {hr : HRESULT}
    (hbegin : command.begin e client args h = (g, .inr (t, hr))) :
    t.providers.length ≤ 1 + h.ctx.scriptProviders.length := by
  have hexit : ∀ vm initialized, (exitProviders vm initialized).length ≤ 1 := by
    intro vm initialized
    cases vm <;> cases initialized <;> simp [exitProviders]
  cases command with
  | script command =>
    have heffect := (begin_effect command e client args h).2
    rw [hbegin] at heffect
    cases heffect with
    | notReached hr ht hs => exact (hexit _ _).trans (Nat.le_add_right _ _)
    | loadFailed p hr ht hf hslot hs => exact (hexit _ _).trans (Nat.le_add_right _ _)
    | notRun p hr ht hf hs => exact (hexit _ _).trans (Nat.le_add_right _ _)
  | scriptpath =>
    cases hbegin
    exact Nat.zero_le _
  | startvm =>
    cases hbegin
    exact Nat.zero_le _
  | stopvm =>
    have hcases := (beginStopvm_cases e client h).2
    have ht : (beginStopvm e client h).2.1 = t := by
      have hsnd := congrArg Prod.snd hbegin
      exact congrArg Prod.fst (Sum.inr.inj hsnd)
    rw [ht] at hcases
    rcases hcases with ⟨-, rfl⟩ | ⟨-, -, rfl⟩
    · exact Nat.zero_le _
    · exact Nat.le_add_left _ _

/-- A completed command is a run of a session with nothing else on the stack. -/
theorem call_simulated (h : Host) (c : Call) (n : ℕ) (hn : h.ctx.scriptProviders.length < n) :
    run Session.step ⟨h, []⟩ (c.labels n) = ⟨callStep h c, []⟩ := by
  have hcall : (Session.mk h []).step (.call c.command c.client c.args c.env) =
      Session.enter [] (c.command.begin c.env c.client c.args h) := rfl
  have hstart : c.start h = (c.command.begin c.env c.client c.args h).complete := rfl
  rw [Call.labels, Runs.run_cons, Runs.run_append, Runs.run_append, hcall, callStep, Call.exec,
    hstart]
  rcases hbegin : c.command.begin c.env c.client c.args h with ⟨g, f | ⟨t, hr⟩⟩
  · -- the script runs, and then its provider is unloaded
    have hscript : run Session.step (Session.enter [] (g, .inl f)) (cleanedUps n) =
        ⟨g, [.script f]⟩ := cleanedUps_idle _ rfl n
    have hret : (Session.mk (run outputStep g c.ops) [.script f]).step (.ret c.result c.endTime) =
        (f.leave c.result c.endTime (run outputStep g c.ops)).2.unwind []
          (f.leave c.result c.endTime (run outputStep g c.ops)).1 := rfl
    have hlength :
        (f.leave c.result c.endTime (run outputStep g c.ops)).2.providers.length ≤ n := by
      rw [(leave_spec ..).2]
      show (exitProviders _ _).length ≤ n
      rcases f.startVMEnabled <;> simp [exitProviders]
      omega
    rw [hscript, outputOps_simulated, Runs.run_cons, hret]
    exact unwind_complete _ _ _ n hlength
  · have hlength := begin_length hbegin
    have hunwind : run Session.step (Session.enter [] (g, .inr (t, hr))) (cleanedUps n) =
        ⟨t.complete g, []⟩ := unwind_complete t.rest t.providers g n (by omega)
    rw [hunwind, outputOps_idle]
    exact cleanedUps_idle ⟨t.complete g, []⟩ rfl n

/-! ## What is running -/

/-- Executed commands do not touch provider instances themselves. -/
def Frame.isWork : Frame → Bool
  | .exec _ _ _ => false
  | _ => true

/-- The scripts and the `Cleanup` calls on the stack. -/
def work (stack : List Frame) : List Frame := stack.filter Frame.isWork

def Session.work (s : Session) : List Frame := DbgScript.work s.stack

/-- The providers that a frame is about. -/
def Frame.providers : Frame → List ProviderPtr
  | .script f => [f.scriptProv]
  | .exec _ _ _ => []
  | .cleanup p _ t => p :: t.providers

/-- The providers that are unloaded once a frame has been left. -/
def Frame.unloads : Frame → List ProviderPtr
  | .script f => exitProviders f.startVMEnabled (some f.scriptProv)
  | .exec _ _ _ => []
  | .cleanup p _ t => p :: t.providers

/-- The frame is part of `DebugExtensionUninitialize`. -/
def Frame.Uninitializes : Frame → Prop
  | .cleanup _ _ t => t.rest = .unloadExtension
  | _ => False

theorem scripts_eq (s : Session) : s.scripts = s.work.filterMap Frame.script? := by
  unfold Session.scripts Session.work DbgScript.work
  rw [List.filterMap_filter]
  congr 1
  funext frame
  cases frame <;> rfl

theorem mem_scripts {s : Session} {f : ScriptFrame} : f ∈ s.scripts ↔ .script f ∈ s.work := by
  rw [scripts_eq, List.mem_filterMap]
  constructor
  · rintro ⟨frame, hmem, hf⟩
    cases frame with
    | script g =>
      cases hf
      exact hmem
    | exec e command scope => cases hf
    | cleanup p i t => cases hf
  · intro hmem
    exact ⟨_, hmem, rfl⟩

@[simp] theorem work_nil : work [] = [] := rfl

@[simp] theorem work_script (f : ScriptFrame) (stack : List Frame) :
    work (.script f :: stack) = .script f :: work stack := rfl

@[simp] theorem work_cleanup (p : ProviderPtr) (i : Instance) (t : Teardown) (stack : List Frame) :
    work (.cleanup p i t :: stack) = .cleanup p i t :: work stack := rfl

@[simp] theorem work_exec (e : ExecEnv) (command : AnsiStr) (scope : ExecScope)
    (stack : List Frame) : work (.exec e command scope :: stack) = work stack := rfl

/-! ## Unwinding -/

variable {h h' : Host}

/-- Where the unloading of the providers `ps` gets to: none has an instance, or the
    `Cleanup` of the first one that has is called. -/
inductive Unwound (stack : List Frame) (rest : Rest) (ps : List ProviderPtr) (h : Host) :
    Session → Prop
  | done (hnone : ∀ p ∈ ps, h.pool.slot p = none) : Unwound stack rest ps h ⟨rest.run h, stack⟩
  | cleaning (skipped ps' : List ProviderPtr) (p : ProviderPtr) (i : Instance)
    (hps : ps = skipped ++ p :: ps') (hnone : ∀ q ∈ skipped, h.pool.slot q = none)
    (hslot : h.pool.slot p = some i) :
    Unwound stack rest ps h ⟨h.emit (.prov (.cleanup i)), .cleanup p i ⟨ps', rest⟩ :: stack⟩

theorem unwind_cases (stack : List Frame) (rest : Rest) (ps : List ProviderPtr) (h : Host) :
    Unwound stack rest ps h (Session.unwind stack rest ps h) := by
  induction ps with
  | nil => exact .done (by simp)
  | cons p ps ih =>
    rw [Session.unwind]
    cases hslot : (h.info p).scriptProvider with
    | some i => exact .cleaning [] ps p i rfl (by simp) hslot
    | none =>
      have hp : h.pool.slot p = none := hslot
      show Unwound stack rest (p :: ps) h (Session.unwind stack rest ps h)
      generalize Session.unwind stack rest ps h = s at ih ⊢
      cases ih with
      | done hnone => exact .done (List.forall_mem_cons.mpr ⟨hp, hnone⟩)
      | cleaning skipped ps' q i hps hnone hq =>
        refine .cleaning (p :: skipped) ps' q i (by rw [hps]; rfl) ?_ hq
        exact List.forall_mem_cons.mpr ⟨hp, hnone⟩

/-- The rest of a command does not touch the instances, and only the one of
    `DebugExtensionUninitialize` touches the list. -/
theorem rest_spec (rest : Rest) (h : Host) :
    (rest.run h).pool = h.pool ∧ (rest.run h).nextNode = h.nextNode ∧
      (rest.run h).ctx.scriptProviders =
        if rest = .unloadExtension then [] else h.ctx.scriptProviders := by
  cases rest with
  | returns => exact ⟨rfl, rfl, rfl⟩
  | exit command hr =>
    have hquiet := (quiet_exitRest command hr h).sameProviders
    exact ⟨hquiet.pool, hquiet.nextNode, hquiet.scriptProviders⟩
  | stopvm => exact ⟨rfl, rfl, rfl⟩
  | unloadExtension =>
    have hcom := (release_spec h.forgetProviders).1.providers
    exact ⟨hcom.pool, hcom.nextNode, hcom.scriptProviders⟩

/-- A provider that has an instance is reached, or it is still to be unloaded. -/
theorem unwind_reaches (stack : List Frame) (rest : Rest) {ps : List ProviderPtr} {p : ProviderPtr}
    {i : Instance} (hp : p ∈ ps) (hslot : h.pool.slot p = some i) :
    ∃ q j ps', p ∈ q :: ps' ∧ h.pool.slot q = some j ∧ Session.unwind stack rest ps h =
      ⟨h.emit (.prov (.cleanup j)), .cleanup q j ⟨ps', rest⟩ :: stack⟩ := by
  have hcases := unwind_cases stack rest ps h
  generalize Session.unwind stack rest ps h = s at hcases
  cases hcases with
  | done hnone =>
    rw [hnone p hp] at hslot
    cases hslot
  | cleaning skipped ps' q j hps hnone hq =>
    refine ⟨q, j, ps', ?_, hq, rfl⟩
    rw [hps] at hp
    rcases List.mem_append.mp hp with hp | hp
    · rw [hnone p hp] at hslot
      cases hslot
    · exact hp

/-- Unwinding ends no script. -/
theorem scripts_unwind (stack : List Frame) (rest : Rest) (ps : List ProviderPtr) (h : Host) :
    (Session.unwind stack rest ps h).scripts = stack.filterMap Frame.script? := by
  have hcases := unwind_cases stack rest ps h
  generalize Session.unwind stack rest ps h = s at hcases
  cases hcases with
  | done hnone => rfl
  | cleaning skipped ps' p i hps hnone hslot => rfl

theorem work_unwind (stack : List Frame) (rest : Rest) (ps : List ProviderPtr) (h : Host) :
    (work stack).Sublist (Session.unwind stack rest ps h).work := by
  have hcases := unwind_cases stack rest ps h
  generalize Session.unwind stack rest ps h = s at hcases
  cases hcases with
  | done hnone => exact List.Sublist.refl _
  | cleaning skipped ps' p i hps hnone hslot => exact List.sublist_cons_self _ _

/-- What unwinding does to the instances: it cleans up at most one. -/
theorem pool_unwind (stack : List Frame) (rest : Rest) (ps : List ProviderPtr) (h : Host) :
    ∃ as, (Session.unwind stack rest ps h).host.pool = run Pool.step h.pool as ∧
      ∀ a ∈ as, ∃ p ∈ ps, a = .cleanup p := by
  have hcases := unwind_cases stack rest ps h
  generalize Session.unwind stack rest ps h = s at hcases
  cases hcases with
  | done hnone => exact ⟨[], (rest_spec rest h).1, by simp⟩
  | cleaning skipped ps' p i hps hnone hslot =>
    refine ⟨[.cleanup p], pool_cleanup h hslot, ?_⟩
    rw [List.forall_mem_singleton]
    exact ⟨p, by rw [hps]; simp, rfl⟩

/-! ## What one step can do -/

/-- The provider instances, the registered providers and what is running are unchanged. -/
structure Idle (s s' : Session) : Prop where
  pool : s'.host.pool = s.host.pool
  scriptProviders : s'.host.ctx.scriptProviders = s.host.ctx.scriptProviders
  nextNode : s'.host.nextNode = s.host.nextNode
  work : s'.work = s.work

/-- The provider that a script command tries to load. -/
def loadTarget (s : Session) (command : ScriptCommand) (client : ClientId) (args : AnsiStr)
    (env : CommandEnv) : Option ProviderPtr :=
  (loadPoint (.script command) env client args s.host).map Prod.snd

/-- What a step has left to do when it begins to unload providers: on which stack, and what
    it has done to the instances before. -/
inductive Unwinds (s : Session) :
    Label → List Frame → Teardown → List (Slots.Action ProviderPtr) → Prop
  | exit (command : ScriptCommand) (client : ClientId) (args : AnsiStr) (env : CommandEnv)
    (p : ProviderPtr) (hr : HRESULT) (haccepts : s.accepts = true)
    (htarget : loadTarget s command client args env = some p) :
    Unwinds s (.call (.script command) client args env) s.stack
      ⟨exitProviders s.host.ctx.startVMEnabled (some p), .exit command hr⟩ [.load p true]
  | stopvm (client : ClientId) (args : AnsiStr) (env : CommandEnv) (haccepts : s.accepts = true)
    (hvm : s.host.ctx.startVMEnabled = true)
    (hacquired : FAILED (reAcquireIfacesIfNeeded env.qi client s.host).2 = false) :
    Unwinds s (.call .stopvm client args env) s.stack ⟨s.host.ctx.scriptProviders, .stopvm⟩ []
  | unloadExtension (hstack : s.stack = []) :
    Unwinds s .unloadExtension [] ⟨s.host.ctx.scriptProviders, .unloadExtension⟩ []
  | ret (hr : HRESULT) (endTime : BitVec 32) (f : ScriptFrame) (stack : List Frame)
    (hstack : s.stack = .script f :: stack) :
    Unwinds s (.ret hr endTime) stack
      ⟨exitProviders f.startVMEnabled (some f.scriptProv), .exit f.command hr⟩ []
  | cleanedUp (p : ProviderPtr) (i : Instance) (t : Teardown) (stack : List Frame)
    (hstack : s.stack = .cleanup p i t :: stack) : Unwinds s .cleanedUp stack t [.free p]

/-- What one step can do to the provider instances and to what is running. -/
inductive Change (s : Session) : Label → Session → Prop
  | idle {l : Label} {s' : Session} (h : Idle s s') : Change s l s'
  | loadExtension (e : InitEnv) (hstack : s.stack = []) :
    Change s (.loadExtension e) ⟨(debugExtensionInitialize e s.host).1, []⟩
  | loadFailed {s' : Session} (command : ScriptCommand) (client : ClientId) (args : AnsiStr)
    (env : CommandEnv) (p : ProviderPtr) (haccepts : s.accepts = true)
    (htarget : loadTarget s command client args env = some p) (hslot : s.host.pool.slot p = none)
    (hpool : s'.host.pool = s.host.pool.step (.load p false)) (hwork : s'.work = s.work)
    (hlist : SameList s.host s'.host) : Change s (.call (.script command) client args env) s'
  | started {s' : Session} (command : ScriptCommand) (client : ClientId) (args : AnsiStr)
    (env : CommandEnv) (f : ScriptFrame) (haccepts : s.accepts = true)
    (htarget : loadTarget s command client args env = some f.scriptProv)
    (hvm : f.startVMEnabled = s.host.ctx.startVMEnabled)
    (hinst : f.inst = (s.host.pool.step (.load f.scriptProv true)).slot f.scriptProv)
    (hpool : s'.host.pool =
      run Pool.step s.host.pool [.load f.scriptProv true, .use f.scriptProv])
    (hwork : s'.work = .script f :: s.work) (hlist : SameList s.host s'.host) :
    Change s (.call (.script command) client args env) s'
  | unwinds {l : Label} {g : Host} {stack : List Frame} {t : Teardown}
    {as : List (Slots.Action ProviderPtr)} (hunwinds : Unwinds s l stack t as)
    (hpool : g.pool = run Pool.step s.host.pool as) (hlist : SameList s.host g) :
    Change s l (t.unwind stack g)

theorem idle_refl (s : Session) : Idle s s := ⟨rfl, rfl, rfl, rfl⟩

theorem idle_of_sameProviders {s : Session} {h : Host} {stack : List Frame}
    (hsame : SameProviders s.host h) (hwork : work stack = s.work) : Idle s ⟨h, stack⟩ :=
  ⟨hsame.pool, hsame.scriptProviders, hsame.nextNode, hwork⟩

/-- A command that has nothing to unload. -/
theorem unwind_nil (command : ScriptCommand) (vm : Bool) (hr : HRESULT) (stack : List Frame)
    (h : Host) : SameProviders h ((command.exitTeardown vm none hr).1.unwind stack h).host ∧
      ((command.exitTeardown vm none hr).1.unwind stack h).stack = stack := by
  have hunwind : (command.exitTeardown vm none hr).1.unwind stack h =
      ⟨Rest.run (.exit command hr) h, stack⟩ := by
    unfold ScriptCommand.exitTeardown Teardown.unwind
    rw [exitProviders_none]
    rfl
  rw [hunwind]
  exact ⟨(quiet_exitRest command hr h).sameProviders, rfl⟩

theorem change_script (s : Session) (command : ScriptCommand) (client : ClientId) (args : AnsiStr)
    (env : CommandEnv) (haccepts : s.accepts = true) :
    Change s (.call (.script command) client args env)
      (Session.enter s.stack ((Command.script command).begin env client args s.host)) := by
  obtain ⟨hlist, heffect⟩ := begin_effect command env client args s.host
  generalize (Command.script command).begin env client args s.host = r at hlist heffect ⊢
  obtain ⟨g, res⟩ := r
  dsimp only at hlist heffect
  cases heffect with
  | notReached hr ht hs =>
    obtain ⟨hsame, hstack⟩ := unwind_nil command s.host.ctx.startVMEnabled hr s.stack g
    refine .idle ⟨hsame.pool.trans hs, hsame.scriptProviders.trans hlist.scriptProviders,
      hsame.nextNode.trans hlist.nextNode, congrArg DbgScript.work hstack⟩
  | loadFailed p hr ht hf hslot hs =>
    obtain ⟨hsame, hstack⟩ := unwind_nil command s.host.ctx.startVMEnabled hr s.stack g
    rcases hs with hs | hs
    · exact .idle ⟨hsame.pool.trans hs, hsame.scriptProviders.trans hlist.scriptProviders,
        hsame.nextNode.trans hlist.nextNode, congrArg DbgScript.work hstack⟩
    · exact .loadFailed command client args env p haccepts ht hslot (hsame.pool.trans hs)
        (congrArg DbgScript.work hstack) (hlist.trans hsame.sameList)
  | notRun p hr ht hf hs =>
    exact .unwinds (.exit command client args env p hr haccepts ht) hs hlist
  | running p f ht hcommand hprov hvm hinst hs =>
    rw [← hprov] at ht hinst hs
    exact .started command client args env f haccepts ht hvm hinst hs rfl hlist

theorem change_call (s : Session) (command : Command) (client : ClientId) (args : AnsiStr)
    (env : CommandEnv) (haccepts : s.accepts = true) :
    Change s (.call command client args env)
      (Session.enter s.stack (command.begin env client args s.host)) := by
  cases command with
  | script command => exact change_script s command client args env haccepts
  | scriptpath => exact .idle (idle_of_sameProviders (sameProviders_scriptpath ..) rfl)
  | startvm =>
    rcases startvm_cases env client s.host with ⟨-, hsame⟩ | ⟨-, -, -, hpool, hlist, hnode⟩
    · exact .idle (idle_of_sameProviders hsame rfl)
    · exact .idle ⟨hpool, hlist, hnode, rfl⟩
  | stopvm =>
    have hok := @stopvm_ok_iff env client s.host
    have hstop : (stopvm env client s.host).2 = (beginStopvm env client s.host).2.2 := rfl
    obtain ⟨hsame, hcases⟩ := beginStopvm_cases env client s.host
    show Change s _ ((beginStopvm env client s.host).2.1.unwind s.stack
      (beginStopvm env client s.host).1)
    rcases hcases with ⟨-, ht⟩ | ⟨haccepted, hvm, ht⟩
    · rw [ht]
      exact .idle (idle_of_sameProviders hsame rfl)
    · rw [ht]
      rw [← hstop, hok] at haccepted
      exact .unwinds (.stopvm client args env haccepts hvm haccepted.1) hsame.pool hsame.sameList

/-- What one step can do. -/
theorem step_change (s : Session) (l : Label) : Change s l (s.step l) := by
  cases l with
  | loadExtension e =>
    rcases hstack : s.stack with _ | ⟨frame, stack⟩
    · rw [show s.step (.loadExtension e) = _ by rw [Session.step, hstack]]
      exact .loadExtension e hstack
    · rw [show s.step (.loadExtension e) = s by rw [Session.step, hstack]]
      exact .idle (idle_refl s)
  | unloadExtension =>
    rcases hstack : s.stack with _ | ⟨frame, stack⟩
    · rw [show s.step .unloadExtension = _ by rw [Session.step, hstack]]
      exact .unwinds (.unloadExtension hstack) rfl (SameList.refl s.host)
    · rw [show s.step .unloadExtension = s by rw [Session.step, hstack]]
      exact .idle (idle_refl s)
  | call command client args env =>
    rw [Session.step]
    split_ifs with haccepts
    · exact change_call s command client args env haccepts
    · exact .idle (idle_refl s)
  | buffer op =>
    rw [Session.step]
    split_ifs
    · exact .idle (idle_of_sameProviders (quiet_bufferStep _ _).sameProviders rfl)
    · exact .idle (idle_refl s)
  | execute e command =>
    have hexec := (quiet_execBegin e command s.host).sameProviders
    rw [Session.step]
    split_ifs
    · split
      · next heq =>
        rw [heq] at hexec
        exact .idle (idle_of_sameProviders hexec rfl)
      · next heq =>
        rw [heq] at hexec
        exact .idle (idle_of_sameProviders hexec rfl)
    · exact .idle (idle_refl s)
  | callback mask text =>
    rw [Session.step]
    split_ifs
    · exact .idle (idle_of_sameProviders (quiet_captureOutput _ _ _).sameProviders rfl)
    · exact .idle (idle_refl s)
  | executed =>
    rw [Session.step]
    split
    · next hstack =>
      refine .idle (idle_of_sameProviders (quiet_execEnd _ _ _ _).sameProviders ?_)
      rw [Session.work, hstack, work_exec]
    · exact .idle (idle_refl s)
  | ret hr endTime =>
    rw [Session.step]
    split
    · next f stack hstack =>
      have hquiet := (quiet_leave f hr endTime s.host).sameProviders
      exact .unwinds (.ret hr endTime f stack hstack) hquiet.pool hquiet.sameList
    · exact .idle (idle_refl s)
  | cleanedUp =>
    rw [Session.step]
    split
    · next p i t stack hstack =>
      exact .unwinds (.cleanedUp p i t stack hstack) (pool_endUnload s.host p)
        (onlyProviders_endUnload s.host p).sameList
    · exact .idle (idle_refl s)

/-- A script command that gets to load a provider that has an instance starts a script on
    it or goes on to unload it. -/
theorem step_script {s : Session} {command : ScriptCommand} {client : ClientId} {args : AnsiStr}
    {env : CommandEnv} {p : ProviderPtr} {i : Instance} (haccepts : s.accepts = true)
    (htarget : loadTarget s command client args env = some p)
    (hslot : s.host.pool.slot p = some i) :
    (∃ f, f.scriptProv = p ∧ f.startVMEnabled = s.host.ctx.startVMEnabled ∧
        (s.step (.call (.script command) client args env)).work = .script f :: s.work) ∨
      ∃ g hr, g.pool = s.host.pool ∧ s.step (.call (.script command) client args env) =
        Teardown.unwind ⟨exitProviders s.host.ctx.startVMEnabled (some p), .exit command hr⟩
          s.stack g := by
  have hstep : s.step (.call (.script command) client args env) = Session.enter s.stack
      ((Command.script command).begin env client args s.host) := by
    rw [Session.step, if_pos haccepts]
  obtain ⟨-, heffect⟩ := begin_effect command env client args s.host
  unfold loadTarget at htarget
  rw [htarget] at heffect
  rw [hstep]
  generalize (Command.script command).begin env client args s.host = r at heffect ⊢
  obtain ⟨g, res⟩ := r
  cases heffect with
  | notReached hr ht hs => cases ht
  | loadFailed q hr ht hf hnone hs =>
    cases ht
    rw [hslot] at hnone
    cases hnone
  | notRun q hr ht hf hs =>
    cases ht
    rw [Slots.step_load_some hslot] at hs
    exact Or.inr ⟨g, hr, hs, rfl⟩
  | running q f ht hcommand hprov hvm hinst hs =>
    cases ht
    exact Or.inl ⟨f, hprov, hvm, rfl⟩

/-- A `stopvm` that gets past its checks goes on to unload all providers. -/
theorem step_stopvm {s : Session} {client : ClientId} (args : AnsiStr) {env : CommandEnv}
    (haccepts : s.accepts = true) (hvm : s.host.ctx.startVMEnabled = true)
    (hacquired : FAILED (reAcquireIfacesIfNeeded env.qi client s.host).2 = false) :
    ∃ g, g.pool = s.host.pool ∧ s.step (.call .stopvm client args env) =
      Teardown.unwind ⟨s.host.ctx.scriptProviders, .stopvm⟩ s.stack g := by
  have hstep : s.step (.call .stopvm client args env) =
      (beginStopvm env client s.host).2.1.unwind s.stack (beginStopvm env client s.host).1 := by
    rw [Session.step, if_pos haccepts]
    rfl
  have hok : FAILED (beginStopvm env client s.host).2.2 = false :=
    stopvm_ok_iff.mpr ⟨hacquired, hvm⟩
  obtain ⟨hsame, ⟨hfail, -⟩ | ⟨-, -, ht⟩⟩ := beginStopvm_cases env client s.host
  · rw [hok] at hfail
    cases hfail
  · exact ⟨_, hsame.pool, by rw [hstep, ht]⟩

/-! ## What will be unloaded from above -/

/-- Something above the frame `low` on the stack will unload `p`. -/
def Undercut (w : List Frame) (low : Frame) (p : ProviderPtr) : Prop :=
  ∃ frame, [frame, low].Sublist w ∧ p ∈ frame.unloads

section Undercut

variable {w w' : List Frame} {low : Frame} {p : ProviderPtr} {i : Instance}

theorem Undercut.mem (hu : Undercut w low p) : low ∈ w := by
  obtain ⟨frame, hsub, -⟩ := hu
  exact hsub.subset (List.mem_cons_of_mem _ (List.mem_singleton_self _))

theorem Undercut.mono (hu : Undercut w low p) (hw : w.Sublist w') : Undercut w' low p := by
  obtain ⟨frame, hsub, hp⟩ := hu
  exact ⟨frame, hsub.trans hw, hp⟩

theorem undercut_cons {frame : Frame} (hlow : low ∈ w) (hp : p ∈ frame.unloads) :
    Undercut (frame :: w) low p :=
  ⟨frame, List.cons_sublist_cons.mpr (List.singleton_sublist.mpr hlow), hp⟩

/-- A frame is undercut by the top of the stack, or by something below that. -/
theorem undercut_cons_iff {frame : Frame} :
    Undercut (frame :: w) low p ↔ Undercut w low p ∨ low ∈ w ∧ p ∈ frame.unloads := by
  constructor
  · rintro ⟨frame', hsub, hp⟩
    rcases List.sublist_cons_iff.mp hsub with hsub | ⟨rest, heq, hsub⟩
    · exact Or.inl ⟨frame', hsub, hp⟩
    · obtain ⟨rfl, rfl⟩ := List.cons.inj heq
      exact Or.inr ⟨List.singleton_sublist.mp hsub, hp⟩
  · rintro (hu | ⟨hlow, hp⟩)
    · exact hu.mono (List.sublist_cons_self _ _)
    · exact undercut_cons hlow hp

/-- Unwinding does not get past a provider that has an instance. -/
theorem undercut_unwind {stack : List Frame} {rest : Rest} {ps : List ProviderPtr}
    (hlow : low ∈ DbgScript.work stack) (hp : p ∈ ps) (hslot : h.pool.slot p = some i) :
    Undercut (Session.unwind stack rest ps h).work low p := by
  obtain ⟨q, j, ps', hq, -, hunwind⟩ := unwind_reaches stack rest hp hslot
  rw [hunwind]
  exact undercut_cons hlow hq

/-- A script command with the VM off that gets to load the provider. -/
theorem undercut_script {s : Session} {command : ScriptCommand} {client : ClientId}
    {args : AnsiStr} {env : CommandEnv} (haccepts : s.accepts = true)
    (hvm : s.host.ctx.startVMEnabled = false)
    (htarget : loadTarget s command client args env = some p)
    (hslot : s.host.pool.slot p = some i) (hlow : low ∈ s.work) :
    Undercut (s.step (.call (.script command) client args env)).work low p := by
  rcases step_script haccepts htarget hslot with ⟨f, hprov, hoff, hwork⟩ | ⟨g, hr, hpool, hstep⟩
  · rw [hwork]
    refine undercut_cons hlow ?_
    rw [Frame.unloads, mem_exitProviders, hprov]
    exact ⟨hoff.trans hvm, rfl⟩
  · rw [hstep]
    rw [← hpool] at hslot
    exact undercut_unwind hlow (mem_exitProviders.mpr ⟨hvm, rfl⟩) hslot

/-- A `stopvm` that gets past its checks. -/
theorem undercut_stopvm {s : Session} {client : ClientId} (args : AnsiStr) {env : CommandEnv}
    (haccepts : s.accepts = true) (hvm : s.host.ctx.startVMEnabled = true)
    (hacquired : FAILED (reAcquireIfacesIfNeeded env.qi client s.host).2 = false)
    (hp : p ∈ s.host.ctx.scriptProviders) (hslot : s.host.pool.slot p = some i)
    (hlow : low ∈ s.work) : Undercut (s.step (.call .stopvm client args env)).work low p := by
  obtain ⟨g, hpool, hstep⟩ := step_stopvm args haccepts hvm hacquired
  rw [hstep]
  rw [← hpool] at hslot
  exact undercut_unwind hlow hp hslot

/-- A frame that is undercut stays so until a `Cleanup` above it that is one of its provider
    returns. -/
theorem undercut_step {s : Session} {l : Label} (hu : Undercut s.work low p)
    (hslot : s.host.pool.slot p = some i) :
    Undercut (s.step l).work low p ∨
      ∃ j t stack, l = .cleanedUp ∧ s.stack = .cleanup p j t :: stack ∧
        low ∈ DbgScript.work stack := by
  have hchange := step_change s l
  generalize s.step l = s' at hchange
  cases hchange with
  | idle h => exact Or.inl (by rwa [h.work])
  | loadExtension e hstack =>
    rw [Session.work, hstack] at hu
    exact absurd hu.mem List.not_mem_nil
  | loadFailed command client args env q haccepts htarget hnone hpool hwork hlist =>
    exact Or.inl (by rwa [hwork])
  | started command client args env f haccepts htarget hvm hinst hpool hwork hlist =>
    exact Or.inl (hu.mono (by rw [hwork]; exact List.sublist_cons_self _ _))
  | @unwinds _ g stack t as hunwinds hpool hlist =>
    have hkept : Undercut (DbgScript.work stack) low p → Undercut (t.unwind stack g).work low p :=
      fun h => h.mono (work_unwind stack t.rest t.providers g)
    cases hunwinds with
    | exit command client args env q hr haccepts htarget => exact Or.inl (hkept hu)
    | stopvm client args env haccepts hvm hacquired => exact Or.inl (hkept hu)
    | unloadExtension hstack =>
      rw [Session.work, hstack] at hu
      exact absurd hu.mem List.not_mem_nil
    | ret hr endTime f stack hstack =>
      rw [Session.work, hstack, work_script, undercut_cons_iff] at hu
      rcases hu with hu | ⟨hlow, hp⟩
      · exact Or.inl (hkept hu)
      · -- the command that returns is the one that unloads
        rw [Runs.run_nil] at hpool
        rw [← hpool] at hslot
        exact Or.inl (undercut_unwind hlow hp hslot)
    | cleanedUp q j t stack hstack =>
      rw [Session.work, hstack, work_cleanup, undercut_cons_iff] at hu
      rcases hu with hu | ⟨hlow, hp⟩
      · exact Or.inl (hkept hu)
      · by_cases hq : p = q
        · subst hq
          exact Or.inr ⟨j, t, stack, rfl, hstack, hlow⟩
        · have hrest : p ∈ t.providers := (List.mem_cons.mp hp).resolve_left hq
          have hkeeps : g.pool.slot p = some i := by
            rw [hpool]
            exact (Slots.slot_free_of_ne hq).trans hslot
          exact Or.inl (undercut_unwind hlow hrest hkeeps)

end Undercut

/-! ## The invariant of the providers -/

/-- The invariant of the providers: instances are well kept, no new node has one, and new
    nodes are new. -/
structure HostOk (h : Host) : Prop where
  pool : h.pool.Ok
  slots : ∀ p, h.pool.slot p ≠ none → p < h.nextNode
  nodes : ∀ p ∈ h.ctx.scriptProviders, p < h.nextNode

theorem hostOk_fresh (routing : ClientId → Option OutputCb) : HostOk (Host.fresh routing) :=
  ⟨(Slots.tidy_empty _ (fun _ => rfl) _).toOk, fun _ hp => absurd rfl hp,
    fun _ hp => absurd hp (by simp [Host.fresh])⟩

/-- Loading registered providers, using and unloading them. -/
theorem hostOk_actions (hok : HostOk h) (as : List (Slots.Action ProviderPtr))
    (has : ∀ p ok, .load p ok ∈ as → p ∈ h.ctx.scriptProviders)
    (hpool : h'.pool = run Pool.step h.pool as)
    (hlist : ∀ p ∈ h'.ctx.scriptProviders, p ∈ h.ctx.scriptProviders)
    (hnode : h'.nextNode = h.nextNode) : HostOk h' := by
  refine ⟨?_, ?_, ?_⟩
  · rw [hpool]
    exact Slots.ok_run hok.pool as
  · intro p hp
    rw [hpool] at hp
    rw [hnode]
    rcases Slots.slot_run_ne_none hp with hp | ⟨ok, hp⟩
    · exact hok.slots p hp
    · exact hok.nodes p (has p ok hp)
  · intro p hp
    rw [hnode]
    exact hok.nodes p (hlist p hp)

/-- Registration does not touch the instances. -/
theorem OnlyRegisters.pool (hreg : OnlyRegisters h h') (hok : HostOk h) : h'.pool = h.pool := by
  have hslot : h'.pool.slot = h.pool.slot := by
    funext p
    rcases hreg.slot p with hp | ⟨hle, hp⟩
    · exact hp
    · by_contra hne
      rw [hp] at hne
      exact absurd (hok.slots p fun h0 => hne h0.symm) (Nat.not_lt.mpr hle)
  have htrace : h'.pool.trace = h.pool.trace := congrArg (List.filterMap _) hreg.provCalls
  have hnext : h'.pool.next = h.pool.next := hreg.nextSerial
  calc h'.pool = ⟨h'.pool.slot, h'.pool.next, h'.pool.trace⟩ := rfl
    _ = h.pool := by rw [hslot, hnext, htrace]

theorem hostOk_loadExtension (hok : HostOk h) (e : InitEnv) :
    HostOk (debugExtensionInitialize e h).1 ∧ (debugExtensionInitialize e h).1.pool = h.pool := by
  obtain ⟨g, hcom, hreg⟩ := loadExtension_spec e h
  have hlist := hcom.providers.scriptProviders
  have hg : HostOk g := hostOk_actions hok [] (by simp) hcom.providers.pool
    (fun p hp => by rwa [hlist] at hp) hcom.providers.nextNode
  have hpool := hreg.pool hg
  obtain ⟨ps, hps, hlt⟩ := hreg.scriptProviders
  refine ⟨⟨?_, ?_, ?_⟩, hpool.trans hcom.providers.pool⟩
  · rw [hpool]
    exact hg.pool
  · intro p hp
    rw [hpool] at hp
    exact (hg.slots p hp).trans_le hreg.nextNode
  · intro p hp
    rw [hps] at hp
    rcases List.mem_append.mp hp with hp | hp
    · exact hlt p hp
    · exact (hg.nodes p hp).trans_le hreg.nextNode

/-- Unwinding keeps the invariant of the providers. -/
theorem hostOk_unwind (hok : HostOk h) (stack : List Frame) (t : Teardown) :
    HostOk (t.unwind stack h).host := by
  have hcases := unwind_cases stack t.rest t.providers h
  unfold Teardown.unwind
  generalize Session.unwind stack t.rest t.providers h = s at hcases ⊢
  cases hcases with
  | done hnone =>
    obtain ⟨hpool, hnode, hlist⟩ := rest_spec t.rest h
    refine hostOk_actions hok [] (by simp) hpool (fun p hp => ?_) hnode
    rw [hlist] at hp
    split_ifs at hp
    · cases hp
    · exact hp
  | cleaning skipped ps' p i hps hnone hslot =>
    exact hostOk_actions hok [.cleanup p] (by simp) (pool_cleanup h hslot) (fun _ hp => hp) rfl

/-! ## The invariant of the stack -/

/-- The invariant of a session: what is running is about registered providers, and
    `DebugExtensionUninitialize` is called by the debugger only. -/
structure SessionOk (s : Session) : Prop where
  host : HostOk s.host
  registered : ∀ frame ∈ s.work, ∀ p ∈ frame.providers, p ∈ s.host.ctx.scriptProviders
  bottom : s.work.Pairwise fun frame _ => ¬ frame.Uninitializes

theorem sessionOk_of_work_nil {s : Session} (hok : HostOk s.host) (hwork : s.work = []) :
    SessionOk s := by
  refine ⟨hok, ?_, ?_⟩
  · rw [hwork]
    simp
  · rw [hwork]
    exact List.Pairwise.nil

theorem sessionOk_fresh (routing : ClientId → Option OutputCb) :
    SessionOk (Session.fresh routing) :=
  sessionOk_of_work_nil (hostOk_fresh routing) rfl

/-- One more frame. -/
theorem SessionOk.push {s s' : Session} {frame : Frame} (hs : SessionOk s) (hok : HostOk s'.host)
    (hlist : s'.host.ctx.scriptProviders = s.host.ctx.scriptProviders)
    (hwork : s'.work = frame :: s.work)
    (hreg : ∀ p ∈ frame.providers, p ∈ s.host.ctx.scriptProviders)
    (hend : frame.Uninitializes → s.work = []) : SessionOk s' := by
  refine ⟨hok, ?_, ?_⟩
  · rw [hwork, hlist]
    exact List.forall_mem_cons.mpr ⟨hreg, hs.registered⟩
  · rw [hwork]
    refine List.Pairwise.cons (fun below hmem hun => ?_) hs.bottom
    rw [hend hun] at hmem
    cases hmem

theorem SessionOk.same {s s' : Session} (hs : SessionOk s) (hok : HostOk s'.host)
    (hlist : s'.host.ctx.scriptProviders = s.host.ctx.scriptProviders) (hwork : s'.work = s.work) :
    SessionOk s' := by
  refine ⟨hok, ?_, ?_⟩
  · rw [hwork, hlist]
    exact hs.registered
  · rw [hwork]
    exact hs.bottom

/-- What is left to do is about registered providers, and below the end of
    `DebugExtensionUninitialize` there is nothing. -/
theorem Unwinds.spec {s : Session} {l : Label} {stack : List Frame} {t : Teardown}
    {as : List (Slots.Action ProviderPtr)} (hu : Unwinds s l stack t as) (hs : SessionOk s) :
    work stack <:+ s.work ∧ (∀ p ∈ t.providers, p ∈ s.host.ctx.scriptProviders) ∧
      (t.rest = .unloadExtension → work stack = []) ∧
      ∀ p ok, .load p ok ∈ as → p ∈ s.host.ctx.scriptProviders := by
  cases hu with
  | exit command client args env p hr haccepts htarget =>
    obtain ⟨⟨g, q⟩, hpoint, rfl⟩ := Option.map_eq_some_iff.mp htarget
    have hp := (loadPoint_spec hpoint).1
    refine ⟨List.suffix_rfl, ?_, by simp, by simpa using hp⟩
    exact fun r hr => Option.some.inj (mem_exitProviders.mp hr).2 ▸ hp
  | stopvm client args env haccepts hvm hacquired =>
    exact ⟨List.suffix_rfl, fun _ hp => hp, by simp, by simp⟩
  | unloadExtension hstack =>
    exact ⟨List.nil_suffix, fun _ hp => hp, fun _ => rfl, by simp⟩
  | ret hr endTime f stack hstack =>
    have hwork : s.work = .script f :: work stack := by rw [Session.work, hstack, work_script]
    have hp := hs.registered (.script f) (by rw [hwork]; exact List.mem_cons_self) f.scriptProv
      (List.mem_singleton_self _)
    refine ⟨by rw [hwork]; exact List.suffix_cons _ _, ?_, by simp, by simp⟩
    exact fun r hr => Option.some.inj (mem_exitProviders.mp hr).2 ▸ hp
  | cleanedUp p i t stack hstack =>
    have hwork : s.work = .cleanup p i t :: work stack := by rw [Session.work, hstack, work_cleanup]
    have hp := hs.registered (.cleanup p i t) (by rw [hwork]; exact List.mem_cons_self)
    have hbottom := hs.bottom
    rw [hwork, List.pairwise_cons] at hbottom
    refine ⟨by rw [hwork]; exact List.suffix_cons _ _,
      fun q hq => hp q (List.mem_cons_of_mem _ hq), fun hrest => ?_, by simp⟩
    by_contra hne
    obtain ⟨below, hbelow⟩ := List.exists_mem_of_ne_nil _ hne
    exact hbottom.1 below hbelow hrest

/-- Unwinding keeps the invariant. -/
theorem sessionOk_unwind {s : Session} {stack : List Frame} {t : Teardown} {g : Host}
    (hs : SessionOk s) (hok : HostOk g)
    (hlist : g.ctx.scriptProviders = s.host.ctx.scriptProviders) (hstack : work stack <:+ s.work)
    (ht : ∀ p ∈ t.providers, p ∈ s.host.ctx.scriptProviders)
    (hend : t.rest = .unloadExtension → work stack = []) : SessionOk (t.unwind stack g) := by
  have hhost := hostOk_unwind hok stack t
  have hbase : SessionOk ⟨g, stack⟩ := by
    refine ⟨hok, fun frame hmem p hp => ?_, hs.bottom.sublist hstack.sublist⟩
    rw [hlist]
    exact hs.registered frame (hstack.subset hmem) p hp
  have hcases := unwind_cases stack t.rest t.providers g
  unfold Teardown.unwind at hhost ⊢
  generalize Session.unwind stack t.rest t.providers g = s' at hcases hhost ⊢
  cases hcases with
  | done hnone =>
    by_cases hrest : t.rest = .unloadExtension
    · exact sessionOk_of_work_nil hhost (hend hrest)
    · refine hbase.same hhost ?_ rfl
      rw [(rest_spec t.rest g).2.2, if_neg hrest]
  | cleaning skipped ps' p i hps hnone hslot =>
    refine hbase.push hhost rfl rfl (fun q hq => ?_) hend
    rw [hlist]
    apply ht q
    rw [hps]
    exact List.mem_append_right _ hq

/-- Every step keeps the invariant. -/
theorem sessionOk_step (s : Session) (l : Label) (hs : SessionOk s) : SessionOk (s.step l) := by
  have hchange := step_change s l
  generalize s.step l = s' at hchange
  cases hchange with
  | idle h =>
    refine hs.same (hostOk_actions hs.host [] (by simp) h.pool ?_ h.nextNode) h.scriptProviders
      h.work
    rw [h.scriptProviders]
    exact fun _ hp => hp
  | loadExtension e hstack => exact sessionOk_of_work_nil (hostOk_loadExtension hs.host e).1 rfl
  | loadFailed command client args env p haccepts htarget hslot hpool hwork hlist =>
    obtain ⟨⟨g, q⟩, hpoint, rfl⟩ := Option.map_eq_some_iff.mp htarget
    have hp := (loadPoint_spec hpoint).1
    refine hs.same (hostOk_actions hs.host [.load q false] (by simpa using hp) hpool ?_
      hlist.nextNode) hlist.scriptProviders hwork
    rw [hlist.scriptProviders]
    exact fun _ hp => hp
  | started command client args env f haccepts htarget hvm hinst hpool hwork hlist =>
    obtain ⟨⟨g, q⟩, hpoint, hq⟩ := Option.map_eq_some_iff.mp htarget
    have hp : f.scriptProv ∈ s.host.ctx.scriptProviders := hq ▸ (loadPoint_spec hpoint).1
    refine hs.push (hostOk_actions hs.host _ (by simpa using hp) hpool ?_ hlist.nextNode)
      hlist.scriptProviders hwork ?_ False.elim
    · rw [hlist.scriptProviders]
      exact fun _ hp => hp
    · exact fun p hmem => List.mem_singleton.mp hmem ▸ hp
  | unwinds hunwinds hpool hlist =>
    obtain ⟨hstack, ht, hend, hload⟩ := hunwinds.spec hs
    refine sessionOk_unwind hs (hostOk_actions hs.host _ hload hpool ?_ hlist.nextNode)
      hlist.scriptProviders hstack ht hend
    rw [hlist.scriptProviders]
    exact fun _ hp => hp

/-- What happens to the instances in a step is a run of the pool. -/
theorem step_pool (s : Session) (l : Label) (hok : HostOk s.host) :
    ∃ as, (s.step l).host.pool = run Pool.step s.host.pool as := by
  have hchange := step_change s l
  generalize s.step l = s' at hchange
  cases hchange with
  | idle h => exact ⟨[], h.pool⟩
  | loadExtension e hstack => exact ⟨[], (hostOk_loadExtension hok e).2⟩
  | loadFailed command client args env p haccepts htarget hslot hpool hwork hlist =>
    exact ⟨[.load p false], hpool⟩
  | started command client args env f haccepts htarget hvm hinst hpool hwork hlist =>
    exact ⟨_, hpool⟩
  | @unwinds _ g stack t as hunwinds hpool hlist =>
    obtain ⟨bs, hbs, -⟩ := pool_unwind stack t.rest t.providers g
    refine ⟨as ++ bs, ?_⟩
    rw [Runs.run_append, ← hpool]
    exact hbs

/-- What has happened to the instances is not forgotten. -/
theorem trace_step (s : Session) (l : Label) (hok : HostOk s.host) :
    s.host.pool.trace <+: (s.step l).host.pool.trace := by
  obtain ⟨as, hpool⟩ := step_pool s l hok
  rw [hpool]
  exact Slots.trace_run _ as

end DbgScript
