import DbgScript.Host.LiveProviders
import DbgScript.Lib.Ledger

/-!
# What happens to modules

A provider's module is loaded by `loadAndCreateScriptProvider` and freed by
`unloadScriptProvider`, and nothing else in the host deals with modules.

* `loadAndCreate_outcome`, `endUnload_outcome`: what a load takes, and an unload gives back.
* `step_modules`: what one step of a session does to modules.
-/

namespace DbgScript

open Ledger (Move owned)

/-! ## Model of the modules -/

def ProvCall.loads (p : ProviderPtr) : ProvCall → Bool
  | .loadLibrary q _ => q = p
  | _ => false

def ProvCall.frees (p : ProviderPtr) : ProvCall → Bool
  | .freeLibrary q _ => q = p
  | _ => false

/-- `Module` and the three callbacks are null. -/
structure ScriptProviderInfo.Unbound (i : ScriptProviderInfo) : Prop where
  module : i.module = none
  initFunc : i.initFunc = none
  cleanupFunc : i.cleanupFunc = none
  createFunc : i.createFunc = none

/-- The load gets a module and then fails: `LoadLibrary` succeeds, and `GetProcAddress`
    does not for one of the exports, or `CreateFunc` returns no object. -/
def LoadEnv.Leaks (e : LoadEnv) (info : ScriptProviderInfo) : Prop :=
  dllDirectory (info.dllFileName.chars.take (MAX_PATH - 1)) ≠ none ∧ e.setDllDirectory = none ∧
    (∃ m, e.loadLibrary = .ok m) ∧
      ((∃ f ∈ x_CallbackBindings, ∃ err, e.getProcAddress f = .error err) ∨ e.createFunc = false)

/-- What a call does to the owned modules. -/
def ProvCall.moduleMove? : ProvCall → Option (Move ProviderPtr)
  | .loadLibrary p _ => some (.acquire p)
  | .freeLibrary p _ => some (.release p)
  | _ => none

def Host.modules (h : Host) : List (Move ProviderPtr) := h.provCalls.filterMap ProvCall.moduleMove?

theorem count_acquire (h : Host) (p : ProviderPtr) :
    h.modules.count (.acquire p) = h.provCalls.countP (ProvCall.loads p) := by
  rw [Host.modules, List.count_filterMap]
  congr 1
  funext c
  cases c <;> simp [ProvCall.moduleMove?, ProvCall.loads, beq_eq_decide]

theorem count_release (h : Host) (p : ProviderPtr) :
    h.modules.count (.release p) = h.provCalls.countP (ProvCall.frees p) := by
  rw [Host.modules, List.count_filterMap]
  congr 1
  funext c
  cases c <;> simp [ProvCall.moduleMove?, ProvCall.frees, beq_eq_decide]

/-- From `h` to `h'` no node has been written, and no module loaded or freed. -/
structure SameModules (h h' : Host) : Prop where
  info : h'.info = h.info
  modules : h'.modules = h.modules

/-- From `h` to `h'` the node `p` has been written, and `new` done to the modules. -/
structure WritesNode (p : ProviderPtr) (i : ScriptProviderInfo) (new : List (Move ProviderPtr))
    (h h' : Host) : Prop where
  info : h'.info = Function.update h.info p i
  modules : h'.modules = h.modules ++ new

variable {h h' h'' : Host} {p : ProviderPtr}

theorem SameModules.refl (h : Host) : SameModules h h := ⟨rfl, rfl⟩

theorem SameModules.trans (h1 : SameModules h h') (h2 : SameModules h' h'') : SameModules h h'' :=
  ⟨h2.info.trans h1.info, h2.modules.trans h1.modules⟩

theorem SameProviders.sameModules (hs : SameProviders h h') : SameModules h h' :=
  ⟨hs.info, congrArg (List.filterMap ProvCall.moduleMove?) hs.provCalls⟩

theorem Quiet.sameModules (hq : Quiet h h') : SameModules h h' := hq.sameProviders.sameModules

theorem modules_prov (h : Host) (c : ProvCall) :
    (h.emit (.prov c)).modules = h.modules ++ c.moduleMove?.toList := by
  simp only [Host.modules, Host.provCalls, emit_log, List.filterMap_append]
  cases c <;> rfl

/-- A provider call that is not about a module. -/
theorem sameModules_prov (h : Host) {c : ProvCall} (hc : c.moduleMove? = none) :
    SameModules h (h.emit (.prov c)) := by
  refine ⟨rfl, ?_⟩
  rw [modules_prov, hc]
  simp

/-! ## Loading -/

theorem SameModules.writesNode (hs : SameModules h h') (p : ProviderPtr) :
    WritesNode p (h.info p) [] h h' := by
  refine ⟨?_, ?_⟩
  · rw [hs.info, Function.update_eq_self]
  · rw [hs.modules, List.append_nil]

theorem WritesNode.trans {i j : ScriptProviderInfo} {new new' : List (Move ProviderPtr)}
    (h1 : WritesNode p i new h h') (h2 : WritesNode p j new' h' h'') :
    WritesNode p j (new ++ new') h h'' := by
  refine ⟨?_, ?_⟩
  · rw [h2.info, h1.info, Function.update_idem]
  · rw [h2.modules, h1.modules, List.append_assoc]

theorem writesNode_setInfo (h : Host) (p : ProviderPtr) (i : ScriptProviderInfo) :
    WritesNode p i [] h (h.setInfo p i) :=
  ⟨rfl, (List.append_nil _).symm⟩

theorem writesNode_prov (h : Host) (p : ProviderPtr) (c : ProvCall) :
    WritesNode p (h.info p) c.moduleMove?.toList h (h.emit (.prov c)) :=
  ⟨(Function.update_eq_self p h.info).symm, modules_prov h c⟩

@[simp] theorem WritesNode.info_self {i : ScriptProviderInfo} {new : List (Move ProviderPtr)}
    (hw : WritesNode p i new h h') : h'.info p = i := by
  rw [hw.info, Function.update_self]

/-- The callbacks are bound iff all exports are found. -/
theorem bindCallbacks_outcome (e : LoadEnv) (p : ProviderPtr) (fs : List CallbackExport)
    (h : Host) :
    ∃ i, WritesNode p i [] h (bindCallbacks e p fs h).1 ∧
      i.scriptProvider = (h.info p).scriptProvider ∧
      ((bindCallbacks e p fs h).2 = none ↔ ¬ ∃ f ∈ fs, ∃ err, e.getProcAddress f = .error err) := by
  induction fs generalizing h with
  | nil => exact ⟨h.info p, (SameModules.refl h).writesNode p, rfl, by simp [bindCallbacks]⟩
  | cons f fs ih =>
    simp only [bindCallbacks]
    split
    · next err hf =>
      refine ⟨_, writesNode_setInfo h p _, setCallback_slot _ _ _, ?_⟩
      simp [hf]
    · next addr hf =>
      obtain ⟨i, hw, hslot, hnone⟩ := ih (h.setInfo p ((h.info p).setCallback (some addr) f))
      refine ⟨i, (writesNode_setInfo h p _).trans hw, ?_, ?_⟩
      · rw [hslot, (writesNode_setInfo h p _).info_self, setCallback_slot]
      · rw [hnone]
        simp [hf]

theorem createInstance_outcome (e : LoadEnv) (p : ProviderPtr) (h : Host) :
    WritesNode p { h.info p with scriptProvider := some ⟨p, h.nextSerial⟩ } [] h
      (createInstance e p h) := by
  refine ⟨rfl, ?_⟩
  unfold createInstance
  simp [Host.modules, Host.provCalls, Host.setInfo, HostCall.prov?, ProvCall.moduleMove?]

/-- What a load of a provider without an instance can do: fail and leave the node as
    empty as it was, get a module and no instance, or get both. -/
inductive LoadOutcome (e : LoadEnv) (p : ProviderPtr) (h h' : Host) : Prop
  | failed (i : ScriptProviderInfo) (hleak : ¬ e.Leaks (h.info p)) (hw : WritesNode p i [] h h')
    (hslot : i.scriptProvider = none) (hunbound : (h.info p).Unbound → i.Unbound)
  | leaked (i : ScriptProviderInfo) (hleak : e.Leaks (h.info p))
    (hw : WritesNode p i [.acquire p] h h') (hslot : i.scriptProvider = none)
  | loaded (i : ScriptProviderInfo) (hleak : ¬ e.Leaks (h.info p))
    (hw : WritesNode p i [.acquire p] h h') (hslot : i.scriptProvider ≠ none)

theorem loadAndCreate_outcome (e : LoadEnv) (p : ProviderPtr) (h : Host)
    (hslot : (h.info p).scriptProvider = none) :
    LoadOutcome e p h (loadAndCreateScriptProvider e p h).1 := by
  unfold loadAndCreateScriptProvider
  dsimp only
  split
  · next hdir =>
    have hw := (quiet_output h DEBUG_OUTPUT_ERROR
      "Error: Invalid DLL Path '%ls' for provider '%ls'\n"
      [.wstr (h.info p).dllFileName.chars, .wstr (h.info p).langId.chars]).sameModules.writesNode p
    exact .failed _ (fun hleak => hleak.1 hdir) hw hslot id
  · next dllPath hdir =>
    have h1 := writesNode_prov h p (.setDllDirectory dllPath)
    split
    · next err hset =>
      refine .failed _ ?_ h1 hslot id
      rintro ⟨-, hset', -⟩
      rw [hset] at hset'
      cases hset'
    · next hset =>
      split
      · next hlib =>
        refine .failed _ ?_ (h1.trans (writesNode_setInfo _ p _)) hslot ?_
        · rintro ⟨-, -, ⟨m, hm⟩, -⟩
          rw [hlib] at hm
          cases hm
        · intro hun
          exact ⟨rfl, hun.initFunc, hun.cleanupFunc, hun.createFunc⟩
      · next m hlib =>
        -- the module is loaded: from here on a failure leaks it
        have h2 := (h1.trans (writesNode_prov _ p (.loadLibrary p m))).trans
          (writesNode_setInfo _ p { h.info p with module := some m })
        set g := ((h.emit (.prov (.setDllDirectory dllPath))).emit
          (.prov (.loadLibrary p m))).setInfo p { h.info p with module := some m }
        obtain ⟨i, hb, hslot', hnone⟩ := bindCallbacks_outcome e p x_CallbackBindings g
        have hslot_g : (g.info p).scriptProvider = none := by
          rw [h2.info_self]
          exact hslot
        split
        · next b err heq =>
          rw [heq] at hb hnone
          have hexport : ∃ f ∈ x_CallbackBindings, ∃ err, e.getProcAddress f = .error err := by
            by_contra hno
            cases hnone.mpr hno
          exact .leaked i ⟨by simp [hdir], hset, ⟨m, hlib⟩, Or.inl hexport⟩ (h2.trans hb)
            (hslot'.trans hslot_g)
        · next b heq =>
          rw [heq] at hb hnone
          have h3 := (h2.trans hb).trans (writesNode_prov b p (.initFunc p (b.info p).initFunc))
          split_ifs with hcreate
          · refine .loaded _ ?_ (h3.trans (createInstance_outcome e p _)) (by simp)
            rintro ⟨-, -, -, hexport | hcreate'⟩
            · exact hnone.mp rfl hexport
            · rw [hcreate] at hcreate'
              cases hcreate'
          · refine .leaked _ ⟨by simp [hdir], hset, ⟨m, hlib⟩, Or.inr (by simpa using hcreate)⟩
              (h3.trans (writesNode_setInfo _ p _)) rfl

/-! ## Unloading -/

/-- Once the instance has been cleaned up, unloading frees the module and empties the node. -/
theorem endUnload_outcome (h : Host) (p : ProviderPtr) :
    ∃ i, WritesNode p i [.release p] h (endUnload h p) ∧ i.scriptProvider = none ∧ i.Unbound := by
  refine ⟨_, ⟨rfl, ?_⟩, rfl, rfl, rfl, rfl, rfl⟩
  show ((h.emit _).emit _).modules = _
  rw [modules_prov, modules_prov]
  simp [ProvCall.moduleMove?]

theorem sameModules_rest (rest : Rest) (h : Host) : SameModules h (rest.run h) := by
  cases rest with
  | returns => exact SameModules.refl h
  | exit command hr => exact (quiet_exitRest command hr h).sameModules
  | stopvm => exact ⟨rfl, rfl⟩
  | unloadExtension =>
    have hcom := (release_spec h.forgetProviders).1.providers.sameModules
    exact ⟨hcom.info, hcom.modules⟩

/-- Unwinding gets to a `Cleanup` or to the end, and neither is about modules. -/
theorem sameModules_unwind (stack : List Frame) (rest : Rest) (ps : List ProviderPtr) (h : Host) :
    SameModules h (Session.unwind stack rest ps h).host := by
  have hcases := unwind_cases stack rest ps h
  generalize Session.unwind stack rest ps h = s at hcases
  cases hcases with
  | done hnone => exact sameModules_rest rest h
  | cleaning skipped ps' p i hps hnone hslot => exact sameModules_prov h rfl

/-! ## Commands -/

/-- Up to the load nothing happens to modules. -/
theorem sameModules_select {command : ScriptCommand} {e : CommandEnv} {client : ClientId}
    {args : AnsiStr} {g : Host} (hsel : (selectScript command.requires e client args h).1 = g) :
    SameModules h g :=
  (onlyCom_reAcquire e.qi client h).providers.sameModules.trans (quiet_select hsel).sameModules

/-- What happens to modules besides the load of a script command, if it gets to one: nothing. -/
theorem sameModules_script (command : ScriptCommand) (e : CommandEnv) (client : ClientId)
    (args : AnsiStr) (h : Host) :
    match loadPoint (.script command) e client args h with
    | some (g, p) =>
      SameModules h g ∧ SameModules (loadScriptProviderIfNeeded e.load p g).1
        ((Command.script command).begin e client args h).1
    | none => SameModules h ((Command.script command).begin e client args h).1 := by
  cases start_cases command e client args h with
  | notReached g hr hsel hpoint hstart =>
    rw [hpoint, hstart]
    exact sameModules_select hsel
  | notLoaded g b p hr hl hf hstart =>
    rw [hl.point, hstart]
    dsimp only
    rw [hl.load]
    exact ⟨sameModules_select hl.select, SameModules.refl b⟩
  | notRun g b b' p hr hr' text hl hok hargs hstart =>
    rw [hl.point, hstart]
    dsimp only
    rw [hl.load]
    exact ⟨sameModules_select hl.select, (quiet_args hargs).sameModules⟩
  | run g b b' p hr text argList timeRun hl hok hargs hstart =>
    rw [hl.point, hstart]
    dsimp only
    rw [hl.load]
    exact ⟨sameModules_select hl.select,
      (quiet_args hargs).sameModules.trans (sameModules_prov _ rfl)⟩
  | runString g b b' p hr text timeRun hl hok hout hstart =>
    rw [hl.point, hstart, hout]
    dsimp only
    rw [hl.load]
    exact ⟨sameModules_select hl.select,
      (quiet_output _ _ _ _).sameModules.trans (sameModules_prov _ rfl)⟩

/-- The same for any command. -/
theorem sameModules_begin (command : Command) (e : CommandEnv) (client : ClientId)
    (args : AnsiStr) (h : Host) :
    match loadPoint command e client args h with
    | some (g, p) =>
      SameModules h g ∧
        SameModules (loadScriptProviderIfNeeded e.load p g).1 (command.begin e client args h).1
    | none => SameModules h (command.begin e client args h).1 := by
  match command with
  | .script command => exact sameModules_script command e client args h
  | .scriptpath => exact (sameProviders_scriptpath e client args h).sameModules
  | .startvm =>
    have hsame := (onlyCom_reAcquire e.qi client h).providers.sameModules
    show SameModules h (startvm e client h).1
    unfold startvm
    dsimp only
    generalize reAcquireIfacesIfNeeded e.qi client h = r at hsame
    split_ifs
    · exact hsame
    · exact hsame.trans (quiet_output _ _ _ _).sameModules
    · exact hsame.trans ⟨rfl, rfl⟩
  | .stopvm => exact (beginStopvm_cases e client h).1.sameModules

theorem sameModules_enter (stack : List Frame) (r : Begun) :
    SameModules r.1 (Session.enter stack r).host := by
  obtain ⟨h, f | ⟨t, hr⟩⟩ := r
  · exact SameModules.refl h
  · exact sameModules_unwind stack t.rest t.providers h

/-! ## Registration -/

/-- From `h` to `h'` new nodes have been written, and they are empty. -/
structure NewNodes (h h' : Host) : Prop where
  modules : h'.modules = h.modules
  info : ∀ p, h'.info p = h.info p ∨
    h.nextNode ≤ p ∧ (h'.info p).Unbound ∧ (h'.info p).scriptProvider = none
  nextNode : h.nextNode ≤ h'.nextNode

theorem SameProviders.newNodes (hs : SameProviders h h') : NewNodes h h' :=
  ⟨hs.sameModules.modules, fun p => Or.inl (congrFun hs.info p), hs.nextNode.ge⟩

theorem NewNodes.trans (h1 : NewNodes h h') (h2 : NewNodes h' h'') : NewNodes h h'' := by
  refine ⟨h2.modules.trans h1.modules, fun p => ?_, h1.nextNode.trans h2.nextNode⟩
  rcases h2.info p with hp | ⟨hle, hp⟩
  · rw [hp]
    exact h1.info p
  · exact Or.inr ⟨h1.nextNode.trans hle, hp⟩

theorem newNodes_add (v : ProviderValue) (h : Host) : NewNodes h (addProvider v h) := by
  refine ⟨rfl, fun p => ?_, Nat.le_succ _⟩
  by_cases hp : p = h.nextNode
  · right
    rw [hp]
    simp only [addProvider, Host.setInfo, Function.update_self]
    exact ⟨le_rfl, ⟨rfl, rfl, rfl, rfl⟩, rfl⟩
  · left
    simp [addProvider, Host.setInfo, hp]

theorem newNodes_values (values : List (Except Win32Error ProviderValue)) (h : Host) :
    NewNodes h (registerValues values h).1 := by
  induction values generalizing h with
  | nil => exact (SameProviders.refl h).newNodes
  | cons v values ih =>
    cases v with
    | error err => exact (SameProviders.refl h).newNodes
    | ok v =>
      rw [registerValues]
      split_ifs
      · exact (newNodes_add v h).trans (ih _)
      · exact (quiet_output h _ _ _).sameProviders.newNodes

theorem newNodes_register (r : Registry) (h : Host) :
    NewNodes h (registerScriptProviders r h).1 := by
  unfold registerScriptProviders
  split
  · dsimp only
    split_ifs
    · exact (quiet_output h _ _ _).sameProviders.newNodes
    · exact (SameProviders.refl h).newNodes
  · have h1 := newNodes_values r.values h
    dsimp only
    split_ifs
    · exact h1
    · exact h1.trans (quiet_output _ _ _ _).sameProviders.newNodes
    · exact h1

theorem newNodes_loadExtension (e : InitEnv) (h : Host) :
    NewNodes h (debugExtensionInitialize e h).1 := by
  have hacquire := onlyCom_acquire e.qi e.client (h.emit (.com (.debugCreate e.client)))
  have hcom := ((onlyCom_emit h (.debugCreate e.client)).trans hacquire).providers.newNodes
  unfold debugExtensionInitialize
  dsimp only
  split_ifs
  · exact (SameProviders.refl h).newNodes
  · exact hcom
  · exact hcom.trans (newNodes_register _ _)

/-! ## Steps -/

/-- What one step does to modules and nodes: nothing; it loads a provider; it registers new
    nodes; or a `Cleanup` returns, and its provider is unloaded. -/
inductive ModuleStep (s : Session) (l : Label) : Prop
  | same (hpoint : s.loadPoint l = none) (hs : SameModules s.host (s.step l).host)
  | load (e : LoadEnv) (g : Host) (p : ProviderPtr) (hpoint : s.loadPoint l = some (e, g, p))
    (hg : SameModules s.host g)
    (hs : SameModules (loadScriptProviderIfNeeded e p g).1 (s.step l).host)
  | registers (hpoint : s.loadPoint l = none) (hn : NewNodes s.host (s.step l).host)
  | unload (p : ProviderPtr) (i : Instance) (t : Teardown) (stack : List Frame)
    (hpoint : s.loadPoint l = none) (hstack : s.stack = .cleanup p i t :: stack)
    (hs : SameModules (endUnload s.host p) (s.step l).host)

theorem moduleStep_call (s : Session) (command : Command) (client : ClientId) (args : AnsiStr)
    (env : CommandEnv) : ModuleStep s (.call command client args env) := by
  by_cases haccepts : s.accepts = true
  · have hbegin := sameModules_begin command env client args s.host
    have hstep : s.step (.call command client args env) =
        Session.enter s.stack (command.begin env client args s.host) := by
      rw [Session.step, if_pos haccepts]
    have henter := sameModules_enter s.stack (command.begin env client args s.host)
    rcases hpoint : loadPoint command env client args s.host with _ | ⟨g, p⟩
    · rw [hpoint] at hbegin
      refine .same ?_ ?_
      · rw [Session.loadPoint, if_pos haccepts, hpoint]
        rfl
      · rw [hstep]
        exact hbegin.trans henter
    · rw [hpoint] at hbegin
      refine .load env.load g p ?_ hbegin.1 ?_
      · rw [Session.loadPoint, if_pos haccepts, hpoint]
        rfl
      · rw [hstep]
        exact hbegin.2.trans henter
  · refine .same ?_ ?_
    · rw [Session.loadPoint, if_neg haccepts]
    · rw [Session.step, if_neg haccepts]
      exact SameModules.refl s.host

/-- What one step does to modules. -/
theorem step_modules (s : Session) (l : Label) : ModuleStep s l := by
  have hidle : SameModules s.host s.host := SameModules.refl s.host
  cases l with
  | loadExtension e =>
    rcases hstack : s.stack with _ | ⟨frame, stack⟩
    · refine .registers rfl ?_
      rw [Session.step, hstack]
      exact newNodes_loadExtension e s.host
    · refine .same rfl ?_
      rw [Session.step, hstack]
      exact hidle
  | unloadExtension =>
    refine .same rfl ?_
    rw [Session.step]
    split
    · exact sameModules_unwind _ _ _ _
    · exact hidle
  | call command client args env => exact moduleStep_call s command client args env
  | buffer op =>
    refine .same rfl ?_
    rw [Session.step]
    split_ifs
    · exact (quiet_bufferStep _ _).sameModules
    · exact hidle
  | execute e command =>
    have hexec := (quiet_execBegin e command s.host).sameModules
    refine .same rfl ?_
    rw [Session.step]
    split_ifs
    · split <;> next heq => rw [heq] at hexec; exact hexec
    · exact hidle
  | callback mask text =>
    refine .same rfl ?_
    rw [Session.step]
    split_ifs
    · exact (quiet_captureOutput _ _ _).sameModules
    · exact hidle
  | executed =>
    refine .same rfl ?_
    rw [Session.step]
    split
    · exact (quiet_execEnd _ _ _ _).sameModules
    · exact hidle
  | ret hr endTime =>
    refine .same rfl ?_
    rw [Session.step]
    split
    · exact (quiet_leave _ hr endTime s.host).sameModules.trans (sameModules_unwind _ _ _ _)
    · exact hidle
  | cleanedUp =>
    rcases hstack : s.stack with _ | ⟨_ | _ | ⟨p, i, t⟩, stack⟩
    · refine .same rfl ?_
      rw [Session.step, hstack]
      exact hidle
    · refine .same rfl ?_
      rw [Session.step, hstack]
      exact hidle
    · refine .same rfl ?_
      rw [Session.step, hstack]
      exact hidle
    · refine .unload p i t stack rfl hstack ?_
      rw [Session.step, hstack]
      exact sameModules_unwind _ _ _ _

end DbgScript
