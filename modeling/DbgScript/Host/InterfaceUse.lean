import DbgScript.Host.Commands

/-!
# Using the DbgEng interfaces

Whether the interfaces are valid when they are used depends on the calls with the same
client before. `Cache` is all that matters of the history: the cached client, and
whether all five interfaces were acquired with it.

* `sameIfaces_call`: after `reAcquireIfacesIfNeeded`, a command leaves the interfaces
  alone.
* `cacheRel_step`: the host follows the cache.
* `interfaces_valid_iff`: in a sequence of entry points the interfaces are valid
  whenever they are used iff no command is called with a client whose acquisition was
  incomplete, and no script command fails to get `IDebugControl`.
-/

namespace DbgScript

open Runs (run Along)

/-! ## Specification -/

/-- The interfaces are valid when they are used: if `reAcquireIfacesIfNeeded` reports
    success, all of them are those of the client; and the command calls no method
    through a null interface. -/
def InterfacesValid (h : Host) : Entry → Prop
  | .command c =>
    (FAILED (reAcquireIfacesIfNeeded c.env.qi c.client h).2 = false →
        (reAcquireIfacesIfNeeded c.env.qi c.client h).1.ctx.Complete c.client) ∧
      (callStep h c).nullCalls = h.nullCalls
  | _ => True

/-- Every `QueryInterface` call succeeds. -/
def queriesOk (qi : Iid → HRESULT) : Bool := acquireOrder.all fun iid => !FAILED (qi iid)

/-- The cached client, and whether its acquisition was complete. -/
abbrev Cache := Option (ClientId × Bool)

def cacheStep (cache : Cache) : Entry → Cache
  | .loadExtension e => if FAILED e.debugCreate then cache else some (e.client, queriesOk e.qi)
  | .command c =>
    if cache.map Prod.fst = some c.client then cache else some (c.client, queriesOk c.env.qi)
  | .unloadExtension => none

/-- A command with the cached client finds it complete, and a script command with
    another client gets `IDebugControl`. -/
def CacheOk (cache : Cache) : Entry → Prop
  | .command c =>
    if cache.map Prod.fst = some c.client then cache = some (c.client, true)
    else ∀ command, c.command = .script command → FAILED (c.env.qi .IDebugControl) = false
  | _ => True

theorem queriesOk_iff (qi : Iid → HRESULT) : queriesOk qi = true ↔ QueriesOk qi := by
  simp only [queriesOk, List.all_eq_true, Bool.not_eq_true', QueriesOk]
  exact ⟨fun h iid => h iid (mem_acquireOrder iid), fun h iid _ => h iid⟩

/-! ## Commands leave the interfaces alone -/

theorem startvm_sameIfaces (e : CommandEnv) (client : ClientId) (h : Host) :
    SameIfaces (reAcquireIfacesIfNeeded e.qi client h).1 (startvm e client h).1 := by
  unfold startvm
  dsimp only
  split_ifs
  · exact SameIfaces.refl _
  · exact (quiet_output _ _ _ _).sameIfaces
  · exact ⟨rfl, rfl, fun _ _ => rfl⟩

theorem stopvm_sameIfaces (e : CommandEnv) (client : ClientId) (h : Host) :
    SameIfaces (reAcquireIfacesIfNeeded e.qi client h).1 (stopvm e client h).1 := by
  unfold stopvm beginStopvm
  dsimp only
  split_ifs
  · exact SameIfaces.refl _
  · exact (quiet_output _ _ _ _).sameIfaces
  · exact (onlyProviders_unloadAll _ _).ifaces.trans ⟨rfl, rfl, fun _ _ => rfl⟩

theorem start_sameIfaces (c : Call) (h : Host) :
    SameIfaces (reAcquireIfacesIfNeeded c.env.qi c.client h).1 (c.start h).1 := by
  unfold Call.start
  cases c.command with
  | script command => exact (onlyProviders_script command _ _ _ _).ifaces
  | scriptpath => exact (scriptpath_spec _ _ _ _).sameIfaces
  | startvm => exact startvm_sameIfaces _ _ _
  | stopvm => exact stopvm_sameIfaces _ _ _

/-- After `reAcquireIfacesIfNeeded`, a command leaves the interfaces alone. -/
theorem sameIfaces_call (h : Host) (c : Call) :
    SameIfaces (reAcquireIfacesIfNeeded c.env.qi c.client h).1 (callStep h c) := by
  have hstart := start_sameIfaces c h
  unfold callStep Call.exec
  rcases hc : c.start h with ⟨g, f | hr⟩ <;> rw [hc] at hstart
  · exact (hstart.trans (quiet_outputRun g c.ops).sameIfaces).trans (finish_spec f _ _ _).1.ifaces
  · exact hstart

/-! ## The cache -/

/-- The interfaces that the cache stands for. -/
def CacheRel (h : Host) : Cache → Prop
  | none => h.ctx.Empty
  | some (client, true) => h.ctx.Complete client
  | some (client, false) => h.ctx.Incomplete client

theorem CacheRel.debugClient {h : Host} {cache : Cache} (hr : CacheRel h cache) :
    h.ctx.debugClient = cache.map Prod.fst := by
  rcases cache with _ | ⟨client, _ | _⟩ <;> exact hr.1

theorem CacheRel.congr {h h' : Host} {cache : Cache} (hr : CacheRel h cache)
    (hi : h'.ctx.toDbgEngIfaces = h.ctx.toDbgEngIfaces) : CacheRel h' cache := by
  rcases cache with _ | ⟨client, _ | _⟩
  · show h'.ctx.Empty
    rw [hi]
    exact hr
  · show h'.ctx.Incomplete client
    rw [hi]
    exact hr
  · show h'.ctx.Complete client
    rw [hi]
    exact hr

theorem cacheRel_acquire (qi : Iid → HRESULT) (client : ClientId) (h : Host) :
    CacheRel (acquireDbgEngIfaces qi client h).1 (some (client, queriesOk qi)) ∧
      FAILED (acquireDbgEngIfaces qi client h).2 = !queriesOk qi := by
  cases hq : queriesOk qi with
  | true =>
    obtain ⟨hok, hcomplete, -⟩ := acquire_ok ((queriesOk_iff qi).mp hq) client h
    exact ⟨hcomplete, hok⟩
  | false =>
    obtain ⟨hfail, hinc⟩ := acquire_failed (fun h => by simp [(queriesOk_iff qi).mpr h] at hq)
      client h
    exact ⟨hinc, hfail⟩

/-- What `reAcquireIfacesIfNeeded` does to the cache. -/
theorem cacheRel_reAcquire {h : Host} {cache : Cache} (hr : CacheRel h cache)
    (qi : Iid → HRESULT) (client : ClientId) :
    CacheRel (reAcquireIfacesIfNeeded qi client h).1
      (if cache.map Prod.fst = some client then cache else some (client, queriesOk qi)) := by
  split_ifs with hc
  · rw [reAcquire_same (hr.debugClient.trans hc)]
    exact hr
  · rw [reAcquire_other fun he => hc (hr.debugClient.symm.trans he)]
    exact (cacheRel_acquire qi client _).1

/-- The host follows the cache. -/
theorem cacheRel_step (h : Host) (cache : Cache) (e : Entry) (hr : CacheRel h cache) :
    CacheRel (entryStep h e) (cacheStep cache e) := by
  cases e with
  | command c => exact (cacheRel_reAcquire hr c.env.qi c.client).congr (sameIfaces_call h c).ifaces
  | unloadExtension =>
    exact (release_spec (h.ctx.scriptProviders.foldl unloadScriptProvider h).forgetProviders).2
  | loadExtension e =>
    have hacquire := cacheRel_acquire e.qi e.client (h.emit (.com (.debugCreate e.client)))
    show CacheRel (debugExtensionInitialize e h).1
      (if FAILED e.debugCreate then cache else some (e.client, queriesOk e.qi))
    unfold debugExtensionInitialize
    dsimp only
    split_ifs
    · exact hr
    · exact hacquire.1
    · exact hacquire.1.congr (register_spec _ _).ifaces.ifaces

/-! ## Calls through null interfaces -/

theorem Quiet.nullCalls_prefix {h h' : Host} (hq : Quiet h h') : h.nullCalls <+: h'.nullCalls := by
  obtain ⟨new, hl, -⟩ := hq.log
  rw [Host.nullCalls, Host.nullCalls, hl, List.filter_append]
  exact List.prefix_append _ _

/-- A failure that is printed without `IDebugControl`. -/
theorem nullCalls_printFailure {h : Host} {hr : HRESULT} (hf : FAILED hr = true)
    (hc : h.ctx.debugControl = none) :
    (printFailure hr h).nullCalls.length = h.nullCalls.length + 1 := by
  rw [printFailure, if_pos hf]
  simp [Host.output, Host.nullCalls, HostCall.viaNull, hc]

/-- Without `IDebugControl`, a script command that cannot acquire its interfaces calls a
    method through null. -/
theorem nullCalls_script_failed {h : Host} {c : Call} {command : ScriptCommand}
    (hcommand : c.command = .script command)
    (hf : FAILED (reAcquireIfacesIfNeeded c.env.qi c.client h).2 = true)
    (hc : (reAcquireIfacesIfNeeded c.env.qi c.client h).1.ctx.debugControl = none) :
    (callStep h c).nullCalls ≠ h.nullCalls := by
  have hcom := (onlyCom_reAcquire c.env.qi c.client h).nullCalls
  rcases hr : reAcquireIfacesIfNeeded c.env.qi c.client h with ⟨g, hr'⟩
  simp only [hr] at hf hc hcom
  have hselect : selectScript command.requires c.env c.client c.args h = (g, .error hr') := by
    unfold selectScript
    dsimp only
    rw [hr, if_pos hf]
  have hstep : callStep h c = Rest.run (.exit command hr') g := by
    have hbegin := start_of_error command c.env c.client c.args h hselect
    have hstart : c.start h = Begun.complete
        (g, .inr (command.exitTeardown h.ctx.startVMEnabled none hr')) := by
      rw [Call.start, hcommand, Command.start, hbegin]
    rw [callStep, Call.exec, hstart]
    show Rest.run _ ((exitProviders h.ctx.startVMEnabled none).foldl unloadScriptProvider g) = _
    rw [exitProviders_none]
    rfl
  intro heq
  rw [hstep, ← hcom] at heq
  cases command with
  | runscript =>
    have hquiet := quiet_bufferStep g .cleanup
    have hlen := nullCalls_printFailure hf
      ((congrArg DbgEngIfaces.debugControl hquiet.ifaces).trans hc)
    have hle := hquiet.nullCalls_prefix.length_le
    have hexit : (printFailure hr' (bufferStep g .cleanup)).nullCalls = g.nullCalls := heq
    rw [hexit] at hlen
    omega
  | evalstring =>
    have hlen := nullCalls_printFailure hf hc
    have hexit : (printFailure hr' g).nullCalls = g.nullCalls := heq
    rw [hexit] at hlen
    omega

/-- The other commands return at once. -/
theorem callStep_failed {h : Host} {c : Call} (hcommand : ∀ command, c.command ≠ .script command)
    (hf : FAILED (reAcquireIfacesIfNeeded c.env.qi c.client h).2 = true) :
    callStep h c = (reAcquireIfacesIfNeeded c.env.qi c.client h).1 := by
  cases hc : c.command with
  | script command => exact absurd hc (hcommand command)
  | _ =>
    simp only [callStep, Call.exec, Call.start, hc, Command.start, Command.begin, scriptpath,
      startvm, beginStopvm, returned, if_pos hf]
    rfl

/-! ## The law -/

/-- A command with the cached client. -/
theorem interfacesValid_same {h : Host} {cache : Cache} (hr : CacheRel h cache) {c : Call}
    (hc : cache.map Prod.fst = some c.client) :
    InterfacesValid h (.command c) ↔ cache = some (c.client, true) := by
  have hsame : reAcquireIfacesIfNeeded c.env.qi c.client h = (h, S_OK) :=
    reAcquire_same (hr.debugClient.trans hc)
  have hcall := sameIfaces_call h c
  show (_ ∧ _) ↔ _
  rw [hsame] at hcall ⊢
  constructor
  · rintro ⟨hcomplete, -⟩
    have hall := hcomplete failed_S_OK
    rcases cache with _ | ⟨client, _ | _⟩
    · simp at hc
    · obtain ⟨iid, hnone⟩ := hr.2
      rw [hall.2 iid] at hnone
      simp at hnone
    · rw [Option.map_some, Option.some.injEq] at hc
      rw [← hc]
  · intro hcache
    rw [hcache] at hr
    have hcontrol : h.ctx.debugControl = some ⟨.IDebugControl, c.client⟩ := hr.2 .IDebugControl
    exact ⟨fun _ => hr, hcall.nullCalls (by simp [hr.1]) (by simp [hcontrol])⟩

/-- A command with another client. -/
theorem interfacesValid_other {h : Host} {c : Call} (hc : h.ctx.debugClient ≠ some c.client) :
    InterfacesValid h (.command c) ↔
      ∀ command, c.command = .script command → FAILED (c.env.qi .IDebugControl) = false := by
  have hcall := sameIfaces_call h c
  have hcom := (onlyCom_reAcquire c.env.qi c.client h).nullCalls
  have hacquire : reAcquireIfacesIfNeeded c.env.qi c.client h =
      acquireDbgEngIfaces c.env.qi c.client (releaseDbgEngIfaces h) := reAcquire_other hc
  have hclient : (reAcquireIfacesIfNeeded c.env.qi c.client h).1.ctx.debugClient =
      some c.client := by
    rw [hacquire]
    exact debugClient_queryInterfaces ..
  have hcontrol : (reAcquireIfacesIfNeeded c.env.qi c.client h).1.ctx.debugControl =
      if FAILED (c.env.qi .IDebugControl) then none else some ⟨.IDebugControl, c.client⟩ := by
    rw [hacquire]
    exact debugControl_acquire ..
  -- a success is complete
  have hfirst : FAILED (reAcquireIfacesIfNeeded c.env.qi c.client h).2 = false →
      (reAcquireIfacesIfNeeded c.env.qi c.client h).1.ctx.Complete c.client := by
    rw [hacquire]
    intro hok
    by_cases hq : QueriesOk c.env.qi
    · exact (acquire_ok hq c.client _).2.1
    · rw [(acquire_failed hq c.client _).1] at hok
      exact absurd hok (by decide)
  constructor
  · rintro ⟨-, hnull⟩ command hcommand
    by_contra hq
    rw [Bool.not_eq_false] at hq
    have hbad : ¬ QueriesOk c.env.qi := fun hall => by simp [hall .IDebugControl] at hq
    refine nullCalls_script_failed hcommand ?_ (hcontrol.trans (if_pos hq)) hnull
    rw [hacquire]
    exact (acquire_failed hbad c.client _).1
  · intro hscript
    refine ⟨hfirst, ?_⟩
    by_cases hq : FAILED (c.env.qi .IDebugControl) = true
    · -- not a script command: it returns the failure
      have hbad : ¬ QueriesOk c.env.qi := fun hall => by simp [hall .IDebugControl] at hq
      have hother : ∀ command, c.command ≠ .script command := by
        intro command hcommand
        simp [hscript command hcommand] at hq
      have hfail : FAILED (reAcquireIfacesIfNeeded c.env.qi c.client h).2 = true := by
        rw [hacquire]
        exact (acquire_failed hbad c.client _).1
      rw [callStep_failed hother hfail]
      exact hcom
    · rw [if_neg hq] at hcontrol
      exact (hcall.nullCalls (by simp [hclient]) (by simp [hcontrol])).trans hcom

/-- One entry point. -/
theorem interfacesValid_iff (h : Host) (cache : Cache) (e : Entry) (hr : CacheRel h cache) :
    InterfacesValid h e ↔ CacheOk cache e := by
  cases e with
  | command c =>
    show _ ↔ if cache.map Prod.fst = some c.client then _ else _
    split_ifs with hc
    · exact interfacesValid_same hr hc
    · exact interfacesValid_other fun he => hc (hr.debugClient.symm.trans he)
  | _ => exact Iff.rfl

/-- In a sequence of entry points, the interfaces are valid whenever they are used iff no
    command is called with a client whose acquisition was incomplete, and no script
    command fails to get `IDebugControl`. -/
theorem interfaces_valid_iff (routing : ClientId → Option OutputCb) (es : List Entry) :
    Along entryStep InterfacesValid (Host.fresh routing) es ↔ Along cacheStep CacheOk none es := by
  refine Runs.along_sim (R := CacheRel) cacheRel_step interfacesValid_iff ?_ es
  exact ⟨rfl, fun iid => by cases iid <;> rfl⟩

/-- A client whose `IDebugControl` could not be acquired, used again. -/
theorem interfaces_null_after_failure :
    let qi : Iid → HRESULT := fun iid => if iid = .IDebugControl then E_FAIL else S_OK
    let es : List Entry :=
      [.loadExtension (InitEnv.succeeding 0 []),
        .command { Call.succeeding .startvm 1 ⟨[], by decide⟩ with
          env := { CommandEnv.succeeding with qi := qi } },
        .command (.succeeding (.script .runscript) 1 ⟨[], by decide⟩)]
    ¬ Along entryStep InterfacesValid (Host.fresh fun _ => none) es ∧
      (run entryStep (Host.fresh fun _ => none) es).nullCalls =
        [.output none DEBUG_OUTPUT_ERROR runscriptRequires [],
          .output none DEBUG_OUTPUT_ERROR "Script failed: 0x%08x.\n" [.hex E_INVALIDARG]] := by
  intro qi es
  have hcalls : (run entryStep (Host.fresh fun _ => none) es).nullCalls =
      [.output none DEBUG_OUTPUT_ERROR runscriptRequires [],
        .output none DEBUG_OUTPUT_ERROR "Script failed: 0x%08x.\n" [.hex E_INVALIDARG]] := by
    decide +kernel
  have hbefore : (run entryStep (Host.fresh fun _ => none) es.dropLast).nullCalls = [] := by
    decide +kernel
  refine ⟨?_, hcalls⟩
  rintro ⟨-, -, hlast, -⟩
  have hsame := hlast.2.trans hbefore
  exact absurd (hcalls.symm.trans hsame) (by simp)

end DbgScript
