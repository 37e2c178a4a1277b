import DbgScript.Host.Commands

/-!
# Recycling the VM

What completed commands do to the provider instances, as long as no `Init` fails. With
the VM off, a command makes the instance it uses and cleans it up; with the VM on, all
scripts of a provider use one instance.

* `call_cases`: what a completed command does to the pool, the VM flag and the list.
* `idle_callStep`: with the VM off there are no instances between commands.
* `vm_recycling`: the laws of the VM over every sequence of commands.
-/

namespace DbgScript

open Slots (Pool Live UsesLive)
open Runs (run Along)

/-! ## Specification -/

/-- The host after `DebugExtensionInitialize`. -/
def loaded (routing : ClientId → Option OutputCb) (e : InitEnv) : Host :=
  (debugExtensionInitialize e (Host.fresh routing)).1

/-- What happens to instances during a command. -/
def Call.events (h : Host) (c : Call) : List (Slots.Event ProviderPtr) :=
  h.pool.since (callStep h c).pool

/-- No provider's `Init` has failed. -/
def InitsOk (h : Host) : Prop := ∀ i, .init i false ∉ h.pool.trace

/-- With the VM off, no registered provider has an instance. -/
def IdleWhenOff (h : Host) : Prop :=
  h.ctx.startVMEnabled = false → ∀ p ∈ h.ctx.scriptProviders, (h.info p).scriptProvider = none

/-- With the VM off, a command only uses an instance that it makes and that it cleans up
    exactly once. -/
def UsesOwn (h : Host) (c : Call) : Prop :=
  h.ctx.startVMEnabled = false → ∀ p inst, .use p inst ∈ c.events h →
    ∃ i, inst = some i ∧ .create i ∈ c.events h ∧ (c.events h).count (.cleanup i) = 1

/-- The command is a `startvm`, or a `stopvm`, that succeeds. -/
def StartsVM (h : Host) (c : Call) : Prop :=
  c.command = .startvm ∧ FAILED (c.exec h).2 = false
def StopsVM (h : Host) (c : Call) : Prop :=
  c.command = .stopvm ∧ FAILED (c.exec h).2 = false

/-- All uses of a provider among the events are of one instance, which is not cleaned up. -/
def OneInstance (events : List (Slots.Event ProviderPtr)) : Prop :=
  ∀ p inst inst', .use p inst ∈ events → .use p inst' ∈ events →
    inst = inst' ∧ ∃ i, inst = some i ∧ .cleanup i ∉ events

/-- After a successful `stopvm` no instance is live. -/
def StopClears (h : Host) (c : Call) : Prop :=
  StopsVM h c → ∀ i, .create i ∈ (callStep h c).pool.trace →
    .cleanup i ∈ (callStep h c).pool.trace ∧ ∀ p, (callStep h c).pool.slot p ≠ some i

/-- A rejected `startvm` or `stopvm` changes neither the VM flag nor the providers nor
    their instances. -/
def RejectedKeeps (h : Host) (c : Call) : Prop :=
  c.command = .startvm ∨ c.command = .stopvm → FAILED (c.exec h).2 = true →
    SameProviders h (callStep h c)

/-! ## What a completed command does -/

/-- The unloading at the exit of a script command, if the VM is off. -/
def exitActions (startVMEnabled : Bool) (p : ProviderPtr) : List (Slots.Action ProviderPtr) :=
  if startVMEnabled then [] else [.unload p]

theorem run_exitActions (vm : Bool) (s : Pool ProviderPtr) (p : ProviderPtr) :
    run Pool.step s (exitActions vm p) = exitPool vm s p := by
  cases vm <;> rfl

/-- What a completed command does to the pool and to the VM flag. -/
inductive CallEffect (h : Host) (c : Call) : Prop
  | same (hpool : (callStep h c).pool = h.pool)
    (hvm : (callStep h c).ctx.startVMEnabled = h.ctx.startVMEnabled)
  | initFailed (p : ProviderPtr) (hreg : p ∈ h.ctx.scriptProviders) (hslot : h.pool.slot p = none)
    (hpool : (callStep h c).pool = h.pool.step (.load p false))
    (hvm : (callStep h c).ctx.startVMEnabled = h.ctx.startVMEnabled)
  | script (p : ProviderPtr) (hreg : p ∈ h.ctx.scriptProviders)
    (uses : List (Slots.Action ProviderPtr)) (huses : uses = [] ∨ uses = [.use p])
    (hpool : (callStep h c).pool = run Pool.step h.pool
      (.load p true :: uses ++ exitActions h.ctx.startVMEnabled p))
    (hvm : (callStep h c).ctx.startVMEnabled = h.ctx.startVMEnabled)
  | startvm (hpool : (callStep h c).pool = h.pool)
    (hvm : (callStep h c).ctx.startVMEnabled = true)
  | stopvm (hstops : StopsVM h c)
    (hpool : (callStep h c).pool =
      run Pool.step h.pool (h.ctx.scriptProviders.map .unload))
    (hvm : (callStep h c).ctx.startVMEnabled = false)

theorem exec_of_returned {h : Host} {c : Call} {r : Host × HRESULT}
    (hstart : c.start h = (r.1, .inr r.2)) : c.exec h = r := by
  rw [Call.exec, hstart]

theorem exec_of_running {h g : Host} {c : Call} {f : ScriptFrame}
    (hstart : c.start h = (g, .inl f)) :
    c.exec h = f.finish c.result c.endTime (run outputStep g c.ops) := by
  rw [Call.exec, hstart]

theorem exec_startvm {h : Host} {c : Call} (hc : c.command = .startvm) :
    c.exec h = startvm c.env c.client h :=
  exec_of_returned (by rw [Call.start, hc]; rfl)

theorem exec_stopvm {h : Host} {c : Call} (hc : c.command = .stopvm) :
    c.exec h = stopvm c.env c.client h :=
  exec_of_returned (by rw [Call.start, hc]; rfl)

/-- A command that runs a script. -/
theorem call_script (h : Host) (c : Call) (command : ScriptCommand)
    (hc : c.command = .script command) : CallEffect h c := by
  obtain ⟨hlist, heffect⟩ := script_effect command c.env c.client c.args h
  have hreg : ∀ p, (loadPoint (.script command) c.env c.client c.args h).map Prod.snd = some p →
      p ∈ h.ctx.scriptProviders := by
    intro p hp
    obtain ⟨⟨g, q⟩, hpoint, rfl⟩ := Option.map_eq_some_iff.mp hp
    exact (loadPoint_spec hpoint).1
  rw [← hc] at hlist heffect hreg
  rcases hstart : c.start h with ⟨g, f | hr⟩
  · -- the script has run
    have hstart' : c.command.start c.env c.client c.args h = (g, .inl f) := hstart
    rw [hstart'] at hlist heffect
    have hquiet := quiet_outputRun g c.ops
    obtain ⟨hfinish, hpool⟩ := finish_spec f c.result c.endTime (run outputStep g c.ops)
    have hexec := exec_of_running hstart
    cases heffect with
    | running p f ht hprov hvm hinst hs =>
      refine .script p (hreg p ht) [.use p] (Or.inr rfl) ?_ ?_
      · rw [callStep, hexec, hpool, hquiet.sameProviders.pool, hs, hvm, hprov,
          ← run_exitActions, List.cons_append, List.singleton_append, Runs.run_cons, Runs.run_cons]
      · rw [callStep, hexec]
        exact hfinish.startVMEnabled.trans (hquiet.startVMEnabled.trans hlist.startVMEnabled)
  · have hstart' : c.command.start c.env c.client c.args h = (g, .inr hr) := hstart
    rw [hstart'] at hlist heffect
    have hg : callStep h c = g := congrArg Prod.fst (exec_of_returned (r := (g, hr)) hstart)
    have hvm : (callStep h c).ctx.startVMEnabled = h.ctx.startVMEnabled := by
      rw [hg]
      exact hlist.startVMEnabled
    cases heffect with
    | notReached hr ht hs => exact .same (by rw [hg]; exact hs) hvm
    | loadFailed p hr ht hf hslot hs =>
      rcases hs with hs | hs
      · exact .same (by rw [hg]; exact hs) hvm
      · exact .initFailed p (hreg p ht) hslot (by rw [hg]; exact hs) hvm
    | notRun p hr ht hf hs =>
      refine .script p (hreg p ht) [] (Or.inl rfl) ?_ hvm
      show (callStep h c).pool = run Pool.step (h.pool.step (.load p true)) (exitActions _ p)
      rw [hg, run_exitActions]
      exact hs

/-- What a completed command does. -/
theorem call_cases (h : Host) (c : Call) : CallEffect h c := by
  cases hc : c.command with
  | script command => exact call_script h c command hc
  | scriptpath =>
    have hexec : c.exec h = scriptpath c.env c.client c.args h :=
      exec_of_returned (by rw [Call.start, hc]; rfl)
    have hsame := sameProviders_scriptpath c.env c.client c.args h
    rw [← hexec] at hsame
    exact .same hsame.pool hsame.startVMEnabled
  | startvm =>
    have hcases := startvm_cases c.env c.client h
    rw [← exec_startvm hc] at hcases
    rcases hcases with ⟨-, hsame⟩ | ⟨-, -, hvm, hpool, -⟩
    · exact .same hsame.pool hsame.startVMEnabled
    · exact .startvm hpool hvm
  | stopvm =>
    have hcases := stopvm_cases c.env c.client h
    rw [← exec_stopvm hc] at hcases
    rcases hcases with ⟨-, hsame⟩ | ⟨hok, -, hvm, hpool, -⟩
    · exact .same hsame.pool hsame.startVMEnabled
    · exact .stopvm ⟨hc, hok⟩ hpool hvm

theorem rejectedKeeps (h : Host) (c : Call) : RejectedKeeps h c := by
  rintro (hc | hc) hfail
  · have hcases := startvm_cases c.env c.client h
    rw [← exec_startvm hc] at hcases
    rcases hcases with ⟨-, hsame⟩ | ⟨hok, -⟩
    · exact hsame
    · rw [hfail] at hok
      cases hok
  · have hcases := stopvm_cases c.env c.client h
    rw [← exec_stopvm hc] at hcases
    rcases hcases with ⟨-, hsame⟩ | ⟨hok, -⟩
    · exact hsame
    · rw [hfail] at hok
      cases hok

/-- The list of registered providers does not change. -/
theorem list_callStep (h : Host) (c : Call) :
    (callStep h c).ctx.scriptProviders = h.ctx.scriptProviders := by
  cases hc : c.command with
  | script command =>
    have hlist := (script_effect command c.env c.client c.args h).1.scriptProviders
    rw [← hc] at hlist
    rcases hstart : c.start h with ⟨g, f | hr⟩
    · have hg : g.ctx.scriptProviders = h.ctx.scriptProviders :=
        (congrArg (fun r : Started => r.1.ctx.scriptProviders) hstart).symm.trans hlist
      rw [callStep, exec_of_running hstart, (finish_spec ..).1.scriptProviders,
        (quiet_outputRun g c.ops).scriptProviders, hg]
    · have hg : g.ctx.scriptProviders = h.ctx.scriptProviders :=
        (congrArg (fun r : Started => r.1.ctx.scriptProviders) hstart).symm.trans hlist
      rw [callStep, exec_of_returned (r := (g, hr)) hstart, hg]
  | scriptpath =>
    have hexec : c.exec h = scriptpath c.env c.client c.args h :=
      exec_of_returned (by rw [Call.start, hc]; rfl)
    rw [callStep, hexec]
    exact (sameProviders_scriptpath c.env c.client c.args h).scriptProviders
  | startvm =>
    rw [callStep, exec_startvm hc]
    rcases startvm_cases c.env c.client h with ⟨-, hsame⟩ | ⟨-, -, -, -, hlist, -⟩
    · exact hsame.scriptProviders
    · exact hlist
  | stopvm =>
    rw [callStep, exec_stopvm hc]
    rcases stopvm_cases c.env c.client h with ⟨-, hsame⟩ | ⟨-, -, -, -, hlist, -⟩
    · exact hsame.scriptProviders
    · exact hlist

/-- What a completed command does to the instances: it loads registered providers, and
    unloads providers only as a whole. -/
theorem callStep_actions (h : Host) (c : Call) :
    ∃ as, (callStep h c).pool = run Pool.step h.pool as ∧ (∀ a ∈ as, a.cleans = a.empties) ∧
      ∀ p ok, .load p ok ∈ as → p ∈ h.ctx.scriptProviders := by
  rcases call_cases h c with ⟨hpool, -⟩ | ⟨p, hreg, -, hpool, -⟩ |
    ⟨p, hreg, uses, huses, hpool, -⟩ | ⟨hpool, -⟩ | ⟨-, hpool, -⟩
  · exact ⟨[], hpool, by simp, by simp⟩
  · exact ⟨[.load p false], hpool, by simp [Slots.Action.cleans, Slots.Action.empties],
      by simpa using hreg⟩
  · refine ⟨_, hpool, ?_, ?_⟩
    · rcases huses with rfl | rfl <;> cases h.ctx.startVMEnabled <;>
        simp [exitActions, Slots.Action.cleans, Slots.Action.empties]
    · rcases huses with rfl | rfl <;> cases h.ctx.startVMEnabled <;>
        simpa [exitActions] using hreg
  · exact ⟨[], hpool, by simp, by simp⟩
  · refine ⟨_, hpool, ?_, by simp⟩
    simp [Slots.Action.cleans, Slots.Action.empties]

/-! ## Runs without a failed `Init` -/

/-- What has happened to the instances is not forgotten. -/
theorem trace_callStep (h : Host) (c : Call) : h.pool.trace <+: (callStep h c).pool.trace := by
  obtain ⟨as, hpool, -⟩ := callStep_actions h c
  rw [hpool]
  exact Slots.trace_run _ as

theorem trace_calls (h : Host) (cs : List Call) :
    h.pool.trace <+: (run callStep h cs).pool.trace := by
  induction cs generalizing h with
  | nil => exact List.prefix_rfl
  | cons c cs ih => exact (trace_callStep h c).trans (ih _)

theorem InitsOk.of_step {h : Host} {c : Call} (hinit : InitsOk (callStep h c)) : InitsOk h :=
  fun i hi => hinit i ((trace_callStep h c).subset hi)

theorem InitsOk.of_run {h : Host} {cs : List Call} (hinit : InitsOk (run callStep h cs)) :
    InitsOk h :=
  fun i hi => hinit i ((trace_calls h cs).subset hi)

/-- The invariant between commands. -/
structure Between (h : Host) : Prop where
  pool : h.pool.Tidy
  registered : ∀ p, h.pool.slot p ≠ none → p ∈ h.ctx.scriptProviders
  idle : h.ctx.startVMEnabled = false → ∀ p, h.pool.slot p = none
  uses : UsesLive h.pool.trace

theorem tidy_callStep {h : Host} (hs : h.pool.Tidy) (c : Call) : (callStep h c).pool.Tidy := by
  obtain ⟨as, hpool, has, -⟩ := callStep_actions h c
  rw [hpool]
  exact Slots.tidy_run hs has

/-- Only registered providers have instances. -/
theorem registered_callStep {h : Host} (hb : Between h) (c : Call) (p : ProviderPtr)
    (hp : (callStep h c).pool.slot p ≠ none) : p ∈ (callStep h c).ctx.scriptProviders := by
  obtain ⟨as, hpool, -, has⟩ := callStep_actions h c
  rw [hpool] at hp
  rw [list_callStep]
  rcases Slots.slot_run_ne_none hp with hp | ⟨ok, hp⟩
  · exact hb.registered p hp
  · exact has p ok hp

/-- Unloading all registered providers leaves no instance. -/
theorem slot_unloadAll {h : Host} (hb : Between h) (p : ProviderPtr) :
    (run Pool.step h.pool (h.ctx.scriptProviders.map .unload)).slot p = none := by
  rw [Slots.slot_unloads]
  split_ifs with hp
  · rfl
  · by_contra hne
    exact hp (hb.registered p hne)

/-- With the VM off, what a command loads it unloads. -/
theorem slot_script {s : Pool ProviderPtr} (hs : ∀ p, s.slot p = none) (p : ProviderPtr)
    {uses : List (Slots.Action ProviderPtr)} (huses : uses = [] ∨ uses = [.use p])
    (q : ProviderPtr) :
    (run Pool.step s (.load p true :: uses ++ [.unload p])).slot q = none := by
  by_contra hne
  have hq : q = p := by
    rcases Slots.slot_run_ne_none hne with h0 | ⟨ok, hmem⟩
    · exact absurd (hs q) h0
    · rcases huses with rfl | rfl <;> simpa using And.left (by simpa using hmem)
  rw [hq, Runs.run_append] at hne
  exact hne (Slots.slot_unload _ _)

theorem idle_callStep {h : Host} {c : Call} (hb : Between h) (hinit : InitsOk (callStep h c)) :
    (callStep h c).ctx.startVMEnabled = false → ∀ p, (callStep h c).pool.slot p = none := by
  intro hoff q
  rcases call_cases h c with ⟨hpool, hvm⟩ | ⟨p, -, hslot, hpool, -⟩ |
    ⟨p, -, uses, huses, hpool, hvm⟩ | ⟨-, hvm⟩ | ⟨-, hpool, -⟩
  · rw [hpool]
    exact hb.idle (hvm.symm.trans hoff) q
  · refine absurd ?_ (hinit ⟨p, h.pool.next⟩)
    rw [hpool, Slots.step_load_none hslot]
    simp
  · have hoff' := hvm.symm.trans hoff
    rw [hpool, hoff']
    exact slot_script (hb.idle hoff') p huses q
  · rw [hoff] at hvm
    cases hvm
  · rw [hpool]
    exact slot_unloadAll hb q

/-- Between commands no provider is stale. -/
theorem not_stale_between {h : Host} (hb : Between h) (hinit : InitsOk h) (p : ProviderPtr) :
    ¬ h.pool.Stale p := by
  rintro ⟨i, hslot, hfail | hclean⟩
  · exact hinit i hfail
  · exact hb.pool.notCleaned p i hslot hclean

theorem uses_callStep {h : Host} {c : Call} (hb : Between h) (hinit : InitsOk (callStep h c)) :
    UsesLive (callStep h c).pool.trace := by
  rcases call_cases h c with ⟨hpool, -⟩ | ⟨p, -, hslot, hpool, -⟩ |
    ⟨p, -, uses, huses, hpool, -⟩ | ⟨hpool, -⟩ | ⟨-, hpool, -⟩
  · rw [hpool]
    exact hb.uses
  · rw [hpool]
    exact Slots.usesLive_step hb.uses (by simp)
  · rw [hpool, List.cons_append, Runs.run_cons, Runs.run_append]
    have hload : UsesLive (h.pool.step (.load p true)).trace :=
      Slots.usesLive_step hb.uses (by simp)
    refine Slots.usesLive_run ?_ fun q hq => ?_
    · rcases huses with rfl | rfl
      · exact hload
      · have hstale := not_stale_between hb hinit.of_step p
        obtain ⟨i, hi⟩ := Slots.slot_load h.pool p true
        exact Slots.usesLive_use (Slots.ok_step hb.pool.toOk _) hload hi
          (Slots.not_stale_load hb.pool.toOk hstale)
    · unfold exitActions at hq
      split_ifs at hq <;> simp at hq
  · rw [hpool]
    exact hb.uses
  · rw [hpool]
    exact Slots.usesLive_run hb.uses (by simp)

theorem between_step {h : Host} {c : Call} (hb : Between h) (hinit : InitsOk (callStep h c)) :
    Between (callStep h c) :=
  ⟨tidy_callStep hb.pool c, registered_callStep hb c, idle_callStep hb hinit,
    uses_callStep hb hinit⟩

/-- What holds of one command between commands holds along a run. -/
theorem along_between {good : Host → Call → Prop}
    (hgood : ∀ h c, Between h → InitsOk (callStep h c) → good h c) {h : Host} {cs : List Call}
    (hb : Between h) (hinit : InitsOk (run callStep h cs)) : Along callStep good h cs := by
  induction cs generalizing h with
  | nil => trivial
  | cons c cs ih =>
    have hc : InitsOk (callStep h c) := InitsOk.of_run hinit
    exact ⟨hgood h c hb hc, ih (between_step hb hc) hinit⟩

theorem between_run {h : Host} {cs : List Call} (hb : Between h)
    (hinit : InitsOk (run callStep h cs)) : Between (run callStep h cs) := by
  induction cs generalizing h with
  | nil => exact hb
  | cons c cs ih =>
    exact ih (between_step hb (InitsOk.of_run hinit)) hinit

theorem between_loaded (routing : ClientId → Option OutputCb) (e : InitEnv) :
    Between (loaded routing e) := by
  obtain ⟨g, hcom, hreg⟩ := loadExtension_spec e (Host.fresh routing)
  have hnone : ∀ p, (loaded routing e).pool.slot p = none := by
    intro p
    rcases hreg.slot p with hp | ⟨-, hp⟩
    · exact hp.trans (congrFun (congrArg Pool.slot hcom.providers.pool) p)
    · exact hp
  have htrace : (loaded routing e).pool.trace = [] :=
    congrArg (List.filterMap ProvCall.event?) (hreg.provCalls.trans hcom.providers.provCalls)
  refine ⟨?_, fun p hp => absurd (hnone p) hp, fun _ => hnone, ?_⟩
  · show Pool.Tidy ⟨(loaded routing e).pool.slot, (loaded routing e).pool.next,
      (loaded routing e).pool.trace⟩
    rw [htrace]
    exact Slots.tidy_empty _ hnone _
  · rw [htrace]
    exact Runs.guarded_nil

/-! ## The laws -/

theorem usesOwn_step {h : Host} {c : Call} (hb : Between h) : UsesOwn h c := by
  intro hoff q inst hmem
  have hnone := hb.idle hoff
  rw [Call.events] at hmem ⊢
  rcases call_cases h c with ⟨hpool, -⟩ | ⟨p, -, hslot, hpool, -⟩ |
    ⟨p, -, uses, huses, hpool, -⟩ | ⟨hpool, -⟩ | ⟨-, hpool, -⟩
  · rw [hpool, Slots.since_self] at hmem
    cases hmem
  · rw [hpool, Slots.since_step, Slots.Action.events, hslot] at hmem
    simp at hmem
  · rw [hoff] at hpool
    rw [hpool] at hmem ⊢
    have huse := Slots.use_of_since hmem
    rcases huses with rfl | rfl
    · simp [exitActions] at huse
    · have hevents := Slots.since_load_use_unload (hnone p)
      have has : Slots.Action.load p true :: [.use p] ++ exitActions false p =
          [.load p true, .use p, .unload p] := rfl
      rw [has, hevents] at hmem ⊢
      have hinst : inst = some ⟨p, h.pool.next⟩ := by
        simp at hmem
        exact hmem.2
      exact ⟨⟨p, h.pool.next⟩, hinst, by simp, by simp⟩
  · rw [hpool, Slots.since_self] at hmem
    cases hmem
  · rw [hpool] at hmem
    have huse := Slots.use_of_since hmem
    simp at huse

theorem stopClears_step {h : Host} {c : Call} (hb : Between h) : StopClears h c := by
  rintro ⟨hc, hok⟩ i hcreate
  have hnone : ∀ p, (callStep h c).pool.slot p = none := by
    intro p
    have hcases := stopvm_cases c.env c.client h
    rw [← exec_stopvm hc] at hcases
    rcases hcases with ⟨hfail, -⟩ | ⟨-, -, -, hpool, -⟩
    · rw [hok] at hfail
      cases hfail
    · rw [callStep, hpool]
      exact slot_unloadAll hb p
  refine ⟨?_, fun p hp => ?_⟩
  · rcases (tidy_callStep hb.pool c).ended i hcreate with hslot | hclean
    · rw [hnone] at hslot
      cases hslot
    · exact hclean
  · rw [hnone] at hp
    cases hp

theorem vm_of_startsVM {h : Host} {c : Call} (hc : StartsVM h c) :
    (callStep h c).ctx.startVMEnabled = true := by
  have hcases := startvm_cases c.env c.client h
  rw [← exec_startvm hc.1, hc.2] at hcases
  rcases hcases with ⟨hfail, -⟩ | ⟨-, -, hvm, -⟩
  · cases hfail
  · exact hvm

/-- With the VM on, commands that do not stop it unload nothing. -/
theorem run_keeps_vm {h : Host} {cs : List Call} (hvm : h.ctx.startVMEnabled = true)
    (hcs : Along callStep (fun h c => ¬ StopsVM h c) h cs) :
    ∃ as, (run callStep h cs).pool = run Pool.step h.pool as ∧
      ∀ a ∈ as, a.cleans = none ∧ a.empties = none := by
  induction cs generalizing h with
  | nil => exact ⟨[], rfl, by simp⟩
  | cons c cs ih =>
    have hone : (callStep h c).ctx.startVMEnabled = true ∧
        ∃ as, (callStep h c).pool = run Pool.step h.pool as ∧
          ∀ a ∈ as, a.cleans = none ∧ a.empties = none := by
      rcases call_cases h c with ⟨hpool, hvm'⟩ | ⟨p, -, -, hpool, hvm'⟩ |
        ⟨p, -, uses, huses, hpool, hvm'⟩ | ⟨hpool, hvm'⟩ | ⟨hstops, -, -⟩
      · exact ⟨hvm'.trans hvm, [], hpool, by simp⟩
      · refine ⟨hvm'.trans hvm, [.load p false], hpool, ?_⟩
        simp [Slots.Action.cleans, Slots.Action.empties]
      · rw [hvm] at hpool
        refine ⟨hvm'.trans hvm, _, hpool, ?_⟩
        rcases huses with rfl | rfl <;>
          simp [exitActions, Slots.Action.cleans, Slots.Action.empties]
      · exact ⟨hvm', [], hpool, by simp⟩
      · exact absurd hstops hcs.1
    obtain ⟨hvm', as, hpool, has⟩ := hone
    obtain ⟨bs, hpool', hbs⟩ := ih hvm' hcs.2
    refine ⟨as ++ bs, ?_, fun a ha => ?_⟩
    · rw [Runs.run_cons, hpool', hpool, Runs.run_append]
    · rcases List.mem_append.mp ha with ha | ha
      · exact has a ha
      · exact hbs a ha

/-- Without unloading, all uses of a provider are of one instance. -/
theorem oneInstance_of_keeps {s : Pool ProviderPtr} (hs : s.Ok)
    {as : List (Slots.Action ProviderPtr)} (has : ∀ a ∈ as, a.cleans = none ∧ a.empties = none)
    (huses : UsesLive (run Pool.step s as).trace) :
    OneInstance (s.since (run Pool.step s as)) := by
  have hempties : ∀ p, ∀ a ∈ as, a.empties ≠ some p := by
    intro p a ha
    rw [(has a ha).2]
    exact (Option.some_ne_none p).symm
  have hsome : ∀ p inst, .use p inst ∈ s.since (run Pool.step s as) →
      ∃ i, inst = some i ∧ (run Pool.step s as).slot p = some i := by
    intro p inst hmem
    obtain ⟨i, rfl⟩ := huses.exists_some (List.mem_of_mem_drop hmem)
    exact ⟨i, rfl, Slots.slot_of_use (hempties p) hmem⟩
  intro p inst inst' hmem hmem'
  obtain ⟨i, rfl, hi⟩ := hsome p inst hmem
  obtain ⟨i', rfl, hi'⟩ := hsome p inst' hmem'
  refine ⟨hi.symm.trans hi', i, rfl, fun hclean => ?_⟩
  obtain ⟨a, ha, howner⟩ := Slots.cleaned_of_since hs hclean
  rw [(has a ha).1] at howner
  cases howner

/-- **VM recycling and persistence.** Over every sequence of completed commands after
    `DebugExtensionInitialize` in which no `Init` fails: (a) between commands, if the VM
    is off, no registered provider has an instance; (b) a command that starts with the
    VM off only uses an instance that it makes and cleans up once; (c) from a
    successful `startvm` on, as long as no `stopvm` succeeds, each provider uses one
    instance that is not cleaned up; (d) after a successful `stopvm` no instance is
    live; (e) a rejected `startvm` or `stopvm` changes none of this. -/
theorem vm_recycling (routing : ClientId → Option OutputCb) (e : InitEnv) (cs : List Call)
    (hinit : InitsOk (run callStep (loaded routing e) cs)) :
    (∀ pre, pre <+: cs → IdleWhenOff (run callStep (loaded routing e) pre)) ∧
      Along callStep UsesOwn (loaded routing e) cs ∧
      (∀ pre c mid, pre ++ c :: mid <+: cs →
        let h := run callStep (loaded routing e) pre
        StartsVM h c → Along callStep (fun h c => ¬ StopsVM h c) (callStep h c) mid →
          OneInstance ((callStep h c).pool.since (run callStep (callStep h c) mid).pool)) ∧
      Along callStep StopClears (loaded routing e) cs ∧
      Along callStep RejectedKeeps (loaded routing e) cs := by
  have hb := between_loaded routing e
  -- every prefix of the run is between commands
  have hpre : ∀ pre, pre <+: cs → Between (run callStep (loaded routing e) pre) := by
    rintro pre ⟨post, rfl⟩
    rw [Runs.run_append] at hinit
    exact between_run hb (InitsOk.of_run hinit)
  refine ⟨?_, ?_, ?_, ?_, ?_⟩
  · intro pre hp hoff p _
    exact (hpre pre hp).idle hoff p
  · exact along_between (fun h c hb _ => usesOwn_step hb) hb hinit
  · intro pre c mid hp h hstart hmid
    obtain ⟨as, hpool, has⟩ := run_keeps_vm (vm_of_startsVM hstart) hmid
    have hbefore : Between (callStep h c) := by
      have := hpre (pre ++ [c]) (((List.prefix_append (pre ++ [c]) mid).trans (by simp)).trans hp)
      rwa [Runs.run_append] at this
    have hafter : Between (run callStep (callStep h c) mid) := by
      have := hpre _ hp
      rwa [Runs.run_append] at this
    have huses := hafter.uses
    rw [hpool] at huses ⊢
    exact oneInstance_of_keeps hbefore.pool.toOk has huses
  · exact along_between (fun h c hb _ => stopClears_step hb) hb hinit
  · exact along_between (fun h c _ _ => rejectedKeeps h c) hb hinit

/-- A script with the VM off, and two with the VM on. -/
theorem vm_recycling_three_scripts :
    let script := Call.succeeding (.script .runscript) 0 ⟨[45, 108, 32, 97, 32, 102], by decide⟩
    let h := loaded (fun _ => none)
      (InitEnv.succeeding 0 [⟨⟨[97], by decide⟩, true, ⟨[92, 100], by decide⟩⟩])
    let cs := [script, .succeeding .startvm 0 ⟨[], by decide⟩, script, script,
      .succeeding .stopvm 0 ⟨[], by decide⟩]
    (run callStep h cs).pool.trace =
        [.create ⟨1, 0⟩, .init ⟨1, 0⟩ true, .use 1 (some ⟨1, 0⟩), .cleanup ⟨1, 0⟩, .free 1,
          .create ⟨1, 1⟩, .init ⟨1, 1⟩ true, .use 1 (some ⟨1, 1⟩), .use 1 (some ⟨1, 1⟩),
          .cleanup ⟨1, 1⟩, .free 1] ∧
      Along callStep UsesOwn h cs ∧ IdleWhenOff (run callStep h cs) := by
  intro script h cs
  have htrace : (run callStep h cs).pool.trace =
      [.create ⟨1, 0⟩, .init ⟨1, 0⟩ true, .use 1 (some ⟨1, 0⟩), .cleanup ⟨1, 0⟩, .free 1,
        .create ⟨1, 1⟩, .init ⟨1, 1⟩ true, .use 1 (some ⟨1, 1⟩), .use 1 (some ⟨1, 1⟩),
        .cleanup ⟨1, 1⟩, .free 1] := by decide +kernel
  have hinit : InitsOk (run callStep h cs) := by
    intro i
    rw [htrace]
    simp
  obtain ⟨hidle, huses, -⟩ := vm_recycling (fun _ => none) _ cs hinit
  exact ⟨htrace, huses, hidle cs List.prefix_rfl⟩

end DbgScript
