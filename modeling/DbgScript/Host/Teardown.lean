import DbgScript.Host.Session

/-!
# No teardown under a running script

A script can execute extension commands, and these may unload the provider that runs
it: `runscript` and `evalstring` unload a provider when the VM was off at their start,
even if it was loaded before they came, and `stopvm` unloads all of them.

* `stackOk_step`: the invariant. Every running script runs on the instance in its
  provider's slot; and what is above it on the stack will not unload this provider.
* `running_not_torn_down`: in a session that never re-enters a provider with the VM
  off, and never stops the VM under a script, no running instance is cleaned up and
  no provider of a running script is freed.
-/

namespace DbgScript

open Slots (Pool)
open Runs (run Along)

/-! ## Specification -/

/-- What a step does to provider instances. -/
def Session.newEvents (s : Session) (l : Label) : List (Slots.Event ProviderPtr) :=
  s.host.pool.since (s.step l).host.pool

/-- The step neither cleans up an instance that is running after it nor frees a provider
    that has one. In a return, the script that returns is not running any more. -/
def KeepsRunning (s : Session) (l : Label) : Prop :=
  ∀ f ∈ (s.step l).scripts, (∀ i, f.inst = some i → .cleanup i ∉ s.newEvents l) ∧
    .free f.scriptProv ∉ s.newEvents l

/-- The step does not start a command that tears down the provider of a running script:
    a `runscript` or `evalstring` with the VM off does not get to load such a provider,
    and a `stopvm` under a script does not get past its checks. -/
def NoReentry (s : Session) : Label → Prop
  | .call (.script command) client args env =>
    s.accepts = true → s.host.ctx.startVMEnabled = false → ∀ f ∈ s.scripts,
      (loadPoint (.script command) env client args s.host).map Prod.snd ≠ some f.scriptProv
  | .call .stopvm client _ env =>
    s.accepts = true → s.host.ctx.startVMEnabled = true →
      FAILED (reAcquireIfacesIfNeeded env.qi client s.host).2 = false → s.scripts = []
  | _ => True

instance (s : Session) (l : Label) : Decidable (NoReentry s l) :=
  match l with
  | .call (.script _) _ _ _ => inferInstanceAs (Decidable (_ → _ → ∀ _ ∈ _, _))
  | .call .stopvm _ _ _ => inferInstanceAs (Decidable (_ → _ → _ → _))
  | .call .scriptpath _ _ _ | .call .startvm _ _ _ | .loadExtension _ | .unloadExtension
  | .buffer _ | .execute _ _ | .callback _ _ | .executed | .ret _ _ | .cleanedUp =>
    .isTrue trivial

/-! ## Running scripts keep their instances -/

/-- Every running script runs on the instance in its provider's slot. -/
def Running (s : Session) : Prop :=
  ∀ f ∈ s.scripts, ∃ i, f.inst = some i ∧ s.host.pool.slot f.scriptProv = some i

/-- A script that is running after a step was running before, or it has just been started
    on the instance in its provider's slot. -/
theorem step_scripts (s : Session) (l : Label) {f : ScriptFrame} (hf : f ∈ (s.step l).scripts) :
    f ∈ s.scripts ∨ ∃ i, f.inst = some i ∧ (s.step l).host.pool.slot f.scriptProv = some i := by
  have hchange := step_change s l
  generalize s.step l = s' at hf hchange ⊢
  cases hchange with
  | idle h =>
    rw [mem_scripts, h.work, ← mem_scripts] at hf
    exact Or.inl hf
  | loadExtension e hstack => cases hf
  | loadFailed command client args env p haccepts htarget hslot hpool hwork hlist =>
    rw [mem_scripts, hwork, ← mem_scripts] at hf
    exact Or.inl hf
  | started command client args env g haccepts htarget hvm hinst hpool hwork hlist =>
    rw [mem_scripts, hwork, List.mem_cons] at hf
    rcases hf with hf | hf
    · cases hf
      obtain ⟨i, hi⟩ := Slots.slot_load s.host.pool f.scriptProv true
      refine Or.inr ⟨i, hinst.trans hi, ?_⟩
      rw [hpool]
      exact hi
    · exact Or.inl (mem_scripts.mpr hf)
  | unwinds hunwinds hpool hlist =>
    left
    unfold Teardown.unwind at hf
    rw [scripts_unwind] at hf
    cases hunwinds with
    | exit command client args env p hr haccepts htarget => exact hf
    | stopvm client args env haccepts hvm hacquired => exact hf
    | unloadExtension hstack => cases hf
    | ret hr endTime g stack hstack =>
      rw [Session.scripts, hstack]
      exact List.mem_cons_of_mem _ hf
    | cleanedUp p i t stack hstack =>
      rw [Session.scripts, hstack]
      exact hf

/-- If no provider of a running script is freed, running scripts keep their instances. -/
theorem running_step (s : Session) (l : Label) (hok : HostOk s.host) (hs : Running s)
    (hkeep : KeepsRunning s l) : Running (s.step l) := by
  obtain ⟨as, hpool⟩ := step_pool s l hok
  intro f hf
  rcases step_scripts s l hf with hold | hnew
  · obtain ⟨i, hinst, hslot⟩ := hs f hold
    refine ⟨i, hinst, ?_⟩
    by_contra hne
    apply (hkeep f hf).2
    rw [hpool] at hne
    rw [Session.newEvents, hpool]
    exact Slots.free_of_slot_ne hslot hne
  · exact hnew

/-- A step that neither cleans up nor frees a provider of a script that goes on running. -/
theorem keepsRunning_of_actions {s : Session} {l : Label} (hok : SessionOk s) (hs : Running s)
    {as : List (Slots.Action ProviderPtr)}
    (hpool : (s.step l).host.pool = run Pool.step s.host.pool as)
    (has : ∀ f ∈ (s.step l).scripts, ∀ a ∈ as,
      a.cleans ≠ some f.scriptProv ∧ a.empties ≠ some f.scriptProv) : KeepsRunning s l := by
  intro f hf
  rw [Session.newEvents, hpool]
  constructor
  · intro i hinst hmem
    have howner : i.owner = f.scriptProv := by
      rcases step_scripts s l hf with hold | ⟨j, hj, hslot⟩
      · obtain ⟨j, hj, hslot⟩ := hs f hold
        rw [Option.some.inj (hinst.symm.trans hj)]
        exact hok.host.pool.owner _ _ hslot
      · rw [Option.some.inj (hinst.symm.trans hj)]
        exact (sessionOk_step s l hok).host.pool.owner _ _ hslot
    obtain ⟨a, ha, hcleans⟩ := Slots.cleaned_of_since hok.host.pool hmem
    rw [howner] at hcleans
    exact (has f hf a ha).1 hcleans
  · intro hmem
    obtain ⟨a, ha, hempties⟩ := Slots.emptied_of_since hmem
    exact (has f hf a ha).2 hempties

/-! ## The condition is enough -/

/-- What is above a script on the stack will not unload its provider. -/
def Frame.Spares (frame below : Frame) : Prop :=
  ∀ f, below = .script f → f.scriptProv ∉ frame.unloads

/-- A script that is going to unload its provider, and a teardown of a provider, have no
    script of this provider below them. -/
def Outermost (s : Session) : Prop := s.work.Pairwise Frame.Spares

theorem outermost_of_work_nil {s : Session} (h : s.work = []) : Outermost s := by
  rw [Outermost, h]
  exact List.Pairwise.nil

/-- What is left to do spares the scripts that go on running. -/
theorem Unwinds.spares {s : Session} {l : Label} {stack : List Frame} {t : Teardown}
    {as : List (Slots.Action ProviderPtr)} (hu : Unwinds s l stack t as) (hs : Outermost s)
    (hl : NoReentry s l) {f : ScriptFrame} (hf : .script f ∈ work stack) :
    f.scriptProv ∉ t.providers ∧
      ∀ a ∈ as, a.cleans ≠ some f.scriptProv ∧ a.empties ≠ some f.scriptProv := by
  cases hu with
  | exit command client args env p hr haccepts htarget =>
    refine ⟨fun hmem => ?_, by simp [Slots.Action.cleans, Slots.Action.empties]⟩
    obtain ⟨hvm, hp⟩ := mem_exitProviders.mp hmem
    exact hl haccepts hvm f (mem_scripts.mpr hf) (htarget.trans hp)
  | stopvm client args env haccepts hvm hacquired =>
    have hmem := mem_scripts.mpr hf
    rw [hl haccepts hvm hacquired] at hmem
    cases hmem
  | unloadExtension hstack => cases hf
  | ret hr endTime g stack hstack =>
    have hout := hs
    rw [Outermost, Session.work, hstack, work_script, List.pairwise_cons] at hout
    exact ⟨hout.1 _ hf f rfl, by simp⟩
  | cleanedUp p i t stack hstack =>
    have hout := hs
    rw [Outermost, Session.work, hstack, work_cleanup, List.pairwise_cons] at hout
    have hnot := hout.1 _ hf f rfl
    rw [Frame.unloads, List.mem_cons, not_or] at hnot
    refine ⟨hnot.2, ?_⟩
    rw [List.forall_mem_singleton]
    refine ⟨(Option.some_ne_none _).symm, fun hempties => ?_⟩
    exact hnot.1 (Option.some.inj hempties).symm

/-- Unwinding keeps the order of the stack. -/
theorem outermost_unwind {stack : List Frame} {rest : Rest} {ps : List ProviderPtr} {h : Host}
    (hout : (work stack).Pairwise Frame.Spares)
    (hps : ∀ f, .script f ∈ work stack → f.scriptProv ∉ ps) :
    Outermost (Session.unwind stack rest ps h) := by
  have hcases := unwind_cases stack rest ps h
  generalize Session.unwind stack rest ps h = s at hcases
  cases hcases with
  | done hnone => exact hout
  | cleaning skipped ps' p i hsplit hnone hslot =>
    refine List.Pairwise.cons (fun below hmem f hf hp => ?_) hout
    rw [hf] at hmem
    apply hps f hmem
    rw [hsplit]
    exact List.mem_append_right _ hp

/-- A step without re-entry keeps the order of the stack, and neither cleans up nor frees
    a provider of a script that goes on running. -/
theorem outermost_step (s : Session) (l : Label) (hok : SessionOk s) (hs : Outermost s)
    (hl : NoReentry s l) :
    Outermost (s.step l) ∧ ∃ as, (s.step l).host.pool = run Pool.step s.host.pool as ∧
      ∀ f ∈ (s.step l).scripts, ∀ a ∈ as,
        a.cleans ≠ some f.scriptProv ∧ a.empties ≠ some f.scriptProv := by
  have hchange := step_change s l
  generalize s.step l = s' at hchange
  cases hchange with
  | idle h =>
    refine ⟨?_, [], h.pool, by simp⟩
    rw [Outermost, h.work]
    exact hs
  | loadExtension e hstack =>
    exact ⟨outermost_of_work_nil rfl, [], (hostOk_loadExtension hok.host e).2, by simp⟩
  | loadFailed command client args env p haccepts htarget hslot hpool hwork hlist =>
    refine ⟨by rwa [Outermost, hwork], [.load p false], hpool, ?_⟩
    simp [Slots.Action.cleans, Slots.Action.empties]
  | started command client args env f haccepts htarget hvm hinst hpool hwork hlist =>
    refine ⟨?_, _, hpool, by simp [Slots.Action.cleans, Slots.Action.empties]⟩
    rw [Outermost, hwork]
    refine List.Pairwise.cons (fun below hmem g hg hp => ?_) hs
    rw [hg] at hmem
    obtain ⟨hoff, hsame⟩ := mem_exitProviders.mp hp
    exact hl haccepts (hvm.symm.trans hoff) g (mem_scripts.mpr hmem) (htarget.trans hsame)
  | @unwinds _ g stack t as hunwinds hpool hlist =>
    have hspares : ∀ f, .script f ∈ work stack → _ := fun f hf => hunwinds.spares hs hl hf
    obtain ⟨bs, hbs, hclean⟩ := pool_unwind stack t.rest t.providers g
    refine ⟨outermost_unwind (hs.sublist (hunwinds.spec hok).1.sublist) fun f hf =>
      (hspares f hf).1, as ++ bs, ?_, fun f hf a ha => ?_⟩
    · rw [Runs.run_append, ← hpool]
      exact hbs
    · have hmem : .script f ∈ work stack := by
        unfold Teardown.unwind at hf
        rw [scripts_unwind] at hf
        exact (mem_scripts (s := ⟨g, stack⟩)).mp hf
      rcases List.mem_append.mp ha with ha | ha
      · exact (hspares f hmem).2 a ha
      · obtain ⟨p, hp, rfl⟩ := hclean a ha
        refine ⟨fun hcleans => ?_, (Option.some_ne_none _).symm⟩
        exact (hspares f hmem).1 (Option.some.inj hcleans ▸ hp)

/-- The invariant of a session without re-entry. -/
structure StackOk (s : Session) : Prop where
  session : SessionOk s
  running : Running s
  outermost : Outermost s

theorem stackOk_fresh (routing : ClientId → Option OutputCb) : StackOk (Session.fresh routing) :=
  ⟨sessionOk_fresh routing, fun f hf => by simp [Session.fresh, Session.scripts] at hf,
    outermost_of_work_nil rfl⟩

theorem keepsRunning_step (s : Session) (l : Label) (hs : StackOk s) (hl : NoReentry s l) :
    KeepsRunning s l := by
  obtain ⟨-, as, hpool, has⟩ := outermost_step s l hs.session hs.outermost hl
  exact keepsRunning_of_actions hs.session hs.running hpool has

theorem stackOk_step (s : Session) (l : Label) (hs : StackOk s) (hl : NoReentry s l) :
    StackOk (s.step l) :=
  ⟨sessionOk_step s l hs.session,
    running_step s l hs.session.host hs.running (keepsRunning_step s l hs hl),
    (outermost_step s l hs.session hs.outermost hl).1⟩

/-! ## The condition is necessary -/

/-- Something on the stack will unload the provider of a script below it. -/
def Doomed (s : Session) : Prop := ∃ f, Undercut s.work (.script f) f.scriptProv

/-- A re-entry dooms a running script. -/
theorem doomed_of_reentry {s : Session} {l : Label} (hok : SessionOk s) (hs : Running s)
    (hl : ¬ NoReentry s l) : Doomed (s.step l) := by
  cases l with
  | call command client args env =>
    cases command with
    | script command =>
      simp only [NoReentry, not_forall, not_not] at hl
      obtain ⟨haccepts, hvm, f, hf, htarget⟩ := hl
      obtain ⟨i, -, hslot⟩ := hs f hf
      exact ⟨f, undercut_script haccepts hvm htarget hslot (mem_scripts.mp hf)⟩
    | stopvm =>
      simp only [NoReentry, not_forall] at hl
      obtain ⟨haccepts, hvm, hacquired, hne⟩ := hl
      obtain ⟨f, hf⟩ := List.exists_mem_of_ne_nil _ hne
      obtain ⟨i, -, hslot⟩ := hs f hf
      have hmem := mem_scripts.mp hf
      have hreg := hok.registered _ hmem _ (List.mem_singleton_self _)
      exact ⟨f, undercut_stopvm args haccepts hvm hacquired hreg hslot hmem⟩
    | scriptpath => exact absurd trivial hl
    | startvm => exact absurd trivial hl
  | _ => exact absurd trivial hl

/-- If the `Cleanup` of its provider returns above a script, the provider is freed under it. -/
theorem not_keepsRunning_cleanedUp {s : Session} {f : ScriptFrame} {j : Instance} {t : Teardown}
    {stack : List Frame} (hstack : s.stack = .cleanup f.scriptProv j t :: stack)
    (hf : .script f ∈ work stack) : ¬ KeepsRunning s .cleanedUp := by
  intro hkeep
  have hstep : s.step .cleanedUp = t.unwind stack (endUnload s.host f.scriptProv) := by
    rw [Session.step, hstack]
  have hrunning : f ∈ (s.step .cleanedUp).scripts := by
    rw [hstep, Teardown.unwind, scripts_unwind]
    exact (mem_scripts (s := ⟨s.host, stack⟩)).mpr hf
  obtain ⟨bs, hbs, -⟩ := pool_unwind stack t.rest t.providers (endUnload s.host f.scriptProv)
  rw [pool_endUnload] at hbs
  have hpool : (s.step .cleanedUp).host.pool =
      run Pool.step s.host.pool (.free f.scriptProv :: bs) := by
    rw [hstep]
    exact hbs
  apply (hkeep f hrunning).2
  unfold Session.newEvents
  rw [hpool, Slots.mem_since_cons]
  exact Or.inl (List.mem_singleton_self _)

/-- A doomed script stays doomed as long as its provider is not freed. -/
theorem doomed_step {s : Session} {l : Label} (hs : Running s) (hkeep : KeepsRunning s l)
    (hd : Doomed s) : Doomed (s.step l) := by
  obtain ⟨f, hu⟩ := hd
  obtain ⟨i, -, hslot⟩ := hs f (mem_scripts.mpr hu.mem)
  rcases undercut_step (l := l) hu hslot with hu | ⟨j, t, stack, rfl, hstack, hlow⟩
  · exact ⟨f, hu⟩
  · exact absurd hkeep (not_keepsRunning_cleanedUp hstack hlow)

/-- In a session that ends with no script running, every re-entry tears down a running
    script. -/
theorem noReentry_of_keepsRunning {s : Session} {ls : List Label} (hok : SessionOk s)
    (hs : Running s) (hkeep : Along Session.step KeepsRunning s ls)
    (hend : (run Session.step s ls).scripts = []) : Along Session.step NoReentry s ls := by
  induction ls generalizing s with
  | nil => trivial
  | cons l ls ih =>
    have hok' := sessionOk_step s l hok
    have hs' := running_step s l hok.host hs hkeep.1
    refine ⟨?_, ih hok' hs' hkeep.2 hend⟩
    by_contra hl
    have hfinal := Runs.run_inv
      (I := fun s : Session => SessionOk s ∧ Running s ∧ Doomed s)
      (fun s l h hk => ⟨sessionOk_step s l h.1, running_step s l h.1.host h.2.1 hk,
        doomed_step h.2.1 hk h.2.2⟩)
      ⟨hok', hs', doomed_of_reentry hok hs hl⟩ hkeep.2
    obtain ⟨-, -, f, hu⟩ := hfinal
    have hmem : f ∈ (run Session.step (s.step l) ls).scripts := mem_scripts.mpr hu.mem
    rw [Runs.run_cons] at hend
    rw [hend] at hmem
    cases hmem

/-- **No provider is torn down under a running script.** In a session of any calls, nested
    in scripts, in `Cleanup` calls and in each other: if no step re-enters a running
    provider with the VM off or stops the VM under a script, then no step cleans up an
    instance that is running or frees its provider; and in a session that ends with no
    script running, only then. -/
theorem running_not_torn_down (routing : ClientId → Option OutputCb) (ls : List Label) :
    (Along Session.step NoReentry (Session.fresh routing) ls →
        Along Session.step KeepsRunning (Session.fresh routing) ls) ∧
      ((run Session.step (Session.fresh routing) ls).scripts = [] →
        Along Session.step KeepsRunning (Session.fresh routing) ls →
          Along Session.step NoReentry (Session.fresh routing) ls) := by
  have hfresh := stackOk_fresh routing
  constructor
  · intro hls
    exact Runs.along_of_inv stackOk_step keepsRunning_step hfresh hls
  · intro hend hkeep
    exact noReentry_of_keepsRunning hfresh.session hfresh.running hkeep hend

/-- A script runs another one of its language while the VM is off. -/
theorem running_torn_down :
    let call : Label := .call (.script .runscript) 0 ⟨[45, 108, 32, 97, 32, 102], by decide⟩
      CommandEnv.succeeding
    let ls : List Label :=
      [.loadExtension (InitEnv.succeeding 0 [⟨⟨[97], by decide⟩, true, ⟨[92, 100], by decide⟩⟩]),
        call, .execute ⟨S_OK, S_OK, [], S_OK, S_OK⟩ ⟨[120], by decide⟩, call]
    let s := run Session.step (Session.fresh fun _ => none) ls
    ¬ KeepsRunning s (.ret S_OK 0) := by
  intro call ls s hkeep
  have hscripts : (s.step (.ret S_OK 0)).scripts =
      [⟨.runscript, false, 1, some ⟨1, 0⟩, false, 0⟩] := by decide +kernel
  have hevents : s.newEvents (.ret S_OK 0) = [.cleanup ⟨1, 0⟩] := by decide +kernel
  have hmem := hkeep ⟨.runscript, false, 1, some ⟨1, 0⟩, false, 0⟩ (by rw [hscripts]; simp)
  rw [hevents] at hmem
  exact hmem.1 ⟨1, 0⟩ rfl (List.mem_singleton_self _)

end DbgScript
