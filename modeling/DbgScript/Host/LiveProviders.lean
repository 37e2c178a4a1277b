import DbgScript.Host.Session

/-!
# Scripts run on live instances

`loadScriptProviderIfNeeded` takes a provider for loaded when its `ScriptProvider` is
set. But a load that fails in `Init` leaves it set, so the next command for that provider
runs a script on an instance whose `Init` has failed. And it stays set while `Cleanup`
runs, so a command that is called from there runs a script on an instance whose `Cleanup`
has been called.

* `loadsLive_iff`: a load that reports success yields a live instance iff the slot does
  not hold such an instance already.
* `usesLive_step`: a step that loads no such provider only runs live instances.
* `runs_live_iff`: in a run, all scripts run on live instances and all successful loads
  yield one iff no step loads a provider that is stale in this way.
-/

namespace DbgScript

open Slots (Live UsesLive)
open Runs (run Along)

/-! ## Specification -/

/-- Where a step calls `loadScriptProviderIfNeeded`, if it does: the results of the
    outside calls, the host, and the provider. -/
def Session.loadPoint (s : Session) : Label → Option (LoadEnv × Host × ProviderPtr)
  | .call command client args env =>
    if s.accepts then
      (DbgScript.loadPoint command env client args s.host).map fun r => (env.load, r)
    else none
  | _ => none

/-- A load that reports success leaves a live instance. -/
def LoadsLive (s : Session) (l : Label) : Prop :=
  ∀ e g p, s.loadPoint l = some (e, g, p) → FAILED (loadScriptProviderIfNeeded e p g).2 = false →
    ∃ i, (loadScriptProviderIfNeeded e p g).1.pool.slot p = some i ∧
      Live (loadScriptProviderIfNeeded e p g).1.pool.trace i

/-- The step loads a provider whose `ScriptProvider` is an instance that failed its
    `Init`, or whose `Cleanup` has been called. -/
def LoadsStale (s : Session) (l : Label) : Prop :=
  ∃ e g p, s.loadPoint l = some (e, g, p) ∧ s.host.pool.Stale p

/-! ## One step -/

theorem pool_loadPoint {s : Session} {l : Label} {e : LoadEnv} {g : Host} {p : ProviderPtr}
    (hp : s.loadPoint l = some (e, g, p)) : g.pool = s.host.pool := by
  unfold Session.loadPoint at hp
  split at hp
  · split_ifs at hp
    obtain ⟨⟨g', q⟩, hpoint, heq⟩ := Option.map_eq_some_iff.mp hp
    cases heq
    exact (loadPoint_spec hpoint).2
  · cases hp

/-- The code's test for a loaded provider is right iff the provider is not stale. -/
theorem loadsLive_iff {s : Session} (hok : HostOk s.host) (l : Label) :
    LoadsLive s l ↔ ¬ LoadsStale s l := by
  constructor
  · rintro hlive ⟨e, g, p, hpoint, i, hslot, hbad⟩
    have hpool := pool_loadPoint hpoint
    have hload : loadScriptProviderIfNeeded e p g = (g, S_OK) := by
      have hinfo : (g.info p).scriptProvider = some i := by
        rw [← hpool] at hslot
        exact hslot
      rw [loadScriptProviderIfNeeded, hinfo]
    obtain ⟨j, hj, hgood⟩ := hlive e g p hpoint (by rw [hload]; exact failed_S_OK)
    rw [hload] at hj hgood
    rw [hpool] at hj hgood
    exact hok.pool.not_stale hj hgood ⟨i, hslot, hbad⟩
  · intro hfine e g p hpoint hsuccess
    have hpool := (load_effect e p g).2 hsuccess
    rw [pool_loadPoint hpoint] at hpool
    obtain ⟨i, hi⟩ := Slots.slot_load s.host.pool p true
    have hp : ¬ s.host.pool.Stale p := fun hp => hfine ⟨e, g, p, hpoint, hp⟩
    refine ⟨i, ?_, ?_⟩
    · rw [hpool, hi]
    · rw [hpool]
      exact (Slots.ok_step hok.pool _).live hi (Slots.not_stale_load hok.pool hp)

/-- A step that loads no stale provider only runs live instances. -/
theorem usesLive_step (s : Session) (l : Label) (hok : HostOk s.host)
    (huses : UsesLive s.host.pool.trace) (hfine : ¬ LoadsStale s l) :
    UsesLive (s.step l).host.pool.trace := by
  have hchange := step_change s l
  generalize s.step l = s' at hchange
  cases hchange with
  | idle h =>
    rw [h.pool]
    exact huses
  | loadExtension e hstack =>
    show UsesLive (debugExtensionInitialize e s.host).1.pool.trace
    rw [(hostOk_loadExtension hok e).2]
    exact huses
  | loadFailed command client args env p haccepts htarget hslot hpool hwork hlist =>
    rw [hpool]
    exact Slots.usesLive_step huses (by simp)
  | started command client args env f haccepts htarget hvm hinst hpool hwork hlist =>
    -- the only step that calls `Run` or `RunString`
    obtain ⟨⟨g, q⟩, hpoint, hq⟩ := Option.map_eq_some_iff.mp htarget
    have hp : ¬ s.host.pool.Stale f.scriptProv := by
      refine fun hp => hfine ⟨env.load, g, q, ?_, by rwa [← hq] at hp⟩
      rw [Session.loadPoint, if_pos haccepts, hpoint]
      rfl
    obtain ⟨i, hi⟩ := Slots.slot_load s.host.pool f.scriptProv true
    rw [hpool]
    exact Slots.usesLive_use (Slots.ok_step hok.pool _)
      (Slots.usesLive_step huses (a := .load f.scriptProv true) (by simp)) hi
      (Slots.not_stale_load hok.pool hp)
  | @unwinds _ g stack t as hunwinds hpool hlist =>
    obtain ⟨bs, hbs, hclean⟩ := pool_unwind stack t.rest t.providers g
    have hg : UsesLive g.pool.trace := by
      rw [hpool]
      refine Slots.usesLive_run huses fun p => ?_
      cases hunwinds <;> simp
    show UsesLive (Session.unwind stack t.rest t.providers g).host.pool.trace
    rw [hbs]
    refine Slots.usesLive_run hg fun p hmem => ?_
    obtain ⟨q, -, heq⟩ := hclean _ hmem
    cases heq

/-! ## Runs -/

theorem usesLive_run {s : Session} (hs : SessionOk s) (huses : UsesLive s.host.pool.trace)
    {ls : List Label} (hls : Along Session.step (fun s l => ¬ LoadsStale s l) s ls) :
    UsesLive (run Session.step s ls).host.pool.trace :=
  (Runs.run_inv (I := fun s : Session => SessionOk s ∧ UsesLive s.host.pool.trace)
    (fun s l hs hl => ⟨sessionOk_step s l hs.1, usesLive_step s l hs.1.host hs.2 hl⟩)
    ⟨hs, huses⟩ hls).2

/-- **Run only on a live, initialised provider.** In a session of any calls, nested in
    scripts, in `Cleanup` calls and in each other, and with any outcomes: every `Run` and
    `RunString` is made on an instance whose `Init` has succeeded and whose `Cleanup` has
    not been called, and every load that reports success yields such an instance, iff no
    step loads a provider that has an instance whose `Init` has failed or whose `Cleanup`
    has been called. -/
theorem runs_live_iff (routing : ClientId → Option OutputCb) (ls : List Label) :
    UsesLive (run Session.step (Session.fresh routing) ls).host.pool.trace ∧
        Along Session.step LoadsLive (Session.fresh routing) ls ↔
      Along Session.step (fun s l => ¬ LoadsStale s l) (Session.fresh routing) ls := by
  have hok : SessionOk (Session.fresh routing) := sessionOk_fresh routing
  have hagree : Along Session.step LoadsLive (Session.fresh routing) ls ↔
      Along Session.step (fun s l => ¬ LoadsStale s l) (Session.fresh routing) ls :=
    Runs.along_congr (I := SessionOk) sessionOk_step (fun s l hs => loadsLive_iff hs.host l) hok
  constructor
  · rintro ⟨-, hlive⟩
    exact hagree.mp hlive
  · intro hls
    exact ⟨usesLive_run hok Runs.guarded_nil hls, hagree.mpr hls⟩

/-- The `Cleanup` that a `!stopvm` calls executes a command that runs a script. -/
example :
    let script := Label.call (.script .runscript) 0 ⟨[45, 108, 32, 97, 32, 102], by decide⟩
      CommandEnv.succeeding
    let ls : List Label :=
      [.loadExtension (InitEnv.succeeding 0 [⟨⟨[97], by decide⟩, true, ⟨[92, 100], by decide⟩⟩]),
        .call .startvm 0 ⟨[], by decide⟩ CommandEnv.succeeding, script, .ret S_OK 0,
        .call .stopvm 0 ⟨[], by decide⟩ CommandEnv.succeeding,
        .execute ⟨S_OK, S_OK, [], S_OK, S_OK⟩ ⟨[120], by decide⟩, script]
    (run Session.step (Session.fresh fun _ => none) ls).host.pool.trace =
      [.create ⟨1, 0⟩, .init ⟨1, 0⟩ true, .use 1 (some ⟨1, 0⟩), .cleanup ⟨1, 0⟩,
        .use 1 (some ⟨1, 0⟩)] := by
  decide +kernel

/-- `Init` fails in one `!runscript -l a f`, and the next one runs the script. -/
theorem runs_uninitialised_instance :
    let ls : List Label :=
      [.loadExtension (InitEnv.succeeding 0 [⟨⟨[97], by decide⟩, true, ⟨[92, 100], by decide⟩⟩]),
        .call (.script .runscript) 0 ⟨[45, 108, 32, 97, 32, 102], by decide⟩
          { CommandEnv.succeeding with load := { CommandEnv.succeeding.load with init := E_FAIL } },
        .call (.script .runscript) 0 ⟨[45, 108, 32, 97, 32, 102], by decide⟩
          CommandEnv.succeeding]
    ¬ UsesLive (run Session.step (Session.fresh fun _ => none) ls).host.pool.trace := by
  intro ls huses
  have htrace : (run Session.step (Session.fresh fun _ => none) ls).host.pool.trace =
      [.create ⟨1, 0⟩, .init ⟨1, 0⟩ false, .use 1 (some ⟨1, 0⟩)] := by decide +kernel
  rw [htrace] at huses
  obtain ⟨j, hj, hinit, -⟩ := huses [.create ⟨1, 0⟩, .init ⟨1, 0⟩ false] _ [] rfl 1 _ rfl
  rw [← Option.some.inj hj] at hinit
  simp at hinit

end DbgScript
