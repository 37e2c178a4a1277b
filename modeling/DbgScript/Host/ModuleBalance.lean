import DbgScript.Host.Cleanups
import DbgScript.Host.ModuleMoves

/-!
# Modules and instances, taken and given back

A provider's module is freed by `unloadScriptProvider`, which takes a provider without
an instance for one that has nothing to give back. A load that fails between
`LoadLibrary` and `CreateFunc` leaves it with a module and without an instance: nothing
frees the module, and the next load overwrites its handle. And a provider whose `Cleanup`
is running still has its instance, so that it can be unloaded a second time from there.

* `accounts_step`, `excess_step`: the invariant of the modules, and what is left of a load
  that leaks.
* `attached_step`: only providers that are still to be unloaded have instances.
* `modules_balanced_iff`: at the end of a session everything has been given back, and
  every load that got no instance has left the node empty, iff no load has leaked and no
  command has unloaded a provider whose `Cleanup` was running (or loaded one whose node
  had been deleted).
-/

namespace DbgScript

open Ledger (Move owned)
open Slots (Pool)
open Runs (run Along)

/-! ## Specification -/

/-- Every module that has been loaded for a provider has been freed, and every instance
    has been cleaned up once. -/
structure ProvidersBalanced (h : Host) : Prop where
  modules : ∀ p, h.provCalls.countP (ProvCall.loads p) = h.provCalls.countP (ProvCall.frees p)
  instances : ∀ i, .create i ∈ h.provCalls → h.provCalls.count (.cleanup i) = 1

/-- If the step loads a provider and gets no instance, `Module` and the callbacks are null,
    as they were. -/
def CleanFailure (s : Session) (l : Label) : Prop :=
  ∀ e g p, s.loadPoint l = some (e, g, p) →
    ((loadScriptProviderIfNeeded e p g).1.info p).scriptProvider = none →
      (g.info p).Unbound ∧ ((loadScriptProviderIfNeeded e p g).1.info p).Unbound

/-- The step loads a provider that has no instance, gets a module and then fails. -/
def LeaksModule (s : Session) (l : Label) : Prop :=
  ∃ e g p, s.loadPoint l = some (e, g, p) ∧ (g.info p).scriptProvider = none ∧
    e.Leaks (g.info p)

/-- The nodes that `DebugExtensionUninitialize` has not deleted when it cleans up `p`. -/
def Frame.undeleted : Frame → Option (List ProviderPtr)
  | .cleanup p _ t => if t.rest = .unloadExtension then some (p :: t.providers) else none
  | _ => none

/-- The step loads a provider whose node `DebugExtensionUninitialize` has deleted: what it
    does is undefined. -/
def LoadsDeleted (s : Session) (l : Label) : Prop :=
  ∃ r ∈ s.loadPoint l, ∃ ps ∈ s.stack.filterMap Frame.undeleted, r.2.2 ∉ ps

instance (s : Session) (l : Label) : Decidable (LoadsDeleted s l) :=
  inferInstanceAs (Decidable (∃ _ ∈ _, ∃ _ ∈ _, _))

/-! ## The invariant of the modules -/

variable {h h' : Host} {p : ProviderPtr}

/-- The cleanups are those of the pool's trace. -/
theorem count_cleanupEvent (h : Host) (i : Instance) :
    h.pool.trace.count (.cleanup i) = h.provCalls.count (.cleanup i) := by
  rw [Host.pool, List.count_filterMap, List.count_eq_countP]
  congr 1
  funext c
  cases c <;> simp [ProvCall.event?]

theorem mem_createEvent {h : Host} {i : Instance} :
    .create i ∈ h.pool.trace ↔ .create i ∈ h.provCalls := by
  constructor
  · intro hi
    obtain ⟨c, hc, hevent⟩ := List.mem_filterMap.mp hi
    cases c with
    | create inst =>
      cases hevent
      exact hc
    | _ => cases hevent
  · intro hi
    exact List.mem_filterMap.mpr ⟨_, hi, rfl⟩

/-- The books of the host: a provider owns a module iff it has an instance, and without
    one its node is empty. -/
structure Accounts (h : Host) : Prop where
  modules : ∀ p, owned h.modules p = if (h.info p).scriptProvider = none then 0 else 1
  unbound : ∀ p, (h.info p).scriptProvider = none → (h.info p).Unbound

/-- The provider owns more modules than unloading it gives back. -/
def Excess (p : ProviderPtr) (h : Host) : Prop :=
  (if (h.info p).scriptProvider = none then 0 else 1) < owned h.modules p

theorem accounts_fresh (routing : ClientId → Option OutputCb) : Accounts (Host.fresh routing) :=
  ⟨fun _ => rfl, fun _ _ => ⟨rfl, rfl, rfl, rfl⟩⟩

theorem Accounts.same (ha : Accounts h) (hs : SameModules h h') : Accounts h' := by
  refine ⟨?_, ?_⟩
  · rw [hs.info, hs.modules]
    exact ha.modules
  · rw [hs.info]
    exact ha.unbound

theorem Excess.same (hx : Excess p h) (hs : SameModules h h') : Excess p h' := by
  unfold Excess
  rw [hs.info, hs.modules]
  exact hx

/-- Writing a node does not touch the books of the other providers. -/
theorem WritesNode.frame {i : ScriptProviderInfo} {new : List (Move ProviderPtr)}
    (hw : WritesNode p i new h h') (hnew : ∀ m ∈ new, m = .acquire p ∨ m = .release p)
    {q : ProviderPtr} (hq : q ≠ p) :
    h'.info q = h.info q ∧ owned h'.modules q = owned h.modules q := by
  refine ⟨?_, ?_⟩
  · rw [hw.info, Function.update_of_ne hq]
  · rw [hw.modules]
    exact Ledger.owned_append_of_ne hnew hq

theorem Accounts.write {i : ScriptProviderInfo} {new : List (Move ProviderPtr)} (ha : Accounts h)
    (hw : WritesNode p i new h h') (hnew : ∀ m ∈ new, m = .acquire p ∨ m = .release p)
    (howned : owned h'.modules p = if i.scriptProvider = none then 0 else 1)
    (hunbound : i.scriptProvider = none → i.Unbound) : Accounts h' := by
  refine ⟨fun q => ?_, fun q => ?_⟩
  · by_cases hq : q = p
    · rw [hq, hw.info_self]
      exact howned
    · rw [(hw.frame hnew hq).1, (hw.frame hnew hq).2]
      exact ha.modules q
  · by_cases hq : q = p
    · rw [hq, hw.info_self]
      exact hunbound
    · rw [(hw.frame hnew hq).1]
      exact ha.unbound q

theorem Excess.write {i : ScriptProviderInfo} {new : List (Move ProviderPtr)} {q : ProviderPtr}
    (hx : Excess q h) (hw : WritesNode p i new h h')
    (hnew : ∀ m ∈ new, m = .acquire p ∨ m = .release p)
    (howned : Excess p h → (if i.scriptProvider = none then 0 else 1) < owned h'.modules p) :
    Excess q h' := by
  by_cases hq : q = p
  · rw [hq] at hx ⊢
    unfold Excess
    rw [hw.info_self]
    exact howned hx
  · unfold Excess
    rw [(hw.frame hnew hq).1, (hw.frame hnew hq).2]
    exact hx

theorem accounts_endUnload (ha : Accounts h) (hslot : (h.info p).scriptProvider ≠ none) :
    Accounts (endUnload h p) := by
  obtain ⟨i, hw, hi, hun⟩ := endUnload_outcome h p
  refine ha.write hw (by simp) ?_ fun _ => hun
  have hp := ha.modules p
  rw [if_neg hslot] at hp
  rw [hw.modules, Ledger.owned_release, if_pos rfl, if_pos hi]
  omega

theorem excess_endUnload {q : ProviderPtr} (hx : Excess q h)
    (hslot : (h.info p).scriptProvider ≠ none) : Excess q (endUnload h p) := by
  obtain ⟨i, hw, hi, -⟩ := endUnload_outcome h p
  refine hx.write hw (by simp) fun hp => ?_
  unfold Excess at hp
  rw [if_neg hslot] at hp
  rw [hw.modules, Ledger.owned_release, if_pos rfl, if_pos hi]
  omega

/-- A load is none if the provider has an instance. -/
theorem load_outcome (e : LoadEnv) (p : ProviderPtr) (h : Host) :
    (h.info p).scriptProvider ≠ none ∧ (loadScriptProviderIfNeeded e p h).1 = h ∨
      (h.info p).scriptProvider = none ∧
        LoadOutcome e p h (loadScriptProviderIfNeeded e p h).1 := by
  unfold loadScriptProviderIfNeeded
  split
  · next hslot => exact Or.inr ⟨hslot, loadAndCreate_outcome e p h hslot⟩
  · next inst hslot => exact Or.inl ⟨by simp [hslot], rfl⟩

theorem accounts_load {e : LoadEnv} (ha : Accounts h)
    (hleak : (h.info p).scriptProvider = none → ¬ e.Leaks (h.info p)) :
    Accounts (loadScriptProviderIfNeeded e p h).1 := by
  rcases load_outcome e p h with ⟨-, heq⟩ | ⟨hslot, houtcome⟩
  · rwa [heq]
  · have hp := ha.modules p
    rw [if_pos hslot] at hp
    cases houtcome with
    | failed i _ hw hi hun =>
      refine ha.write hw (by simp) ?_ fun _ => hun (ha.unbound p hslot)
      rw [hw.modules, List.append_nil, hp, if_pos hi]
    | leaked i hleaks _ _ => exact absurd hleaks (hleak hslot)
    | loaded i _ hw hi =>
      refine ha.write hw (by simp) ?_ fun hnone => absurd hnone hi
      rw [hw.modules, Ledger.owned_acquire, if_pos rfl, if_neg hi, hp, Int.zero_add]

/-- A load that leaks leaves a module that nothing gives back. -/
theorem excess_of_leak {e : LoadEnv} (ha : Accounts h) (hslot : (h.info p).scriptProvider = none)
    (hleak : e.Leaks (h.info p)) : Excess p (loadScriptProviderIfNeeded e p h).1 := by
  rcases load_outcome e p h with ⟨hne, -⟩ | ⟨-, houtcome⟩
  · exact absurd hslot hne
  · cases houtcome with
    | leaked i _ hw hi =>
      have hp := ha.modules p
      rw [if_pos hslot] at hp
      unfold Excess
      rw [hw.info_self, if_pos hi, hw.modules, Ledger.owned_acquire, if_pos rfl]
      omega
    | failed i hno _ _ _ => exact absurd hleak hno
    | loaded i hno _ _ => exact absurd hleak hno

theorem excess_load {q : ProviderPtr} (hx : Excess q h) (e : LoadEnv) (p : ProviderPtr) :
    Excess q (loadScriptProviderIfNeeded e p h).1 := by
  rcases load_outcome e p h with ⟨-, heq⟩ | ⟨hslot, houtcome⟩
  · rwa [heq]
  · have hmore : Excess p h → 0 < owned h.modules p := by
      intro hp
      unfold Excess at hp
      rwa [if_pos hslot] at hp
    cases houtcome with
    | failed i _ hw hi _ =>
      refine hx.write hw (by simp) fun hp => ?_
      rw [if_pos hi, hw.modules, List.append_nil]
      exact hmore hp
    | leaked i _ hw hi =>
      refine hx.write hw (by simp) fun hp => ?_
      have := hmore hp
      rw [if_pos hi, hw.modules, Ledger.owned_acquire, if_pos rfl]
      omega
    | loaded i _ hw hi =>
      refine hx.write hw (by simp) fun hp => ?_
      have := hmore hp
      rw [if_neg hi, hw.modules, Ledger.owned_acquire, if_pos rfl]
      omega

/-- A new node had no instance before it was written. -/
theorem HostOk.slot_new (hok : HostOk h) (hp : h.nextNode ≤ p) :
    (h.info p).scriptProvider = none := by
  by_contra hne
  exact absurd (hok.slots p hne) (Nat.not_lt.mpr hp)

theorem accounts_newNodes (hn : NewNodes h h') (hok : HostOk h) (ha : Accounts h) :
    Accounts h' := by
  refine ⟨fun p => ?_, fun p => ?_⟩
  · rw [hn.modules, ha.modules p]
    rcases hn.info p with hp | ⟨hle, -, hnone⟩
    · rw [hp]
    · rw [if_pos hnone, if_pos (hok.slot_new hle)]
  · rcases hn.info p with hp | ⟨-, hun, -⟩
    · rw [hp]
      exact ha.unbound p
    · exact fun _ => hun

theorem excess_newNodes (hn : NewNodes h h') (hok : HostOk h) (hx : Excess p h) : Excess p h' := by
  unfold Excess at hx ⊢
  rw [hn.modules]
  rcases hn.info p with hp | ⟨hle, -, hnone⟩
  · rwa [hp]
  · rw [if_pos (hok.slot_new hle)] at hx
    rwa [if_pos hnone]

/-! ## One step -/

/-- The provider whose `Cleanup` returns has its instance. -/
theorem slot_of_kept {s : Session} (hk : Kept s.work s.host.pool) {i : Instance} {t : Teardown}
    {stack : List Frame} (hstack : s.stack = .cleanup p i t :: stack) :
    (s.host.info p).scriptProvider ≠ none := by
  have hmem : .cleanup p i t ∈ s.work := by
    rw [Session.work, hstack, work_cleanup]
    exact List.mem_cons_self
  have hslot : (s.host.info p).scriptProvider = some i := (hk.slot p i t hmem).1
  rw [hslot]
  exact Option.some_ne_none i

theorem accounts_step {s : Session} {l : Label} (hok : HostOk s.host)
    (hk : Kept s.work s.host.pool) (ha : Accounts s.host) (hl : ¬ LeaksModule s l) :
    Accounts (s.step l).host := by
  cases step_modules s l with
  | same hpoint hs => exact ha.same hs
  | load e g p hpoint hg hs =>
    refine (accounts_load (ha.same hg) fun hslot hleak => ?_).same hs
    exact hl ⟨e, g, p, hpoint, hslot, hleak⟩
  | registers hpoint hn => exact accounts_newNodes hn hok ha
  | unload p i t stack hpoint hstack hs =>
    exact (accounts_endUnload ha (slot_of_kept hk hstack)).same hs

theorem excess_step {s : Session} {l : Label} (hok : HostOk s.host)
    (hk : Kept s.work s.host.pool) (hx : Excess p s.host) : Excess p (s.step l).host := by
  cases step_modules s l with
  | same hpoint hs => exact hx.same hs
  | load e g q hpoint hg hs => exact (excess_load (hx.same hg) e q).same hs
  | registers hpoint hn => exact excess_newNodes hn hok hx
  | unload q i t stack hpoint hstack hs =>
    exact (excess_endUnload hx (slot_of_kept hk hstack)).same hs

/-- A step with a load, seen from the modules: the load, and nothing else. -/
theorem modules_of_loadPoint {s : Session} {l : Label} {e : LoadEnv} {g : Host}
    (hpoint : s.loadPoint l = some (e, g, p)) :
    SameModules s.host g ∧
      SameModules (loadScriptProviderIfNeeded e p g).1 (s.step l).host := by
  cases step_modules s l with
  | same hnone hs =>
    rw [hpoint] at hnone
    cases hnone
  | load e' g' p' hsome hg hs =>
    rw [hpoint] at hsome
    cases hsome
    exact ⟨hg, hs⟩
  | registers hnone hn =>
    rw [hpoint] at hnone
    cases hnone
  | unload q i t stack hnone hstack hs =>
    rw [hpoint] at hnone
    cases hnone

theorem excess_of_leaksModule {s : Session} {l : Label} (ha : Accounts s.host)
    (hl : LeaksModule s l) : ∃ p, Excess p (s.step l).host := by
  obtain ⟨e, g, p, hpoint, hslot, hleak⟩ := hl
  obtain ⟨hg, hs⟩ := modules_of_loadPoint hpoint
  exact ⟨p, (excess_of_leak (ha.same hg) hslot hleak).same hs⟩

/-- With the books in order, a load that does not leak fails cleanly. -/
theorem cleanFailure_of_accounts {s : Session} {l : Label} (ha : Accounts s.host)
    (hl : ¬ LeaksModule s l) : CleanFailure s l := by
  intro e g p hpoint hnone
  have hg := ha.same (modules_of_loadPoint hpoint).1
  have hafter := accounts_load hg fun hslot hleak => hl ⟨e, g, p, hpoint, hslot, hleak⟩
  refine ⟨?_, hafter.unbound p hnone⟩
  rcases load_outcome e p g with ⟨hne, heq⟩ | ⟨hslot, -⟩
  · rw [heq] at hnone
    exact absurd hnone hne
  · exact hg.unbound p hslot

/-! ## Providers that are still to be unloaded -/

/-- Only registered providers have instances, and while `DebugExtensionUninitialize` runs,
    only those whose nodes it has not deleted. -/
structure Attached (s : Session) : Prop where
  listed : ∀ q, s.host.pool.slot q ≠ none → q ∈ s.host.ctx.scriptProviders
  undeleted : ∀ q, s.host.pool.slot q ≠ none → ∀ frame ∈ s.work, ∀ ps,
    frame.undeleted = some ps → q ∈ ps

theorem mem_undeleted {s : Session} {ps : List ProviderPtr} :
    ps ∈ s.stack.filterMap Frame.undeleted ↔ ∃ frame ∈ s.work, frame.undeleted = some ps := by
  rw [List.mem_filterMap]
  constructor
  · rintro ⟨frame, hmem, hps⟩
    refine ⟨frame, List.mem_filter.mpr ⟨hmem, ?_⟩, hps⟩
    cases frame with
    | exec e command scope => cases hps
    | script f => rfl
    | cleanup p i t => rfl
  · rintro ⟨frame, hmem, hps⟩
    exact ⟨frame, (List.mem_filter.mp hmem).1, hps⟩

/-- A provider that a script command loads is registered, and its node has not been
    deleted. -/
theorem Attached.target {s : Session} {command : ScriptCommand} {client : ClientId}
    {args : AnsiStr} {env : CommandEnv} (haccepts : s.accepts = true)
    (htarget : loadTarget s command client args env = some p)
    (hl : ¬ LoadsDeleted s (.call (.script command) client args env)) :
    p ∈ s.host.ctx.scriptProviders ∧
      ∀ frame ∈ s.work, ∀ ps, frame.undeleted = some ps → p ∈ ps := by
  obtain ⟨⟨g, q⟩, hpoint, rfl⟩ := Option.map_eq_some_iff.mp htarget
  refine ⟨(loadPoint_spec hpoint).1, fun frame hmem ps hps => ?_⟩
  by_contra hq
  refine hl ⟨(env.load, g, q), ?_, ps, mem_undeleted.mpr ⟨frame, hmem, hps⟩, hq⟩
  rw [Session.loadPoint, if_pos haccepts, hpoint]
  rfl

/-- Instances are only made by loading. -/
theorem Attached.actions {s : Session} (ha : Attached s) (as : List (Slots.Action ProviderPtr))
    (has : ∀ p ok, .load p ok ∈ as → p ∈ s.host.ctx.scriptProviders ∧
      ∀ frame ∈ s.work, ∀ ps, frame.undeleted = some ps → p ∈ ps) (q : ProviderPtr)
    (hq : (run Pool.step s.host.pool as).slot q ≠ none) :
    q ∈ s.host.ctx.scriptProviders ∧
      ∀ frame ∈ s.work, ∀ ps, frame.undeleted = some ps → q ∈ ps := by
  rcases Slots.slot_run_ne_none hq with hold | ⟨ok, hload⟩
  · exact ⟨ha.listed q hold, ha.undeleted q hold⟩
  · exact has q ok hload

theorem attached_unwind {stack : List Frame} {rest : Rest} {ps : List ProviderPtr} {h : Host}
    (hlist : ∀ q, h.pool.slot q ≠ none → q ∈ h.ctx.scriptProviders)
    (hun : ∀ q, h.pool.slot q ≠ none → ∀ frame ∈ work stack, ∀ qs,
      frame.undeleted = some qs → q ∈ qs)
    (hps : rest = .unloadExtension → ∀ q, h.pool.slot q ≠ none → q ∈ ps) :
    Attached (Session.unwind stack rest ps h) := by
  have hcases := unwind_cases stack rest ps h
  generalize Session.unwind stack rest ps h = r at hcases ⊢
  cases hcases with
  | done hnone =>
    obtain ⟨hpool, -, hproviders⟩ := rest_spec rest h
    refine ⟨fun q hq => ?_, fun q hq => ?_⟩
    · have hq' : h.pool.slot q ≠ none := by
        rw [← hpool]
        exact hq
      show q ∈ (rest.run h).ctx.scriptProviders
      rw [hproviders]
      split_ifs with hrest
      · exact absurd (hnone q (hps hrest q hq')) hq'
      · exact hlist q hq'
    · refine hun q ?_
      rw [← hpool]
      exact hq
  | cleaning skipped ps' p i hsplit hnone hslot =>
    have hpool := pool_cleanup h hslot
    have hsame : ∀ q, (h.emit (.prov (.cleanup i))).pool.slot q = h.pool.slot q := by
      intro q
      rw [hpool, Slots.slot_cleanup]
    refine ⟨fun q hq => hlist q (by rwa [← hsame]), fun q hq frame hmem qs hqs => ?_⟩
    have hq' : h.pool.slot q ≠ none := by
      rw [← hsame]
      exact hq
    rcases List.mem_cons.mp hmem with rfl | hmem
    · rw [Frame.undeleted] at hqs
      split_ifs at hqs with hrest
      cases hqs
      have hall := hps hrest q hq'
      rw [hsplit] at hall
      rcases List.mem_append.mp hall with hskip | hall
      · exact absurd (hnone q hskip) hq'
      · exact hall
    · exact hun q hq' frame hmem qs hqs

theorem attached_step (s : Session) (l : Label) (hok : SessionOk s) (ha : Attached s)
    (hl : ¬ LoadsDeleted s l) : Attached (s.step l) := by
  have hchange := step_change s l
  generalize s.step l = s' at hchange
  cases hchange with
  | idle h =>
    refine ⟨?_, ?_⟩
    · rw [h.pool, h.scriptProviders]
      exact ha.listed
    · rw [h.pool, h.work]
      exact ha.undeleted
  | loadExtension e hstack =>
    obtain ⟨g, hcom, hreg⟩ := loadExtension_spec e s.host
    obtain ⟨ps, hps, -⟩ := hreg.scriptProviders
    refine ⟨fun q hq => ?_, fun q hq frame hmem => by cases hmem⟩
    dsimp only at hq ⊢
    rw [(hostOk_loadExtension hok.host e).2] at hq
    rw [hps, hcom.providers.scriptProviders]
    exact List.mem_append_right _ (ha.listed q hq)
  | loadFailed command client args env p haccepts htarget hslot hpool hwork hlist =>
    have hp := Attached.target haccepts htarget hl
    have hall := ha.actions [.load p false] (by simpa using hp)
    refine ⟨?_, ?_⟩
    · rw [hpool, hlist.scriptProviders]
      exact fun q hq => (hall q hq).1
    · rw [hpool, hwork]
      exact fun q hq => (hall q hq).2
  | started command client args env f haccepts htarget hvm hinst hpool hwork hlist =>
    have hp := Attached.target haccepts htarget hl
    have hall := ha.actions [.load f.scriptProv true, .use f.scriptProv] (by simpa using hp)
    refine ⟨?_, ?_⟩
    · rw [hpool, hlist.scriptProviders]
      exact fun q hq => (hall q hq).1
    · rw [hpool, hwork]
      intro q hq frame hmem ps hps
      rcases List.mem_cons.mp hmem with rfl | hmem
      · cases hps
      · exact (hall q hq).2 frame hmem ps hps
  | @unwinds _ g stack t as hunwinds hpool hlist =>
    have hload : ∀ p ok, .load p ok ∈ as → p ∈ s.host.ctx.scriptProviders ∧
        ∀ frame ∈ s.work, ∀ ps, frame.undeleted = some ps → p ∈ ps := by
      cases hunwinds with
      | exit command client args env p hr haccepts htarget =>
        have hp := Attached.target haccepts htarget hl
        simpa using hp
      | _ => simp
    have hall := ha.actions as hload
    rw [← hpool] at hall
    refine attached_unwind ?_ ?_ fun hrest q hq => ?_
    · rw [hlist.scriptProviders]
      exact fun q hq => (hall q hq).1
    · intro q hq frame hmem
      exact (hall q hq).2 frame ((hunwinds.spec hok).1.subset hmem)
    · -- what is left of `DebugExtensionUninitialize`
      cases hunwinds with
      | exit command client args env p hr haccepts htarget => cases hrest
      | stopvm client args env haccepts hvm hacquired => cases hrest
      | unloadExtension hstack => exact (hall q hq).1
      | ret hr endTime f stack hstack => cases hrest
      | cleanedUp p i t stack hstack =>
        have hmem : .cleanup p i t ∈ s.work := by
          rw [Session.work, hstack, work_cleanup]
          exact List.mem_cons_self
        have hq' := (hall q hq).2 _ hmem (p :: t.providers) (by rw [Frame.undeleted, if_pos hrest])
        rcases List.mem_cons.mp hq' with rfl | hq'
        · rw [hpool] at hq
          exact absurd (Slots.slot_free _ _) hq
        · exact hq'

/-! ## Runs -/

/-- What holds of a session as long as no load leaks and nothing is cleaned up again. -/
structure InOrder (s : Session) : Prop where
  session : SessionOk s
  orderly : Orderly s.work s.host.pool
  accounts : Accounts s.host

/-- What holds once a load has leaked, or something has been or will be cleaned up again. -/
structure OutOfOrder (s : Session) : Prop where
  session : SessionOk s
  broken : Doubled s.host.pool ∨
    Kept s.work s.host.pool ∧ (Overlapping s.work ∨ ∃ p, Excess p s.host)

theorem inOrder_step {s : Session} {l : Label} (hs : InOrder s)
    (hl : ¬ LeaksModule s l ∧ ¬ CleansAgain s l) : InOrder (s.step l) :=
  ⟨sessionOk_step s l hs.session, orderly_step s l hs.session hs.orderly hl.2,
    accounts_step hs.session.host hs.orderly.toKept hs.accounts hl.1⟩

/-- A load that leaks, and a command that cleans up again. -/
theorem outOfOrder_of {s : Session} {l : Label} (hs : InOrder s)
    (hl : ¬ (¬ LeaksModule s l ∧ ¬ CleansAgain s l)) : OutOfOrder (s.step l) := by
  have hk := hs.orderly.toKept
  refine ⟨sessionOk_step s l hs.session, ?_⟩
  rcases kept_step s l hs.session hk with hd | hk'
  · exact Or.inl hd
  · by_cases hleak : LeaksModule s l
    · exact Or.inr ⟨hk', Or.inr (excess_of_leaksModule hs.accounts hleak)⟩
    · have hagain : CleansAgain s l := by
        by_contra hno
        exact hl ⟨hleak, hno⟩
      exact Or.inr ⟨hk', Or.inl (overlapping_of_cleansAgain hs.session hk hagain)⟩

theorem outOfOrder_step {s : Session} {l : Label} (hs : OutOfOrder s) : OutOfOrder (s.step l) := by
  refine ⟨sessionOk_step s l hs.session, ?_⟩
  rcases hs.broken with hd | ⟨hk, hbroken⟩
  · exact Or.inl (hd.mono (trace_step s l hs.session.host))
  · rcases kept_step s l hs.session hk with hd | hk'
    · exact Or.inl hd
    · rcases hbroken with hover | ⟨p, hx⟩
      · exact Or.inr ⟨hk', Or.inl (overlapping_step hk hover)⟩
      · exact Or.inr ⟨hk', Or.inr ⟨p, excess_step hs.session.host hk hx⟩⟩

/-- With the books in order, everything has been given back once nothing is running and
    `DebugExtensionUninitialize` has returned. -/
theorem balanced_of_inOrder {s : Session} (hs : InOrder s) (ha : Attached s)
    (hlist : s.host.ctx.scriptProviders = []) : ProvidersBalanced s.host := by
  have hslot : ∀ p, s.host.pool.slot p = none := by
    intro p
    by_contra hne
    have hp := ha.listed p hne
    rw [hlist] at hp
    cases hp
  refine ⟨fun p => ?_, fun i hcreate => ?_⟩
  · have hp := (hs.accounts.modules p).trans (if_pos (hslot p))
    rw [Ledger.owned_eq_zero_iff, count_acquire, count_release] at hp
    exact hp
  · rw [← count_cleanupEvent]
    exact Slots.count_cleanup hs.orderly.ended hs.orderly.once (hslot i.owner)
      (mem_createEvent.mpr hcreate)

/-- What is out of order stays so to the end. -/
theorem not_balanced_of_outOfOrder {s : Session} (hs : OutOfOrder s) (hstack : s.stack = []) :
    ¬ ProvidersBalanced s.host := by
  intro hbal
  rcases hs.broken with ⟨i, hcreate, hcount⟩ | ⟨-, ⟨p, i, t, hu⟩ | ⟨p, hx⟩⟩
  · have hone := hbal.instances i (mem_createEvent.mp hcreate)
    rw [← count_cleanupEvent] at hone
    omega
  · have hmem := hu.mem
    rw [Session.work, hstack] at hmem
    cases hmem
  · have hzero : owned s.host.modules p = 0 := by
      rw [Ledger.owned_eq_zero_iff, count_acquire, count_release]
      exact hbal.modules p
    unfold Excess at hx
    rw [hzero] at hx
    split_ifs at hx <;> omega

/-- The session after `DebugExtensionInitialize`. -/
theorem inOrder_init (routing : ClientId → Option OutputCb) (e : InitEnv) :
    InOrder ((Session.fresh routing).step (.loadExtension e)) ∧
      Attached ((Session.fresh routing).step (.loadExtension e)) := by
  have hok := sessionOk_fresh routing
  have horderly : Orderly (Session.fresh routing).work (Session.fresh routing).host.pool := by
    refine ⟨kept_nil _, List.Pairwise.nil, ?_, fun i => Nat.zero_le 1, ?_⟩
    · intro p i hslot
      cases hslot
    · intro i hi
      cases hi
  have hattached : Attached (Session.fresh routing) :=
    ⟨fun q hq => absurd rfl hq, fun q hq => absurd rfl hq⟩
  refine ⟨⟨sessionOk_step _ _ hok, orderly_step _ _ hok horderly not_false, ?_⟩,
    attached_step _ _ hok hattached ?_⟩
  · exact accounts_newNodes (newNodes_loadExtension e _) hok.host (accounts_fresh routing)
  · rintro ⟨r, hr, -⟩
    cases hr

/-- If everything has been given back at the end of a run, no step has broken the order. -/
theorem ordered_of_balanced {s : Session} {ls : List Label} (hs : InOrder s)
    (hstack : (run Session.step s ls).stack = [])
    (hbal : ProvidersBalanced (run Session.step s ls).host) :
    Along Session.step (fun s l => ¬ LeaksModule s l ∧ ¬ CleansAgain s l) s ls := by
  by_contra hno
  have hbad : OutOfOrder (run Session.step s ls) :=
    Runs.run_bad (I := InOrder) (fun _ _ => inOrder_step) (fun _ _ => outOfOrder_of)
      (fun _ _ => outOfOrder_step) hs hno
  exact not_balanced_of_outOfOrder hbad hstack hbal

/-- If no step has broken the order and none has loaded a deleted provider, everything has been
    given back once no provider is registered any more. -/
theorem balanced_of_ordered {s : Session} {ls : List Label} (hs : InOrder s) (ha : Attached s)
    (hlist : (run Session.step s ls).host.ctx.scriptProviders = [])
    (hls : Along Session.step (fun s l => ¬ LeaksModule s l ∧ ¬ CleansAgain s l) s ls)
    (hdeleted : Along Session.step (fun s l => ¬ LoadsDeleted s l) s ls) :
    ProvidersBalanced (run Session.step s ls).host := by
  have hend : InOrder (run Session.step s ls) :=
    Runs.run_inv (I := InOrder) (fun _ _ => inOrder_step) hs hls
  have hattached : SessionOk (run Session.step s ls) ∧ Attached (run Session.step s ls) :=
    Runs.run_inv (I := fun s => SessionOk s ∧ Attached s)
      (fun s l h hl => ⟨sessionOk_step s l h.1, attached_step s l h.1 h.2 hl⟩)
      ⟨hs.session, ha⟩ hdeleted
  exact balanced_of_inOrder hend hattached.2 hlist

/-- A command in whose environment every call succeeds leaks nothing. -/
theorem not_leaksModule_succeeding {s : Session} {l : Label}
    (hl : ∀ command client args env, l = .call command client args env →
      env = CommandEnv.succeeding) : ¬ LeaksModule s l := by
  rintro ⟨e, g, p, hpoint, -, -, -, -, hfails⟩
  unfold Session.loadPoint at hpoint
  split at hpoint
  · next command client args env =>
    rw [hl command client args env rfl] at hpoint
    split_ifs at hpoint
    obtain ⟨r, -, heq⟩ := Option.map_eq_some_iff.mp hpoint
    cases heq
    rcases hfails with ⟨f, -, err, hf⟩ | hf
    · cases hf
    · cases hf
  · cases hpoint

/-- With the VM off, the `Cleanup` at the end of a script executes a command that runs
    another one: at its end, `Cleanup` is called on the same instance again. -/
example :
    let script := Label.call (.script .runscript) 0 ⟨[45, 108, 32, 97, 32, 102], by decide⟩
      CommandEnv.succeeding
    let ls : List Label :=
      [.loadExtension (InitEnv.succeeding 0 [⟨⟨[97], by decide⟩, true, ⟨[92, 100], by decide⟩⟩]),
        script, .ret S_OK 0, .execute ⟨S_OK, S_OK, [], S_OK, S_OK⟩ ⟨[120], by decide⟩, script,
        .ret S_OK 0]
    (run Session.step (Session.fresh fun _ => none) ls).host.pool.trace =
      [.create ⟨1, 0⟩, .init ⟨1, 0⟩ true, .use 1 (some ⟨1, 0⟩), .cleanup ⟨1, 0⟩,
        .use 1 (some ⟨1, 0⟩), .cleanup ⟨1, 0⟩] := by
  decide +kernel

end DbgScript
