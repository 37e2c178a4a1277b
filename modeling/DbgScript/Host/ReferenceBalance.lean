import DbgScript.Host.InterfaceUse
import DbgScript.Lib.Ledger

/-!
# References to clients

`DebugCreate` and every successful `QueryInterface` hand out a reference to the client;
the client of a command is borrowed. The host releases the cached client all the same,
whether it came from `DebugCreate` or from a command.

* `holds_acquire`, `release_holds`: an acquisition takes five references, a release
  gives up six.
* `unload_short`: with a borrowed client cached, the next release is one too many.
* `references_balanced_iff`: over any number of lifetimes of the extension the
  references are balanced iff every command is called with the client of `DebugCreate`.
-/

namespace DbgScript

open Runs (run Along)
open Ledger (Move Covered owned)

/-! ## Specification -/

/-- What a call does to the owned references. -/
def ComCall.move? : ComCall → Option (Move ClientId)
  | .debugCreate client => some (.acquire client)
  | .queryInterface client _ hr => if FAILED hr then none else some (.acquire client)
  | .releaseIface i => some (.release i.client)
  | .releaseClient client => some (.release client)

def Host.moves (h : Host) : List (Move ClientId) := h.comCalls.filterMap ComCall.move?

/-- From `DebugExtensionInitialize` to `DebugExtensionUninitialize`. -/
structure Lifetime where
  init : InitEnv
  commands : List Call

def Lifetime.entries (l : Lifetime) : List Entry :=
  .loadExtension l.init :: l.commands.map .command ++ [.unloadExtension]

def lifetimeStep (h : Host) (l : Lifetime) : Host := run entryStep h l.entries

/-- Every `QueryInterface` call of the lifetime succeeds. -/
def Lifetime.Queries (l : Lifetime) : Prop :=
  QueriesOk l.init.qi ∧ ∀ c ∈ l.commands, QueriesOk c.env.qi

/-- No object has been released more often than acquired by the end of the lifetime, and
    then no reference is left. -/
def Balanced (h : Host) (l : Lifetime) : Prop :=
  Covered (lifetimeStep h l).moves ∧ ∀ client, owned (lifetimeStep h l).moves client = 0

/-- Every command is called with the client of `DebugCreate`. -/
def Lifetime.OwnClient (l : Lifetime) : Prop :=
  ∀ c ∈ l.commands, FAILED l.init.debugCreate = false ∧ c.client = l.init.client

/-! ## Moves of an acquisition and of a release -/

variable {h h' : Host} {k : ClientId}

theorem moves_congr (hcom : h'.comCalls = h.comCalls) : h'.moves = h.moves := by
  rw [Host.moves, hcom, Host.moves]

theorem moves_append {h h' : Host} {new : List ComCall} (hcom : h'.comCalls = h.comCalls ++ new) :
    h'.moves = h.moves ++ new.filterMap ComCall.move? := by
  rw [Host.moves, hcom, List.filterMap_append, Host.moves]

theorem moves_acquire {qi : Iid → HRESULT} (hq : QueriesOk qi) (client : ClientId) (h : Host) :
    (acquireDbgEngIfaces qi client h).1.moves = h.moves ++ List.replicate 5 (.acquire client) := by
  rw [moves_append (acquire_ok hq client h).2.2]
  simp [acquireOrder, ComCall.move?, hq _, List.replicate]

theorem moves_release (hc : h.ctx.Complete k) :
    (releaseDbgEngIfaces h).moves = h.moves ++ List.replicate 6 (.release k) := by
  have hcom := comCalls_release hc
  rw [List.append_assoc] at hcom
  rw [moves_append hcom]
  rfl

/-- The interfaces of `k` are held, with `n` references to it and none to others. -/
def Holds (h : Host) (k : ClientId) (n : ℤ) : Prop :=
  h.ctx.Complete k ∧ Covered h.moves ∧ ∀ client, owned h.moves client = if client = k then n else 0

/-- Nothing is held. -/
def HoldsNothing (h : Host) : Prop :=
  h.ctx.Empty ∧ Covered h.moves ∧ ∀ client, owned h.moves client = 0

/-- The interfaces of some client are held, without a reference for each of them and the
    client. -/
def Short (h : Host) : Prop :=
  ∃ k, h.ctx.Complete k ∧ (Covered h.moves → 0 ≤ owned h.moves k ∧ owned h.moves k < 6)

theorem HoldsNothing.congr (hn : HoldsNothing h)
    (hsame : h'.ctx.toDbgEngIfaces = h.ctx.toDbgEngIfaces ∧ h'.moves = h.moves) :
    HoldsNothing h' := by
  unfold HoldsNothing
  rw [hsame.1, hsame.2]
  exact hn

theorem Short.congr (hs : Short h)
    (hsame : h'.ctx.toDbgEngIfaces = h.ctx.toDbgEngIfaces ∧ h'.moves = h.moves) : Short h' := by
  unfold Short
  rw [hsame.1, hsame.2]
  exact hs

theorem Holds.congr {n : ℤ} (hh : Holds h k n)
    (hsame : h'.ctx.toDbgEngIfaces = h.ctx.toDbgEngIfaces ∧ h'.moves = h.moves) :
    Holds h' k n := by
  unfold Holds
  rw [hsame.1, hsame.2]
  exact hh

/-- An acquisition takes five references. -/
theorem holds_acquire {qi : Iid → HRESULT} (hq : QueriesOk qi) (client : ClientId) {n : ℤ}
    (hcov : Covered h.moves) (howned : ∀ a, owned h.moves a = if a = client then n else 0) :
    Holds (acquireDbgEngIfaces qi client h).1 client (n + 5) := by
  have hmoves := moves_acquire hq client h
  refine ⟨(acquire_ok hq client h).2.1, ?_, ?_⟩
  · rw [hmoves]
    exact (Ledger.covered_acquires _ _ _).mpr hcov
  · intro a
    rw [hmoves, Ledger.owned_acquires, howned a]
    split_ifs <;> rfl

/-- A release gives up one more reference than an acquisition takes. -/
theorem release_holds (hh : Holds h k 6) : HoldsNothing (releaseDbgEngIfaces h) := by
  obtain ⟨hc, hcov, howned⟩ := hh
  have hmoves := moves_release hc
  have hk := howned k
  rw [if_pos rfl] at hk
  refine ⟨(release_spec h).2, ?_, ?_⟩
  · rw [hmoves]
    exact (Ledger.covered_releases (by omega)).mpr ⟨hcov, by omega⟩
  · intro a
    rw [hmoves, Ledger.owned_releases, howned a]
    split_ifs <;> rfl

theorem release_short (hs : Short h) : ¬ Covered (releaseDbgEngIfaces h).moves := by
  obtain ⟨k, hc, hshort⟩ := hs
  rw [moves_release hc]
  intro hcov
  obtain ⟨hpos, hlt⟩ := hshort hcov.of_append
  have := ((Ledger.covered_releases hpos).mp hcov).2
  omega

theorem Holds.short {n : ℤ} (hh : Holds h k n) (hpos : 0 ≤ n) (hlt : n < 6) : Short h := by
  refine ⟨k, hh.1, fun _ => ?_⟩
  rw [hh.2.2 k, if_pos rfl]
  exact ⟨hpos, hlt⟩

/-! ## Commands -/

/-- A command with the cached client. -/
theorem command_same {c : Call} (hc : h.ctx.debugClient = some c.client) :
    (callStep h c).ctx.toDbgEngIfaces = h.ctx.toDbgEngIfaces ∧ (callStep h c).moves = h.moves := by
  have hcall := sameIfaces_call h c
  rw [reAcquire_same hc] at hcall
  exact ⟨hcall.ifaces, moves_congr hcall.comCalls⟩

/-- A command with another client. -/
theorem command_other {c : Call} (hc : h.ctx.debugClient ≠ some c.client) :
    (callStep h c).ctx.toDbgEngIfaces =
        (acquireDbgEngIfaces c.env.qi c.client (releaseDbgEngIfaces h)).1.ctx.toDbgEngIfaces ∧
      (callStep h c).moves =
        (acquireDbgEngIfaces c.env.qi c.client (releaseDbgEngIfaces h)).1.moves := by
  have hcall := sameIfaces_call h c
  rw [reAcquire_other hc] at hcall
  exact ⟨hcall.ifaces, moves_congr hcall.comCalls⟩

/-- Once a borrowed client is cached, the references stay short. -/
theorem short_command {c : Call} (hq : QueriesOk c.env.qi) (hs : Short h) :
    Short (callStep h c) := by
  by_cases hc : h.ctx.debugClient = some c.client
  · exact hs.congr (command_same hc)
  · obtain ⟨hifaces, hmoves⟩ := command_other hc
    refine ⟨c.client, ?_, ?_⟩
    · rw [hifaces]
      exact (acquire_ok hq c.client _).2.1
    · rw [hmoves, moves_acquire hq]
      intro hcov
      exact absurd hcov.of_append (release_short hs)

/-- A command that caches a borrowed client. -/
theorem short_of_borrowed {c : Call} (hq : QueriesOk c.env.qi)
    (hc : h.ctx.debugClient ≠ some c.client) (hn : HoldsNothing (releaseDbgEngIfaces h)) :
    Short (callStep h c) := by
  obtain ⟨-, hcov, howned⟩ := hn
  have hholds := holds_acquire (n := 0) hq c.client hcov (by simpa using howned)
  exact (hholds.short (by decide) (by decide)).congr (command_other hc)

theorem short_commands {cs : List Call} (hq : ∀ c ∈ cs, QueriesOk c.env.qi) (hs : Short h) :
    Short (run callStep h cs) := by
  induction cs generalizing h with
  | nil => exact hs
  | cons c cs ih =>
    rw [List.forall_mem_cons] at hq
    exact ih hq.2 (short_command hq.1 hs)

/-! ## Lifetimes -/

/-- `DebugExtensionUninitialize` releases the interfaces once. -/
theorem unload_eq (h : Host) :
    ∃ g, (g.ctx.toDbgEngIfaces = h.ctx.toDbgEngIfaces ∧ g.moves = h.moves) ∧
      debugExtensionUninitialize h = releaseDbgEngIfaces g := by
  have hall := (onlyProviders_unloadAll h.ctx.scriptProviders h).ifaces
  exact ⟨(h.ctx.scriptProviders.foldl unloadScriptProvider h).forgetProviders,
    ⟨hall.ifaces, moves_congr hall.comCalls⟩, rfl⟩

theorem unload_short (hs : Short h) : ¬ Covered (Host.moves <| debugExtensionUninitialize h) := by
  obtain ⟨g, hsame, heq⟩ := unload_eq h
  rw [heq]
  exact release_short (hs.congr hsame)

theorem unload_holds (hh : Holds h k 6) : HoldsNothing <| debugExtensionUninitialize h := by
  obtain ⟨g, hsame, heq⟩ := unload_eq h
  rw [heq]
  exact release_holds (hh.congr hsame)

theorem unload_nothing (hn : HoldsNothing h) : HoldsNothing <| debugExtensionUninitialize h := by
  obtain ⟨g, hsame, heq⟩ := unload_eq h
  have hg := hn.congr hsame
  rw [heq, release_empty hg.1]
  exact hg

theorem lifetimeStep_eq (h : Host) (l : Lifetime) :
    lifetimeStep h l =
      debugExtensionUninitialize
        (run callStep (debugExtensionInitialize l.init h).1 l.commands) := by
  unfold lifetimeStep Lifetime.entries
  rw [Runs.run_append, Runs.run_cons]
  show debugExtensionUninitialize ((l.commands.map Entry.command).foldl entryStep _) = _
  rw [List.foldl_map]
  rfl

/-- After a successful `DebugExtensionInitialize`. -/
theorem init_holds {e : InitEnv} (hq : QueriesOk e.qi) (hok : FAILED e.debugCreate = false)
    (hn : HoldsNothing h) : Holds (debugExtensionInitialize e h).1 e.client 6 := by
  obtain ⟨-, hcov, howned⟩ := hn
  set g := h.emit (.com (.debugCreate e.client)) with hg
  have hcreate : g.moves = h.moves ++ List.replicate 1 (.acquire e.client) :=
    moves_append (comCalls_emit h _)
  have hholds : Holds (acquireDbgEngIfaces e.qi e.client g).1 e.client 6 := by
    apply holds_acquire (n := 1) hq
    · rw [hcreate]
      exact (Ledger.covered_acquires _ _ _).mpr hcov
    · intro a
      rw [hcreate, Ledger.owned_acquires, howned a, zero_add]
      rfl
  have hacquired := (acquire_ok hq e.client g).1
  have hreg := (register_spec e.registry (acquireDbgEngIfaces e.qi e.client g).1).ifaces
  unfold debugExtensionInitialize
  rw [if_neg (by simp [hok])]
  dsimp only
  rw [← hg, if_neg (by simp [hacquired])]
  exact hholds.congr ⟨hreg.ifaces, moves_congr hreg.comCalls⟩

/-- Commands after a successful `DebugExtensionInitialize`. -/
theorem commands_balanced_iff {cs : List Call} (hq : ∀ c ∈ cs, QueriesOk c.env.qi)
    (hh : Holds h k 6) :
    HoldsNothing ( debugExtensionUninitialize (run callStep h cs)) ↔ ∀ c ∈ cs, c.client = k := by
  induction cs generalizing h with
  | nil => exact iff_of_true (unload_holds hh) (by simp)
  | cons c cs ih =>
    rw [List.forall_mem_cons] at hq ⊢
    rw [Runs.run_cons]
    by_cases hc : c.client = k
    · have hsame := command_same (c := c) (hh.1.1.trans (congrArg some hc.symm))
      rw [ih hq.2 (hh.congr hsame)]
      exact (and_iff_right hc).symm
    · have hne : h.ctx.debugClient ≠ some c.client := by
        rw [hh.1.1]
        exact fun he => hc (Option.some.inj he).symm
      have hshort := short_commands hq.2 (short_of_borrowed hq.1 hne (release_holds hh))
      exact iff_of_false (fun hn => unload_short hshort hn.2.1) fun hall => hc hall.1

/-- One lifetime. -/
theorem lifetime_balanced_iff {l : Lifetime} (hq : l.Queries) (hn : HoldsNothing h) :
    HoldsNothing (lifetimeStep h l) ↔ l.OwnClient := by
  rw [lifetimeStep_eq]
  unfold Lifetime.OwnClient
  by_cases hf : FAILED l.init.debugCreate = true
  · have hinit : debugExtensionInitialize l.init h = (h, l.init.debugCreate) := by
      rw [debugExtensionInitialize, if_pos hf]
    rw [hinit]
    have hcs := hq.2
    rcases hl : l.commands with _ | ⟨c, cs⟩
    · exact iff_of_true (unload_nothing hn) (by simp)
    · rw [hl, List.forall_mem_cons] at hcs
      have hne : h.ctx.debugClient ≠ some c.client := by
        rw [hn.1.1]
        exact (Option.some_ne_none _).symm
      have hempty : HoldsNothing (releaseDbgEngIfaces h) := by
        rw [release_empty hn.1]
        exact hn
      have hshort := short_commands hcs.2 (short_of_borrowed hcs.1 hne hempty)
      refine iff_of_false (fun hn => unload_short hshort hn.2.1) fun hall => ?_
      have hok := (hall c List.mem_cons_self).1
      rw [hf] at hok
      exact absurd hok (by decide)
  · rw [Bool.not_eq_true] at hf
    rw [commands_balanced_iff hq.2 (init_holds hq.1 hf hn)]
    exact forall₂_congr fun c _ => (and_iff_right hf).symm

theorem holdsNothing_iff (h : Host) (l : Lifetime) :
    HoldsNothing (lifetimeStep h l) ↔ Balanced h l := by
  have hempty : (lifetimeStep h l).ctx.Empty := by
    rw [lifetimeStep_eq]
    exact (release_spec _).2
  exact and_iff_right hempty

theorem lifetimes_balanced_iff {ls : List Lifetime} (hq : ∀ l ∈ ls, l.Queries)
    (hn : HoldsNothing h) : Along lifetimeStep Balanced h ls ↔ ∀ l ∈ ls, l.OwnClient := by
  induction ls generalizing h with
  | nil => simp
  | cons l ls ih =>
    rw [List.forall_mem_cons] at hq ⊢
    have hl := lifetime_balanced_iff hq.1 hn
    rw [Runs.along_cons, ← holdsNothing_iff, hl]
    exact and_congr_right fun hown => ih hq.2 (hl.mpr hown)

/-- **The references balance only for the client of `DebugCreate`.** Over any number of
    lifetimes in which every `QueryInterface` call succeeds, no object is released more
    often than it has been acquired and none is left at the end of any lifetime iff
    every command is called with the client that `DebugCreate` has created. -/
theorem references_balanced_iff (routing : ClientId → Option OutputCb) (ls : List Lifetime)
    (hq : ∀ l ∈ ls, l.Queries) :
    Along lifetimeStep Balanced (Host.fresh routing) ls ↔ ∀ l ∈ ls, l.OwnClient := by
  refine lifetimes_balanced_iff hq ⟨⟨rfl, fun iid => ?_⟩, Ledger.covered_nil, fun _ => rfl⟩
  cases iid <;> rfl

/-- Two lifetimes, each with its own client. -/
theorem references_balanced_two_lifetimes :
    Along lifetimeStep Balanced (Host.fresh fun _ => none)
      [⟨InitEnv.succeeding 0 [], [.succeeding .startvm 0 ⟨[], by decide⟩]⟩,
        ⟨InitEnv.succeeding 1 [], [.succeeding .stopvm 1 ⟨[], by decide⟩]⟩] := by
  refine (references_balanced_iff _ _ ?_).mpr ?_
  · rw [List.forall_mem_cons, List.forall_mem_singleton]
    constructor <;>
      exact ⟨fun _ => failed_S_OK, by simp [Call.succeeding, CommandEnv.succeeding, QueriesOk]⟩
  · rw [List.forall_mem_cons, List.forall_mem_singleton]
    constructor <;> simp [Lifetime.OwnClient, Call.succeeding, InitEnv.succeeding]

/-- One command with another client: it loses a reference that the host never had. -/
theorem references_over_released :
    let l : Lifetime := ⟨InitEnv.succeeding 0 [], [.succeeding .startvm 1 ⟨[], by decide⟩]⟩
    ¬ Balanced (Host.fresh fun _ => none) l ∧
      owned (lifetimeStep (Host.fresh fun _ => none) l).moves 1 = -1 := by
  have howned : owned (lifetimeStep (Host.fresh fun _ => none)
      ⟨InitEnv.succeeding 0 [], [.succeeding .startvm 1 ⟨[], by decide⟩]⟩).moves 1 = -1 := by
    decide +kernel
  refine ⟨?_, howned⟩
  rintro ⟨-, hzero⟩
  have hone := hzero 1
  rw [howned] at hone
  exact absurd hone (by decide)

end DbgScript
