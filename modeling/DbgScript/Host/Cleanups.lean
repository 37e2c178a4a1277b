import DbgScript.Host.Session

/-!
# Instances are cleaned up once

While the `Cleanup` of an instance runs, its provider's slot still holds it. So a command
that is called from there and unloads the provider calls `Cleanup` on it again: a
`runscript` or `evalstring` for the provider with the VM off does, and so does a `stopvm`.

* `kept_step`: as long as no instance is cleaned up twice, the instances that are being
  cleaned up are in their slots, and no two of them have the same provider.
* `orderly_step`: no command cleans up an instance again, if none is called that would.
* `overlapping_of_cleansAgain`, `overlapping_step`: such a command leads to a second
  `Cleanup`, at the latest before the `Cleanup` under it returns.
-/

namespace DbgScript

open Slots (Pool)
open Runs (run)

/-! ## Specification -/

def Frame.cleans? : Frame → Option (ProviderPtr × Instance)
  | .cleanup p i _ => some (p, i)
  | _ => none

/-- The providers whose `Cleanup` is running, with the instances, innermost first. -/
def Session.cleaning (s : Session) : List (ProviderPtr × Instance) :=
  s.stack.filterMap Frame.cleans?

/-- The step starts a command that unloads a provider whose `Cleanup` is running: a
    `runscript` or `evalstring` with the VM off gets to load such a provider, or a `stopvm`
    under a `Cleanup` gets past its checks. -/
def CleansAgain (s : Session) : Label → Prop
  | .call (.script command) client args env =>
    s.accepts = true ∧ s.host.ctx.startVMEnabled = false ∧ ∃ c ∈ s.cleaning,
      (loadPoint (.script command) env client args s.host).map Prod.snd = some c.1
  | .call .stopvm client _ env =>
    s.accepts = true ∧ s.host.ctx.startVMEnabled = true ∧
      FAILED (reAcquireIfacesIfNeeded env.qi client s.host).2 = false ∧ s.cleaning ≠ []
  | _ => False

instance (s : Session) (l : Label) : Decidable (CleansAgain s l) :=
  match l with
  | .call (.script _) _ _ _ => inferInstanceAs (Decidable (_ ∧ _ ∧ ∃ _ ∈ _, _))
  | .call .stopvm _ _ _ => inferInstanceAs (Decidable (_ ∧ _ ∧ _ ∧ _))
  | .call .scriptpath _ _ _ | .call .startvm _ _ _ | .loadExtension _ | .unloadExtension
  | .buffer _ | .execute _ _ | .callback _ _ | .executed | .ret _ _ | .cleanedUp =>
    .isFalse not_false

theorem mem_cleaning {s : Session} {p : ProviderPtr} {i : Instance} :
    (p, i) ∈ s.cleaning ↔ ∃ t, .cleanup p i t ∈ s.work := by
  have hwork : s.cleaning = s.work.filterMap Frame.cleans? := by
    unfold Session.cleaning Session.work DbgScript.work
    rw [List.filterMap_filter]
    congr 1
    funext frame
    cases frame <;> rfl
  rw [hwork, List.mem_filterMap]
  constructor
  · rintro ⟨frame, hmem, hframe⟩
    cases frame with
    | script f => cases hframe
    | exec e command scope => cases hframe
    | cleanup q j t =>
      cases hframe
      exact ⟨t, hmem⟩
  · rintro ⟨t, hmem⟩
    exact ⟨_, hmem, rfl⟩

/-! ## Instances that are being cleaned up -/

/-- The two frames are not the `Cleanup` of instances of one provider. -/
def Frame.Distinct (frame below : Frame) : Prop :=
  ∀ p i t j u, frame = .cleanup p i t → below ≠ .cleanup p j u

/-- An instance that is being cleaned up is in its provider's slot, and it is the only one
    of its provider. -/
structure Kept (w : List Frame) (s : Pool ProviderPtr) : Prop where
  slot : ∀ p i t, .cleanup p i t ∈ w → s.slot p = some i ∧ .cleanup i ∈ s.trace
  distinct : w.Pairwise Frame.Distinct

/-- Some instance has been cleaned up twice. -/
def Doubled (s : Pool ProviderPtr) : Prop :=
  ∃ i, .create i ∈ s.trace ∧ 2 ≤ s.trace.count (.cleanup i)

variable {w : List Frame} {s s' : Pool ProviderPtr} {p : ProviderPtr} {i : Instance}
  {t : Teardown}

theorem kept_nil (s : Pool ProviderPtr) : Kept [] s := ⟨by simp, List.Pairwise.nil⟩

/-- Nothing is forgotten. -/
theorem Doubled.mono (hd : Doubled s) (htrace : s.trace <+: s'.trace) : Doubled s' := by
  obtain ⟨i, hcreate, hcount⟩ := hd
  exact ⟨i, htrace.subset hcreate, hcount.trans (htrace.sublist.count_le _)⟩

/-- An instance in a slot that has been cleaned up is cleaned up again. -/
theorem doubled_cleanup (hs : s.Ok) (hslot : s.slot p = some i) (hclean : .cleanup i ∈ s.trace) :
    Doubled (s.step (.cleanup p)) := by
  refine ⟨i, (Slots.trace_step s _).subset (hs.created p i hslot), ?_⟩
  have hpos := List.count_pos_iff.mpr hclean
  rw [Slots.count_cleanup_step, if_pos (by rw [Slots.Action.cleans]; exact hslot)]
  omega

theorem Kept.step (hk : Kept w s) {a : Slots.Action ProviderPtr} (ha : a.empties = none) :
    Kept w (s.step a) := by
  refine ⟨fun p i t hmem => ?_, hk.distinct⟩
  obtain ⟨hslot, hclean⟩ := hk.slot p i t hmem
  refine ⟨Slots.slot_step_keeps ?_ hslot, (Slots.trace_step s a).subset hclean⟩
  rw [ha]
  exact (Option.some_ne_none p).symm

theorem Kept.script (hk : Kept w s) (f : ScriptFrame) : Kept (.script f :: w) s := by
  refine ⟨fun p i t hmem => ?_, List.Pairwise.cons (fun below hmem p i t j u h => ?_) hk.distinct⟩
  · rcases List.mem_cons.mp hmem with h | hmem
    · cases h
    · exact hk.slot p i t hmem
  · cases h

theorem Kept.suffix {w' : List Frame} (hk : Kept w s) (hw : w' <:+ w) : Kept w' s :=
  ⟨fun p i t hmem => hk.slot p i t (hw.subset hmem), hk.distinct.sublist hw.sublist⟩

/-- The `Cleanup` on top of the stack returns. -/
theorem Kept.free (hk : Kept (.cleanup p i t :: w) s) : Kept w (s.step (.free p)) := by
  have hdistinct := List.pairwise_cons.mp hk.distinct
  refine ⟨fun q j u hmem => ?_, hdistinct.2⟩
  have hq : q ≠ p := by
    rintro rfl
    exact hdistinct.1 _ hmem q i t j u rfl rfl
  obtain ⟨hslot, hclean⟩ := hk.slot q j u (List.mem_cons_of_mem _ hmem)
  exact ⟨(Slots.slot_free_of_ne hq).trans hslot, (Slots.trace_step s _).subset hclean⟩

/-- A `Cleanup` is called. -/
theorem Kept.clean (hk : Kept w s) (hslot : s.slot p = some i) (t : Teardown)
    (hp : ∀ j u, .cleanup p j u ∉ w) : Kept (.cleanup p i t :: w) (s.step (.cleanup p)) := by
  refine ⟨fun q j u hmem => ?_, List.Pairwise.cons (fun below hmem q j u k v h hb => ?_)
    hk.distinct⟩
  · rcases List.mem_cons.mp hmem with h | hmem
    · cases h
      refine ⟨by rw [Slots.slot_cleanup, hslot], ?_⟩
      rw [Slots.step_cleanup_some hslot]
      exact List.mem_append_right _ (List.mem_singleton_self _)
    · exact (hk.step rfl).slot q j u hmem
  · cases h
    rw [hb] at hmem
    exact hp k v hmem

/-- Unwinding calls a second `Cleanup`, or what is kept stays kept. -/
theorem kept_unwind {stack : List Frame} {rest : Rest} {ps : List ProviderPtr} {h : Host}
    (hok : h.pool.Ok) (hk : Kept (work stack) h.pool) :
    Doubled (Session.unwind stack rest ps h).host.pool ∨
      Kept (Session.unwind stack rest ps h).work (Session.unwind stack rest ps h).host.pool := by
  have hcases := unwind_cases stack rest ps h
  generalize Session.unwind stack rest ps h = r at hcases ⊢
  cases hcases with
  | done hnone =>
    right
    show Kept (work stack) (rest.run h).pool
    rwa [(rest_spec rest h).1]
  | cleaning skipped ps' p i hps hnone hslot =>
    show Doubled (h.emit (.prov (.cleanup i))).pool ∨
      Kept (.cleanup p i ⟨ps', rest⟩ :: work stack) (h.emit (.prov (.cleanup i))).pool
    rw [pool_cleanup h hslot]
    by_cases hp : ∀ j u, .cleanup p j u ∉ work stack
    · exact Or.inr (hk.clean hslot ⟨ps', rest⟩ hp)
    · simp only [not_forall, not_not] at hp
      obtain ⟨j, u, hmem⟩ := hp
      obtain ⟨hj, hclean⟩ := hk.slot p j u hmem
      exact Or.inl (doubled_cleanup hok hj hclean)

/-- What a step keeps before it begins to unload providers. -/
theorem Unwinds.kept {s : Session} {l : Label} {stack : List Frame}
    {as : List (Slots.Action ProviderPtr)} (hu : Unwinds s l stack t as)
    (hk : Kept s.work s.host.pool) : Kept (work stack) (run Pool.step s.host.pool as) := by
  cases hu with
  | exit command client args env p hr haccepts htarget => exact hk.step (a := .load p true) rfl
  | stopvm client args env haccepts hvm hacquired => exact hk
  | unloadExtension hstack => exact kept_nil _
  | ret hr endTime f stack hstack =>
    rw [Session.work, hstack, work_script] at hk
    exact hk.suffix (List.suffix_cons _ _)
  | cleanedUp p i t stack hstack =>
    rw [Session.work, hstack, work_cleanup] at hk
    exact hk.free

theorem kept_step (s : Session) (l : Label) (hok : SessionOk s) (hk : Kept s.work s.host.pool) :
    Doubled (s.step l).host.pool ∨ Kept (s.step l).work (s.step l).host.pool := by
  have hchange := step_change s l
  generalize s.step l = s' at hchange
  cases hchange with
  | idle h =>
    right
    rwa [h.work, h.pool]
  | loadExtension e hstack => exact Or.inr (kept_nil _)
  | loadFailed command client args env p haccepts htarget hslot hpool hwork hlist =>
    right
    rw [hwork, hpool]
    exact hk.step rfl
  | started command client args env f haccepts htarget hvm hinst hpool hwork hlist =>
    right
    rw [hwork, hpool]
    exact ((hk.step (a := .load f.scriptProv true) rfl).step (a := .use f.scriptProv) rfl).script f
  | @unwinds _ g stack t as hunwinds hpool hlist =>
    have hg : g.pool.Ok := by
      rw [hpool]
      exact Slots.ok_run hok.host.pool as
    refine kept_unwind hg ?_
    rw [hpool]
    exact hunwinds.kept hk

/-! ## The condition is enough -/

/-- What is above a `Cleanup` on the stack will not unload its provider. -/
def Frame.Leaves (frame below : Frame) : Prop :=
  ∀ p i t, below = .cleanup p i t → p ∉ frame.unloads

/-- No instance has been cleaned up twice, and none is going to be. -/
structure Orderly (w : List Frame) (s : Pool ProviderPtr) : Prop extends Kept w s where
  leaves : w.Pairwise Frame.Leaves
  running : ∀ p i, s.slot p = some i → .cleanup i ∈ s.trace → ∃ t, .cleanup p i t ∈ w
  once : s.CleanedOnce
  ended : s.Ended

/-- An operation that neither cleans up nor empties a slot. -/
theorem Orderly.step (ho : Orderly w s) (hs : s.Ok) {a : Slots.Action ProviderPtr}
    (hclean : a.cleans = none) (hempty : a.empties = none) : Orderly w (s.step a) := by
  refine ⟨ho.toKept.step hempty, ho.leaves, ?_, ?_, ?_⟩
  · intro p i hslot hmem
    rcases Slots.mem_cleanup_step hmem with hold | ⟨q, hq, -⟩
    · have hslot' : s.slot p = some i := by
        cases a with
        | load q ok =>
          rcases Slots.slot_load_cases ok hslot with hslot | ⟨rfl, -, rfl⟩
          · exact hslot
          · exact absurd hold (hs.not_mem rfl)
        | use q => exact hslot
        | cleanup q => cases hclean
        | free q => cases hempty
        | unload q => cases hclean
      exact ho.running p i hslot' hold
    · rw [hclean] at hq
      cases hq
  · apply Slots.cleanedOnce_step ho.once
    intro p i hp
    rw [hclean] at hp
    cases hp
  · apply Slots.ended_step ho.ended
    rintro p i rfl
    cases hempty

theorem Orderly.script (ho : Orderly w s) {f : ScriptFrame}
    (hf : ∀ p i t, .cleanup p i t ∈ w → p ∉ (Frame.script f).unloads) :
    Orderly (.script f :: w) s := by
  refine ⟨ho.toKept.script f, List.Pairwise.cons (fun below hmem p i t hb => ?_) ho.leaves, ?_,
    ho.once, ho.ended⟩
  · rw [hb] at hmem
    exact hf p i t hmem
  · intro p i hslot hclean
    obtain ⟨t, hmem⟩ := ho.running p i hslot hclean
    exact ⟨t, List.mem_cons_of_mem _ hmem⟩

theorem Orderly.pop {f : ScriptFrame} (ho : Orderly (.script f :: w) s) : Orderly w s := by
  refine ⟨ho.toKept.suffix (List.suffix_cons _ _), (List.pairwise_cons.mp ho.leaves).2, ?_,
    ho.once, ho.ended⟩
  intro p i hslot hclean
  obtain ⟨t, hmem⟩ := ho.running p i hslot hclean
  rcases List.mem_cons.mp hmem with h | hmem
  · cases h
  · exact ⟨t, hmem⟩

/-- A provider is emptied when the `Cleanup` of its instance has returned. -/
theorem Orderly.free (ho : Orderly (.cleanup p i t :: w) s) : Orderly w (s.step (.free p)) := by
  obtain ⟨hp, hclean⟩ := ho.slot p i t List.mem_cons_self
  refine ⟨ho.toKept.free, (List.pairwise_cons.mp ho.leaves).2, ?_, ?_, ?_⟩
  · intro q j hslot hmem
    have hq : q ≠ p := by
      rintro rfl
      rw [Slots.slot_free] at hslot
      cases hslot
    rw [Slots.slot_free_of_ne hq] at hslot
    have hold : .cleanup j ∈ s.trace := by
      rcases Slots.mem_cleanup_step hmem with hold | ⟨r, hr, -⟩
      · exact hold
      · cases hr
    obtain ⟨u, hu⟩ := ho.running q j hslot hold
    rcases List.mem_cons.mp hu with h | hu
    · cases h
      exact absurd rfl hq
    · exact ⟨u, hu⟩
  · apply Slots.cleanedOnce_step ho.once
    intro q j hq
    cases hq
  · apply Slots.ended_step ho.ended
    intro q j hq hslot
    cases hq
    rw [hp] at hslot
    cases hslot
    exact hclean

/-- A `Cleanup` is called, where no other one of the provider is running. -/
theorem Orderly.clean (ho : Orderly w s) (hs : s.Ok) (hslot : s.slot p = some i)
    (hleaves : ∀ q j u, .cleanup q j u ∈ w → q ∉ p :: t.providers) :
    Orderly (.cleanup p i t :: w) (s.step (.cleanup p)) := by
  have hp : ∀ j u, .cleanup p j u ∉ w := fun j u hmem =>
    hleaves p j u hmem List.mem_cons_self
  have hnew : .cleanup i ∉ s.trace := by
    intro hclean
    obtain ⟨u, hu⟩ := ho.running p i hslot hclean
    exact hp i u hu
  refine ⟨ho.toKept.clean hslot t hp,
    List.Pairwise.cons (fun below hmem q j u hb => ?_) ho.leaves, ?_, ?_, ?_⟩
  · rw [hb] at hmem
    exact hleaves q j u hmem
  · intro q j hq hmem
    rw [Slots.slot_cleanup] at hq
    rcases Slots.mem_cleanup_step hmem with hold | ⟨r, hr, hrslot⟩
    · obtain ⟨u, hu⟩ := ho.running q j hq hold
      exact ⟨u, List.mem_cons_of_mem _ hu⟩
    · cases hr
      have hqp : q = p := (hs.owner q j hq).symm.trans (hs.owner p j hrslot)
      rw [hslot] at hrslot
      cases hrslot
      exact ⟨t, by rw [hqp]; exact List.mem_cons_self⟩
  · apply Slots.cleanedOnce_step ho.once
    intro q j hq hqslot
    cases hq
    rw [hslot] at hqslot
    cases hqslot
    exact hnew
  · apply Slots.ended_step ho.ended
    intro q j hq
    cases hq

theorem orderly_unwind {stack : List Frame} {rest : Rest} {ps : List ProviderPtr} {h : Host}
    (hok : h.pool.Ok) (ho : Orderly (work stack) h.pool)
    (hps : ∀ p i t, .cleanup p i t ∈ work stack → p ∉ ps) :
    Orderly (Session.unwind stack rest ps h).work (Session.unwind stack rest ps h).host.pool := by
  have hcases := unwind_cases stack rest ps h
  generalize Session.unwind stack rest ps h = r at hcases ⊢
  cases hcases with
  | done hnone =>
    show Orderly (work stack) (rest.run h).pool
    rwa [(rest_spec rest h).1]
  | cleaning skipped ps' p i hsplit hnone hslot =>
    show Orderly (.cleanup p i ⟨ps', rest⟩ :: work stack) (h.emit (.prov (.cleanup i))).pool
    rw [pool_cleanup h hslot]
    refine ho.clean hok hslot fun q j u hmem hq => hps q j u hmem ?_
    rw [hsplit]
    exact List.mem_append_right _ hq

/-- What is left to do unloads no provider whose `Cleanup` is running. -/
theorem Unwinds.orderly {s : Session} {l : Label} {stack : List Frame}
    {as : List (Slots.Action ProviderPtr)} (hu : Unwinds s l stack t as)
    (ho : Orderly s.work s.host.pool) (hok : s.host.pool.Ok) (hl : ¬ CleansAgain s l) :
    Orderly (work stack) (run Pool.step s.host.pool as) ∧
      ∀ p i u, .cleanup p i u ∈ work stack → p ∉ t.providers := by
  cases hu with
  | exit command client args env p hr haccepts htarget =>
    refine ⟨ho.step (a := .load p true) hok rfl rfl, fun q i u hmem hq => hl ?_⟩
    obtain ⟨hvm, hp⟩ := mem_exitProviders.mp hq
    exact ⟨haccepts, hvm, (q, i), mem_cleaning.mpr ⟨u, hmem⟩, htarget.trans hp⟩
  | stopvm client args env haccepts hvm hacquired =>
    refine ⟨ho, fun q i u hmem _ => hl ⟨haccepts, hvm, hacquired, ?_⟩⟩
    exact List.ne_nil_of_mem (mem_cleaning.mpr ⟨u, hmem⟩)
  | unloadExtension hstack =>
    have hwork : s.work = [] := by rw [Session.work, hstack, work_nil]
    rw [hwork] at ho
    exact ⟨ho, by simp⟩
  | ret hr endTime f stack hstack =>
    rw [Session.work, hstack, work_script] at ho
    refine ⟨ho.pop, fun q i u hmem => ?_⟩
    exact (List.pairwise_cons.mp ho.leaves).1 _ hmem q i u rfl
  | cleanedUp p i t stack hstack =>
    rw [Session.work, hstack, work_cleanup] at ho
    refine ⟨ho.free, fun q j u hmem hq => ?_⟩
    exact (List.pairwise_cons.mp ho.leaves).1 _ hmem q j u rfl (List.mem_cons_of_mem _ hq)

theorem orderly_step (s : Session) (l : Label) (hok : SessionOk s)
    (ho : Orderly s.work s.host.pool) (hl : ¬ CleansAgain s l) :
    Orderly (s.step l).work (s.step l).host.pool := by
  have hchange := step_change s l
  generalize s.step l = s' at hchange
  cases hchange with
  | idle h => rwa [h.work, h.pool]
  | loadExtension e hstack =>
    have hwork : s.work = [] := by rw [Session.work, hstack, work_nil]
    rw [hwork] at ho
    show Orderly [] (debugExtensionInitialize e s.host).1.pool
    rwa [(hostOk_loadExtension hok.host e).2]
  | loadFailed command client args env p haccepts htarget hslot hpool hwork hlist =>
    rw [hwork, hpool]
    exact ho.step hok.host.pool rfl rfl
  | started command client args env f haccepts htarget hvm hinst hpool hwork hlist =>
    have hload := ho.step (a := .load f.scriptProv true) hok.host.pool rfl rfl
    have huse := hload.step (a := .use f.scriptProv) (Slots.ok_step hok.host.pool _) rfl rfl
    rw [hwork, hpool]
    refine huse.script fun p i t hmem hp => hl ?_
    obtain ⟨hoff, hsame⟩ := mem_exitProviders.mp hp
    exact ⟨haccepts, hvm.symm.trans hoff, (p, i), mem_cleaning.mpr ⟨t, hmem⟩,
      htarget.trans hsame⟩
  | @unwinds _ g stack t as hunwinds hpool hlist =>
    have hg : g.pool.Ok := by
      rw [hpool]
      exact Slots.ok_run hok.host.pool as
    obtain ⟨horder, hps⟩ := hunwinds.orderly ho hok.host.pool hl
    refine orderly_unwind hg ?_ hps
    rwa [hpool]

/-! ## The condition is necessary -/

/-- Something on the stack will unload a provider whose `Cleanup` is running below it. -/
def Overlapping (w : List Frame) : Prop := ∃ p i t, Undercut w (.cleanup p i t) p

/-- A command that unloads a provider whose `Cleanup` is running leads to a second one. -/
theorem overlapping_of_cleansAgain {s : Session} {l : Label} (hok : SessionOk s)
    (hk : Kept s.work s.host.pool) (hl : CleansAgain s l) : Overlapping (s.step l).work := by
  cases l with
  | call command client args env =>
    cases command with
    | script command =>
      obtain ⟨haccepts, hvm, ⟨p, i⟩, hc, htarget⟩ := hl
      obtain ⟨t, hmem⟩ := mem_cleaning.mp hc
      exact ⟨p, i, t, undercut_script haccepts hvm htarget (hk.slot p i t hmem).1 hmem⟩
    | stopvm =>
      obtain ⟨haccepts, hvm, hacquired, hne⟩ := hl
      obtain ⟨⟨p, i⟩, hc⟩ := List.exists_mem_of_ne_nil _ hne
      obtain ⟨t, hmem⟩ := mem_cleaning.mp hc
      have hreg := hok.registered _ hmem p List.mem_cons_self
      have hslot := (hk.slot p i t hmem).1
      exact ⟨p, i, t, undercut_stopvm args haccepts hvm hacquired hreg hslot hmem⟩
    | scriptpath => exact absurd hl not_false
    | startvm => exact absurd hl not_false
  | _ => exact absurd hl not_false

/-- What will lead to a second `Cleanup` stays as long as there is none. -/
theorem overlapping_step {s : Session} {l : Label} (hk : Kept s.work s.host.pool)
    (hover : Overlapping s.work) : Overlapping (s.step l).work := by
  obtain ⟨p, i, u, hu⟩ := hover
  have hslot := (hk.slot p i u hu.mem).1
  rcases undercut_step (l := l) hu hslot with hu | ⟨j, t, stack, -, hstack, hlow⟩
  · exact ⟨p, i, u, hu⟩
  · -- the provider would be cleaned up twice already
    have hdistinct := hk.distinct
    rw [Session.work, hstack, work_cleanup] at hdistinct
    exact absurd rfl ((List.pairwise_cons.mp hdistinct).1 _ hlow p j t i u rfl)

end DbgScript
