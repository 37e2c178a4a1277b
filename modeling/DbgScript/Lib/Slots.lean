import DbgScript.Lib.Runs
import Mathlib.Logic.Function.Basic

/-!
# Slots for instances

Each owner has a slot that holds at most one instance. An instance is made and
initialised when its owner's slot is empty, and used as long as it is in the slot. To
unload an owner is to clean up the instance in its slot, and then to empty the slot; other
things can happen in between. What happens to the instances is recorded in a trace.

* `ok_step`: the invariant, in particular that an instance in a slot has been
  initialised once.
* `tidy_step`: where owners are only unloaded as a whole, an instance in a slot has not been
  cleaned up, and every other instance has been.
* `count_cleanup`: an instance that has left its slot has been cleaned up once.
* `usesLive_use`: a use of a slot that is not stale uses a live instance.
* `slot_run_keeps`, `cleaned_of_since`: an owner whose slot is not emptied keeps its
  instance, and only instances of owners that are cleaned up are.

A slot is stale when the initialisation of its instance has failed, which does not empty
it, or when its instance has been cleaned up already.
-/

namespace Slots

open Runs (run Guarded)

/-! ## Pools -/

/-- An instance: the owner it was made for, and a serial number. -/
structure Instance (P : Type*) where
  owner : P
  serial : ℕ
  deriving DecidableEq

/-- What can happen to instances. A use goes through the slot of an owner, whatever
    it holds. -/
inductive Event (P : Type*) where
  | create (i : Instance P)
  | init (i : Instance P) (ok : Bool)
  | use (p : P) (i : Option (Instance P))
  | cleanup (i : Instance P)
  | free (p : P)
  deriving DecidableEq

/-- The slots, the next serial number, and the trace. -/
structure Pool (P : Type*) where
  slot : P → Option (Instance P)
  next : ℕ
  trace : List (Event P)

/-- The operations on a pool. -/
inductive Action (P : Type*) where
  | load (p : P) (ok : Bool)
  | use (p : P)
  | cleanup (p : P)
  | free (p : P)
  | unload (p : P)

/-- The owner whose instance an operation cleans up, and the owner whose slot it empties. -/
def Action.cleans {P : Type*} : Action P → Option P
  | .cleanup p | .unload p => some p
  | .load _ _ | .use _ | .free _ => none

def Action.empties {P : Type*} : Action P → Option P
  | .free p | .unload p => some p
  | .load _ _ | .use _ | .cleanup _ => none

variable {P : Type*} {s : Pool P} {p : P} {i : Instance P}

/-! ## The invariant -/

/-- The instance an event is about. -/
def Event.inst? : Event P → Option (Instance P)
  | .create i | .init i _ | .cleanup i => some i
  | .use _ i => i
  | .free _ => none

/-- The invariant of a pool. -/
structure Pool.Ok (s : Pool P) : Prop where
  owner : ∀ p i, s.slot p = some i → i.owner = p
  fresh : ∀ e ∈ s.trace, ∀ i ∈ e.inst?, i.serial < s.next
  created : ∀ p i, s.slot p = some i → .create i ∈ s.trace
  inited : ∀ p i, s.slot p = some i → ∃ ok, .init i ok ∈ s.trace
  initOnce : ∀ i ok ok', .init i ok ∈ s.trace → .init i ok' ∈ s.trace → ok = ok'

/-- Every instance that has been made is in its owner's slot or has been cleaned up. -/
def Pool.Ended (s : Pool P) : Prop :=
  ∀ i, .create i ∈ s.trace → s.slot i.owner = some i ∨ .cleanup i ∈ s.trace

/-- No instance in a slot has been cleaned up, and every other one has. -/
structure Pool.Tidy (s : Pool P) : Prop extends s.Ok where
  notCleaned : ∀ p i, s.slot p = some i → .cleanup i ∉ s.trace
  ended : s.Ended

/-- An instance that has been initialised and not been cleaned up. -/
def Live (trace : List (Event P)) (i : Instance P) : Prop :=
  .init i true ∈ trace ∧ .cleanup i ∉ trace

/-- The slot holds an instance whose initialisation has failed, or that has been cleaned up
    already. -/
def Pool.Stale (s : Pool P) (p : P) : Prop :=
  ∃ i, s.slot p = some i ∧ (.init i false ∈ s.trace ∨ .cleanup i ∈ s.trace)

theorem tidy_empty (slot : P → Option (Instance P)) (h : ∀ p, slot p = none) (next : ℕ) :
    Pool.Tidy ⟨slot, next, []⟩ := by
  refine ⟨⟨?_, ?_, ?_, ?_, ?_⟩, ?_, ?_⟩
  · intro p i hp
    simp [h] at hp
  · simp
  · intro p i hp
    simp [h] at hp
  · intro p i hp
    simp [h] at hp
  · simp
  · simp
  · intro i hi
    simp at hi

theorem Pool.Ok.serial_lt (hs : s.Ok) (hp : s.slot p = some i) : i.serial < s.next := by
  obtain ⟨ok, hi⟩ := hs.inited p i hp
  exact hs.fresh _ hi i rfl

/-- The next instance has not been heard of. -/
theorem Pool.Ok.not_mem (hs : s.Ok) {e : Event P} (he : e.inst? = some ⟨p, s.next⟩) :
    e ∉ s.trace :=
  fun hmem => Nat.lt_irrefl _ (hs.fresh e hmem ⟨p, s.next⟩ he)

/-- Every use goes through a slot that holds a live instance. -/
def UsesLive (trace : List (Event P)) : Prop :=
  Guarded (fun pre e => ∀ p i, e = .use p i → ∃ j, i = some j ∧ Live pre j) trace

/-- Emptying slots and recording something other than an initialisation. -/
theorem Pool.Ok.shrink (hs : s.Ok) {slot : P → Option (Instance P)} {new : List (Event P)}
    (hslot : ∀ q i, slot q = some i → s.slot q = some i)
    (hfresh : ∀ e ∈ new, ∀ i ∈ e.inst?, i.serial < s.next)
    (hinit : ∀ i ok, .init i ok ∉ new) : Pool.Ok ⟨slot, s.next, s.trace ++ new⟩ := by
  have hold : ∀ i ok, .init i ok ∈ s.trace ++ new → .init i ok ∈ s.trace := by
    intro i ok h
    exact (List.mem_append.mp h).resolve_right (hinit i ok)
  refine ⟨?_, ?_, ?_, ?_, ?_⟩
  · intro q i h
    exact hs.owner q i (hslot q i h)
  · intro e he i hi
    rcases List.mem_append.mp he with he | he
    · exact hs.fresh e he i hi
    · exact hfresh e he i hi
  · intro q i h
    exact List.mem_append_left _ (hs.created q i (hslot q i h))
  · intro q i h
    obtain ⟨ok, hi⟩ := hs.inited q i (hslot q i h)
    exact ⟨ok, List.mem_append_left _ hi⟩
  · intro i ok ok' h h'
    exact hs.initOnce i ok ok' (hold i ok h) (hold i ok' h')

/-- An instance in a slot that is not stale is live. -/
theorem Pool.Ok.live (hs : s.Ok) (hp : s.slot p = some i) (hb : ¬ s.Stale p) :
    Live s.trace i := by
  obtain ⟨ok, hi⟩ := hs.inited p i hp
  refine ⟨?_, fun hclean => hb ⟨i, hp, .inr hclean⟩⟩
  cases ok with
  | true => exact hi
  | false => exact absurd ⟨i, hp, .inl hi⟩ hb

/-- And a live instance is in no stale slot. -/
theorem Pool.Ok.not_stale (hs : s.Ok) (hp : s.slot p = some i) (hl : Live s.trace i) :
    ¬ s.Stale p := by
  rintro ⟨j, hj, hbad⟩
  obtain rfl : j = i := Option.some.inj (hj.symm.trans hp)
  rcases hbad with hfail | hclean
  · exact absurd (hs.initOnce j true false hl.1 hfail) (by decide)
  · exact hl.2 hclean

theorem usesLive_quiet {trace : List (Event P)} (h : UsesLive trace) {new : List (Event P)}
    (hnew : ∀ e ∈ new, ∀ p i, e ≠ .use p i) : UsesLive (trace ++ new) := by
  refine (Runs.guarded_append _ _).mpr ⟨h, ?_⟩
  intro pre e post heq p i he
  exact absurd he (hnew e (by simp [heq]) p i)

/-- What is used is an instance. -/
theorem UsesLive.exists_some {trace : List (Event P)} (h : UsesLive trace)
    {inst : Option (Instance P)} (he : .use p inst ∈ trace) : ∃ i, inst = some i := by
  obtain ⟨pre, post, hsplit⟩ := List.append_of_mem he
  obtain ⟨i, hi, -⟩ := h pre _ post hsplit p inst rfl
  exact ⟨i, hi⟩

/-- What has been added to the trace from `s` to `s'`. -/
def Pool.since (s s' : Pool P) : List (Event P) := s'.trace.drop s.trace.length

theorem since_eq {s' : Pool P} {new : List (Event P)} (h : s'.trace = s.trace ++ new) :
    s.since s' = new := by
  rw [Pool.since, h, List.drop_left]

@[simp] theorem since_self (s : Pool P) : s.since s = [] := since_eq (List.append_nil _).symm

/-! ## The operations -/

variable [DecidableEq P]

def Pool.step (s : Pool P) : Action P → Pool P
  | .load p ok =>
    match s.slot p with
    | some _ => s
    | none =>
      { slot := Function.update s.slot p (some ⟨p, s.next⟩)
        next := s.next + 1
        trace := s.trace ++ [.create ⟨p, s.next⟩, .init ⟨p, s.next⟩ ok] }
  | .use p => { s with trace := s.trace ++ [.use p (s.slot p)] }
  | .cleanup p =>
    match s.slot p with
    | none => s
    | some i => { s with trace := s.trace ++ [.cleanup i] }
  | .free p =>
    { s with
      slot := Function.update s.slot p none
      trace := s.trace ++ [.free p] }
  | .unload p =>
    match s.slot p with
    | none => s
    | some i =>
      { s with
        slot := Function.update s.slot p none
        trace := s.trace ++ [.cleanup i, .free p] }

theorem step_load_some (h : s.slot p = some i) (ok : Bool) : s.step (.load p ok) = s := by
  simp [Pool.step, h]

theorem step_load_none (h : s.slot p = none) (ok : Bool) :
    s.step (.load p ok) =
      { slot := Function.update s.slot p (some ⟨p, s.next⟩)
        next := s.next + 1
        trace := s.trace ++ [.create ⟨p, s.next⟩, .init ⟨p, s.next⟩ ok] } := by
  simp [Pool.step, h]

theorem step_unload_none (h : s.slot p = none) : s.step (.unload p) = s := by
  simp [Pool.step, h]

theorem step_unload_some (h : s.slot p = some i) :
    s.step (.unload p) =
      { s with
        slot := Function.update s.slot p none
        trace := s.trace ++ [.cleanup i, .free p] } := by
  simp [Pool.step, h]

theorem step_cleanup_none (h : s.slot p = none) : s.step (.cleanup p) = s := by
  simp [Pool.step, h]

theorem step_cleanup_some (h : s.slot p = some i) :
    s.step (.cleanup p) = { s with trace := s.trace ++ [.cleanup i] } := by
  simp [Pool.step, h]

theorem step_free (s : Pool P) (p : P) :
    s.step (.free p) =
      { s with
        slot := Function.update s.slot p none
        trace := s.trace ++ [.free p] } := rfl

/-- To unload an owner with an instance is to clean up and then to free. -/
theorem step_unload_eq (h : s.slot p = some i) :
    s.step (.unload p) = (s.step (.cleanup p)).step (.free p) := by
  rw [step_unload_some h, step_cleanup_some h, step_free, List.append_assoc]
  rfl

@[simp] theorem slot_cleanup (s : Pool P) (p : P) : (s.step (.cleanup p)).slot = s.slot := by
  cases h : s.slot p with
  | none => rw [step_cleanup_none h]
  | some i => rw [step_cleanup_some h]

@[simp] theorem slot_free (s : Pool P) (p : P) : (s.step (.free p)).slot p = none :=
  Function.update_self ..

theorem slot_free_of_ne {q : P} (hq : q ≠ p) : (s.step (.free p)).slot q = s.slot q :=
  Function.update_of_ne hq _ _

/-- A loaded slot is not empty. -/
theorem slot_load (s : Pool P) (p : P) (ok : Bool) :
    ∃ i, (s.step (.load p ok)).slot p = some i := by
  cases h : s.slot p with
  | some i => exact ⟨i, by rw [step_load_some h, h]⟩
  | none => exact ⟨⟨p, s.next⟩, by rw [step_load_none h]; exact Function.update_self ..⟩

theorem slot_load_of_ne {q : P} (hq : q ≠ p) (ok : Bool) :
    (s.step (.load p ok)).slot q = s.slot q := by
  cases h : s.slot p with
  | some i => rw [step_load_some h]
  | none => rw [step_load_none h]; exact Function.update_of_ne hq _ _

@[simp] theorem slot_unload (s : Pool P) (p : P) : (s.step (.unload p)).slot p = none := by
  cases h : s.slot p with
  | none => rw [step_unload_none h, h]
  | some i => rw [step_unload_some h]; exact Function.update_self ..

theorem slot_unload_of_ne {q : P} (hq : q ≠ p) : (s.step (.unload p)).slot q = s.slot q := by
  cases h : s.slot p with
  | none => rw [step_unload_none h]
  | some i => rw [step_unload_some h]; exact Function.update_of_ne hq _ _

/-- The trace only grows. -/
theorem trace_step (s : Pool P) (a : Action P) : s.trace <+: (s.step a).trace := by
  cases a with
  | use p => exact List.prefix_append _ _
  | load p ok =>
    cases h : s.slot p with
    | some i => simp [step_load_some h]
    | none => rw [step_load_none h]; exact List.prefix_append _ _
  | cleanup p =>
    cases h : s.slot p with
    | none => simp [step_cleanup_none h]
    | some i => rw [step_cleanup_some h]; exact List.prefix_append _ _
  | free p => exact List.prefix_append _ _
  | unload p =>
    cases h : s.slot p with
    | none => simp [step_unload_none h]
    | some i => rw [step_unload_some h]; exact List.prefix_append _ _

theorem trace_run (s : Pool P) (as : List (Action P)) :
    s.trace <+: (run Pool.step s as).trace := by
  induction as generalizing s with
  | nil => exact List.prefix_rfl
  | cons a as ih => exact (trace_step s a).trans (ih _)

/-! ## The operations keep the invariant -/

/-- What a load puts in a slot, and what was there before. -/
theorem slot_load_cases {q : P} (ok : Bool) (h : (s.step (.load p ok)).slot q = some i) :
    s.slot q = some i ∨ q = p ∧ s.slot p = none ∧ i = ⟨p, s.next⟩ := by
  cases hp : s.slot p with
  | some j =>
    rw [step_load_some hp] at h
    exact .inl h
  | none =>
    rw [step_load_none hp] at h
    by_cases hq : q = p
    · rw [hq] at h
      dsimp only at h
      rw [Function.update_self, Option.some.injEq] at h
      exact .inr ⟨hq, rfl, h.symm⟩
    · dsimp only at h
      rw [Function.update_of_ne hq] at h
      exact .inl h

theorem ok_load (hs : s.Ok) (p : P) (ok : Bool) : (s.step (.load p ok)).Ok := by
  cases hp : s.slot p with
  | some i => rwa [step_load_some hp]
  | none =>
    have hslot : ∀ q i, (s.step (.load p ok)).slot q = some i →
        s.slot q = some i ∨ q = p ∧ s.slot p = none ∧ i = ⟨p, s.next⟩ :=
      fun q i => slot_load_cases ok
    rw [step_load_none hp] at hslot ⊢
    refine ⟨?_, ?_, ?_, ?_, ?_⟩
    · intro q i h
      rcases hslot q i h with h | ⟨rfl, -, rfl⟩
      · exact hs.owner q i h
      · rfl
    · intro e he i hi
      simp only [List.mem_append, List.mem_cons, List.not_mem_nil, or_false] at he
      rcases he with he | rfl | rfl
      · exact Nat.lt_succ_of_lt (hs.fresh e he i hi)
      · cases hi
        exact Nat.lt_succ_self _
      · cases hi
        exact Nat.lt_succ_self _
    · intro q i h
      rcases hslot q i h with h | ⟨rfl, -, rfl⟩
      · exact List.mem_append_left _ (hs.created q i h)
      · simp
    · intro q i h
      rcases hslot q i h with h | ⟨rfl, -, rfl⟩
      · obtain ⟨ok', h'⟩ := hs.inited q i h
        exact ⟨ok', List.mem_append_left _ h'⟩
      · exact ⟨ok, by simp⟩
    · intro i ok1 ok2 h1 h2
      simp only [List.mem_append, List.mem_cons, reduceCtorEq, Event.init.injEq, List.not_mem_nil,
        or_false, false_or] at h1 h2
      rcases h1 with h1 | ⟨rfl, rfl⟩ <;> rcases h2 with h2 | ⟨h2, rfl⟩
      · exact hs.initOnce i ok1 ok2 h1 h2
      · exact absurd h1 (hs.not_mem (by rw [h2]; rfl))
      · exact absurd h2 (hs.not_mem rfl)
      · rfl

theorem ok_use (hs : s.Ok) (p : P) : (s.step (.use p)).Ok := by
  refine hs.shrink (fun _ _ h => h) ?_ (by simp)
  intro e he i hi
  rw [List.mem_singleton] at he
  rw [he] at hi
  exact hs.serial_lt hi

theorem ok_cleanup (hs : s.Ok) (p : P) : (s.step (.cleanup p)).Ok := by
  cases hp : s.slot p with
  | none => rwa [step_cleanup_none hp]
  | some j =>
    rw [step_cleanup_some hp]
    refine hs.shrink (fun _ _ h => h) ?_ (by simp)
    intro e he i hi
    rw [List.mem_singleton] at he
    rw [he] at hi
    cases hi
    exact hs.serial_lt hp

theorem ok_free (hs : s.Ok) (p : P) : (s.step (.free p)).Ok := by
  rw [step_free]
  refine hs.shrink (fun q i h => ?_) (by simp [Event.inst?]) (by simp)
  by_cases hq : q = p
  · rw [hq, Function.update_self] at h
    cases h
  · rwa [Function.update_of_ne hq] at h

/-- Every operation keeps the invariant. -/
theorem ok_step (hs : s.Ok) (a : Action P) : (s.step a).Ok := by
  cases a with
  | load p ok => exact ok_load hs p ok
  | use p => exact ok_use hs p
  | cleanup p => exact ok_cleanup hs p
  | free p => exact ok_free hs p
  | unload p =>
    cases hp : s.slot p with
    | none => rwa [step_unload_none hp]
    | some i =>
      rw [step_unload_eq hp]
      exact ok_free (ok_cleanup hs p) p

theorem ok_run (hs : s.Ok) (as : List (Action P)) : (run Pool.step s as).Ok := by
  induction as generalizing s with
  | nil => exact hs
  | cons a as ih => exact ih (ok_step hs a)

/-! ## Cleaning up -/

/-- Only cleaning up the instance in a slot adds a clean-up. -/
theorem mem_cleanup_step {a : Action P} (h : .cleanup i ∈ (s.step a).trace) :
    .cleanup i ∈ s.trace ∨ ∃ p, a.cleans = some p ∧ s.slot p = some i := by
  cases a with
  | load p ok =>
    cases hp : s.slot p with
    | some j =>
      rw [step_load_some hp] at h
      exact .inl h
    | none => exact .inl (by simpa [step_load_none hp] using h)
  | use p => exact .inl (by simpa [Pool.step] using h)
  | free p => exact .inl (by simpa [step_free] using h)
  | cleanup p =>
    cases hp : s.slot p with
    | none =>
      rw [step_cleanup_none hp] at h
      exact .inl h
    | some j =>
      simp only [step_cleanup_some hp, List.mem_append, List.mem_singleton,
        Event.cleanup.injEq] at h
      exact h.imp_right fun hi => ⟨p, rfl, by rw [hp, hi]⟩
  | unload p =>
    cases hp : s.slot p with
    | none =>
      rw [step_unload_none hp] at h
      exact .inl h
    | some j =>
      simp only [step_unload_some hp, List.mem_append, List.mem_cons, Event.cleanup.injEq,
        reduceCtorEq, List.not_mem_nil, or_false] at h
      exact h.imp_right fun hi => ⟨p, rfl, by rw [hp, hi]⟩

/-- An owner keeps its instance as long as its slot is not emptied. -/
theorem slot_step_keeps {a : Action P} (ha : a.empties ≠ some p) (hp : s.slot p = some i) :
    (s.step a).slot p = some i := by
  cases a with
  | use q => exact hp
  | cleanup q => rw [slot_cleanup, hp]
  | free q =>
    have hq : p ≠ q := fun hq => ha (by rw [hq]; rfl)
    rw [slot_free_of_ne hq, hp]
  | unload q =>
    have hq : p ≠ q := fun hq => ha (by rw [hq]; rfl)
    rw [slot_unload_of_ne hq, hp]
  | load q ok =>
    by_cases hq : p = q
    · rw [← hq, step_load_some hp, hp]
    · rw [slot_load_of_ne hq, hp]

/-- What has been made is still accounted for, unless a slot is emptied whose instance has
    not been cleaned up. -/
theorem ended_step (he : s.Ended) {a : Action P}
    (ha : ∀ p i, a = .free p → s.slot p = some i → .cleanup i ∈ s.trace) :
    (s.step a).Ended := by
  intro i hi
  have hold : .create i ∈ s.trace →
      (s.step a).slot i.owner = some i ∨ .cleanup i ∈ (s.step a).trace := by
    intro hcreate
    rcases he i hcreate with hslot | hclean
    · by_cases hempties : a.empties = some i.owner
      · right
        cases a with
        | free q =>
          cases hempties
          exact (trace_step s _).subset (ha _ i rfl hslot)
        | unload q =>
          cases hempties
          rw [step_unload_some hslot]
          simp
        | _ => cases hempties
      · exact .inl (slot_step_keeps hempties hslot)
    · exact .inr ((trace_step s a).subset hclean)
  cases a with
  | load p ok =>
    cases hp : s.slot p with
    | some j =>
      rw [step_load_some hp] at hi hold ⊢
      exact hold hi
    | none =>
      simp only [step_load_none hp, List.mem_append, List.mem_cons, Event.create.injEq,
        reduceCtorEq, List.not_mem_nil, or_false] at hi
      rcases hi with hi | rfl
      · exact hold hi
      · left
        rw [step_load_none hp]
        exact Function.update_self ..
  | use p => exact hold (by simpa [Pool.step] using hi)
  | free p => exact hold (by simpa [step_free] using hi)
  | cleanup p =>
    refine hold ?_
    cases hp : s.slot p with
    | none => rwa [step_cleanup_none hp] at hi
    | some j => simpa [step_cleanup_some hp] using hi
  | unload p =>
    refine hold ?_
    cases hp : s.slot p with
    | none => rwa [step_unload_none hp] at hi
    | some j => simpa [step_unload_some hp] using hi

/-- Where an owner is only unloaded as a whole, its slot holds nothing cleaned up. -/
theorem tidy_step (hs : s.Tidy) {a : Action P} (ha : a.cleans = a.empties) :
    (s.step a).Tidy := by
  refine ⟨ok_step hs.toOk a, ?_, ended_step hs.ended ?_⟩
  · intro p i hslot hclean
    rcases mem_cleanup_step hclean with hold | ⟨q, hq, hqslot⟩
    · cases a with
      | load q ok =>
        rcases slot_load_cases ok hslot with hslot | ⟨rfl, -, rfl⟩
        · exact hs.notCleaned p i hslot hold
        · exact hs.toOk.not_mem rfl hold
      | use q => exact hs.notCleaned p i hslot hold
      | unload q =>
        by_cases hpq : p = q
        · rw [hpq, slot_unload] at hslot
          cases hslot
        · rw [slot_unload_of_ne hpq] at hslot
          exact hs.notCleaned p i hslot hold
      | cleanup q => cases ha
      | free q => cases ha
    · -- the owner of a cleaned up instance has an empty slot
      have hqp : q = p := by
        rw [← hs.toOk.owner q i hqslot]
        exact (ok_step hs.toOk a).owner p i hslot
      cases a with
      | unload r =>
        cases hq
        rw [hqp, slot_unload] at hslot
        cases hslot
      | cleanup r => cases ha
      | _ => cases hq
  · rintro p i rfl
    cases ha

theorem tidy_run (hs : s.Tidy) {as : List (Action P)} (has : ∀ a ∈ as, a.cleans = a.empties) :
    (run Pool.step s as).Tidy := by
  induction as generalizing s with
  | nil => exact hs
  | cons a as ih =>
    rw [List.forall_mem_cons] at has
    exact ih (tidy_step hs has.1) has.2

/-- No instance is cleaned up twice. -/
def Pool.CleanedOnce (s : Pool P) : Prop := ∀ i, s.trace.count (.cleanup i) ≤ 1

/-- How often an instance has been cleaned up after one more operation. -/
theorem count_cleanup_step (s : Pool P) (a : Action P) (i : Instance P) :
    (s.step a).trace.count (.cleanup i) = s.trace.count (.cleanup i) +
      if a.cleans.bind s.slot = some i then 1 else 0 := by
  cases a with
  | load p ok =>
    cases hp : s.slot p with
    | some j => simp [step_load_some hp, Action.cleans]
    | none => simp [step_load_none hp, Action.cleans]
  | use p => simp [Pool.step, Action.cleans]
  | free p => simp [step_free, Action.cleans]
  | cleanup p =>
    cases hp : s.slot p with
    | none => simp [step_cleanup_none hp, Action.cleans, hp]
    | some j => simp [step_cleanup_some hp, Action.cleans, hp, List.count_cons]
  | unload p =>
    cases hp : s.slot p with
    | none => simp [step_unload_none hp, Action.cleans, hp]
    | some j => simp [step_unload_some hp, Action.cleans, hp, List.count_cons]

theorem cleanedOnce_step (honce : s.CleanedOnce) {a : Action P}
    (ha : ∀ p i, a.cleans = some p → s.slot p = some i → .cleanup i ∉ s.trace) :
    (s.step a).CleanedOnce := by
  intro i
  rw [count_cleanup_step]
  split_ifs with hi
  · obtain ⟨p, hp, hslot⟩ := Option.bind_eq_some_iff.mp hi
    have hzero := List.count_eq_zero.mpr (ha p i hp hslot)
    omega
  · exact honce i

/-- An instance whose owner's slot is empty has been cleaned up once. -/
theorem count_cleanup (he : s.Ended) (honce : s.CleanedOnce) (hslot : s.slot i.owner = none)
    (hcreate : .create i ∈ s.trace) : s.trace.count (.cleanup i) = 1 := by
  have hmem : .cleanup i ∈ s.trace := by
    rcases he i hcreate with h | h
    · rw [hslot] at h
      cases h
    · exact h
  have hpos := List.count_pos_iff.mpr hmem
  have hle := honce i
  omega

/-! ## Uses -/

/-- An operation other than a use uses nothing. -/
theorem usesLive_step (h : UsesLive s.trace) {a : Action P} (ha : ∀ p, a ≠ .use p) :
    UsesLive (s.step a).trace := by
  cases a with
  | use p => exact absurd rfl (ha p)
  | load p ok =>
    cases hp : s.slot p with
    | some i => rwa [step_load_some hp]
    | none =>
      rw [step_load_none hp]
      exact usesLive_quiet h (by simp)
  | cleanup p =>
    cases hp : s.slot p with
    | none => rwa [step_cleanup_none hp]
    | some i =>
      rw [step_cleanup_some hp]
      exact usesLive_quiet h (by simp)
  | free p => exact usesLive_quiet h (by simp)
  | unload p =>
    cases hp : s.slot p with
    | none => rwa [step_unload_none hp]
    | some i =>
      rw [step_unload_some hp]
      exact usesLive_quiet h (by simp)

theorem usesLive_run (h : UsesLive s.trace) {as : List (Action P)} (has : ∀ p, .use p ∉ as) :
    UsesLive (run Pool.step s as).trace := by
  induction as generalizing s with
  | nil => exact h
  | cons a as ih =>
    refine ih (usesLive_step h fun p hp => ?_) fun p hp => has p (List.mem_cons_of_mem _ hp)
    exact has p (hp ▸ List.mem_cons_self)

theorem usesLive_use (hs : s.Ok) (h : UsesLive s.trace) (hp : s.slot p = some i)
    (hb : ¬ s.Stale p) : UsesLive (s.step (.use p)).trace := by
  refine (Runs.guarded_snoc _ _).mpr ⟨h, fun q j he => ?_⟩
  cases he
  exact ⟨i, hp, hs.live hp hb⟩

/-- Loading with success leaves a slot that is not stale, unless it was stale. -/
theorem not_stale_load (hs : s.Ok) (hb : ¬ s.Stale p) : ¬ (s.step (.load p true)).Stale p := by
  cases hp : s.slot p with
  | some i => rwa [step_load_some hp]
  | none =>
    rintro ⟨i, hslot, hbad⟩
    rcases slot_load_cases true hslot with hslot | ⟨-, -, rfl⟩
    · rw [hp] at hslot
      cases hslot
    · rw [step_load_none hp] at hbad
      simp only [List.mem_append, List.mem_cons, reduceCtorEq, Event.init.injEq,
        Bool.false_eq_true, and_false, List.not_mem_nil, or_false] at hbad
      rcases hbad with hbad | hbad
      · exact hs.not_mem rfl hbad
      · exact hs.not_mem rfl hbad

/-! ## Runs -/

/-- Unloading a list of owners empties their slots. -/
theorem slot_unloads (ps : List P) (s : Pool P) (p : P) :
    (run Pool.step s (ps.map .unload)).slot p = if p ∈ ps then none else s.slot p := by
  induction ps generalizing s with
  | nil => simp
  | cons q ps ih =>
    rw [List.map_cons, Runs.run_cons, ih]
    by_cases hp : p = q
    · rw [hp, slot_unload]
      simp
    · rw [slot_unload_of_ne hp]
      simp [hp]

/-- Only a load fills a slot. -/
theorem slot_run_ne_none {as : List (Action P)} (h : (run Pool.step s as).slot p ≠ none) :
    s.slot p ≠ none ∨ ∃ ok, .load p ok ∈ as := by
  induction as generalizing s with
  | nil => exact Or.inl h
  | cons a as ih =>
    rcases ih h with h1 | ⟨ok, h1⟩
    · cases a with
      | use q => exact Or.inl h1
      | cleanup q =>
        rw [slot_cleanup] at h1
        exact Or.inl h1
      | free q =>
        by_cases hq : p = q
        · rw [hq, slot_free] at h1
          exact absurd rfl h1
        · rw [slot_free_of_ne hq] at h1
          exact Or.inl h1
      | unload q =>
        by_cases hq : p = q
        · rw [hq, slot_unload] at h1
          exact absurd rfl h1
        · rw [slot_unload_of_ne hq] at h1
          exact Or.inl h1
      | load q ok =>
        by_cases hq : p = q
        · rw [hq]
          exact Or.inr ⟨ok, List.mem_cons_self⟩
        · rw [slot_load_of_ne hq] at h1
          exact Or.inl h1
    · exact Or.inr ⟨ok, List.mem_cons_of_mem _ h1⟩

theorem slot_run_keeps {as : List (Action P)} (has : ∀ a ∈ as, a.empties ≠ some p)
    (hp : s.slot p = some i) : (run Pool.step s as).slot p = some i := by
  induction as generalizing s with
  | nil => exact hp
  | cons a as ih =>
    rw [List.forall_mem_cons] at has
    exact ih has.2 (slot_step_keeps has.1 hp)

theorem since_cons (s : Pool P) (a : Action P) (as : List (Action P)) :
    s.since (run Pool.step s (a :: as)) =
      s.since (s.step a) ++ (s.step a).since (run Pool.step (s.step a) as) := by
  obtain ⟨new, hnew⟩ := trace_step s a
  obtain ⟨rest, hrest⟩ := trace_run (s.step a) as
  rw [since_eq hnew.symm, since_eq hrest.symm]
  apply since_eq
  rw [Runs.run_cons, ← hrest, ← hnew, List.append_assoc]

/-- What each operation adds to the trace. -/
def Action.events (s : Pool P) : Action P → List (Event P)
  | .load p ok =>
    match s.slot p with
    | none => [.create ⟨p, s.next⟩, .init ⟨p, s.next⟩ ok]
    | some _ => []
  | .use p => [.use p (s.slot p)]
  | .cleanup p => (s.slot p).toList.map .cleanup
  | .free p => [.free p]
  | .unload p =>
    match s.slot p with
    | none => []
    | some i => [.cleanup i, .free p]

theorem since_step (s : Pool P) (a : Action P) : s.since (s.step a) = a.events s := by
  cases a with
  | load p ok =>
    cases hp : s.slot p with
    | none =>
      rw [step_load_none hp, Action.events, hp]
      exact since_eq rfl
    | some i => simp only [step_load_some hp, Action.events, hp, since_self]
  | use p => exact since_eq rfl
  | free p => exact since_eq rfl
  | cleanup p =>
    cases hp : s.slot p with
    | none => simp [step_cleanup_none hp, Action.events, hp]
    | some i =>
      rw [step_cleanup_some hp, Action.events, hp]
      exact since_eq rfl
  | unload p =>
    cases hp : s.slot p with
    | none => simp only [step_unload_none hp, Action.events, hp, since_self]
    | some i =>
      rw [step_unload_some hp, Action.events, hp]
      exact since_eq rfl

theorem mem_since_cons {a : Action P} {as : List (Action P)} {e : Event P} :
    e ∈ s.since (run Pool.step s (a :: as)) ↔
      e ∈ a.events s ∨ e ∈ (s.step a).since (run Pool.step (s.step a) as) := by
  rw [since_cons, List.mem_append, since_step]

/-- Only an operation that cleans up the owner of an instance cleans up the instance. -/
theorem cleaned_of_since (hs : s.Ok) {as : List (Action P)}
    (he : .cleanup i ∈ s.since (run Pool.step s as)) : ∃ a ∈ as, a.cleans = some i.owner := by
  induction as generalizing s with
  | nil =>
    rw [Runs.run_nil, since_self] at he
    cases he
  | cons a as ih =>
    rcases mem_since_cons.mp he with he | he
    · refine ⟨a, List.mem_cons_self, ?_⟩
      cases a with
      | load q ok =>
        simp only [Action.events] at he
        split at he <;> simp at he
      | use q => simp [Action.events] at he
      | free q => simp [Action.events] at he
      | cleanup q =>
        rw [hs.owner q i (by simpa [Action.events] using he)]
        rfl
      | unload q =>
        simp only [Action.events] at he
        split at he
        · cases he
        · next j hq =>
          obtain rfl : i = j := by simpa using he
          rw [hs.owner q i hq]
          rfl
    · obtain ⟨b, hb, hclean⟩ := ih (ok_step hs a) he
      exact ⟨b, List.mem_cons_of_mem _ hb, hclean⟩

/-- Only an operation that empties the slot of an owner frees the owner. -/
theorem emptied_of_since {as : List (Action P)} (he : .free p ∈ s.since (run Pool.step s as)) :
    ∃ a ∈ as, a.empties = some p := by
  induction as generalizing s with
  | nil =>
    rw [Runs.run_nil, since_self] at he
    cases he
  | cons a as ih =>
    rcases mem_since_cons.mp he with he | he
    · refine ⟨a, List.mem_cons_self, ?_⟩
      cases a with
      | load q ok =>
        simp only [Action.events] at he
        split at he <;> simp at he
      | use q => simp [Action.events] at he
      | cleanup q => simp [Action.events] at he
      | free q =>
        obtain rfl : p = q := by simpa [Action.events] using he
        rfl
      | unload q =>
        simp only [Action.events] at he
        split at he
        · cases he
        · obtain rfl : p = q := by simpa using he
          rfl
    · obtain ⟨b, hb, hempties⟩ := ih he
      exact ⟨b, List.mem_cons_of_mem _ hb, hempties⟩

/-- Where the slot of an owner is not emptied, all uses of it once it is filled go to the
    instance that is in it in the end. -/
theorem slot_of_use {as : List (Action P)} (has : ∀ a ∈ as, a.empties ≠ some p)
    (he : .use p (some i) ∈ s.since (run Pool.step s as)) :
    (run Pool.step s as).slot p = some i := by
  induction as generalizing s with
  | nil =>
    rw [Runs.run_nil, since_self] at he
    cases he
  | cons a as ih =>
    rw [List.forall_mem_cons] at has
    rcases mem_since_cons.mp he with he | he
    · show (run Pool.step (s.step a) as).slot p = some i
      refine slot_run_keeps has.2 ?_
      cases a with
      | use q =>
        simp only [Action.events, List.mem_singleton, Event.use.injEq] at he
        obtain ⟨rfl, he⟩ := he
        exact he.symm
      | load q ok =>
        simp only [Action.events] at he
        split at he <;> simp at he
      | cleanup q => simp [Action.events] at he
      | free q => simp [Action.events] at he
      | unload q =>
        simp only [Action.events] at he
        split at he <;> simp at he
    · exact ih has.2 he

/-- Only a use uses. -/
theorem use_of_since {as : List (Action P)} {inst : Option (Instance P)}
    (he : .use p inst ∈ s.since (run Pool.step s as)) : .use p ∈ as := by
  induction as generalizing s with
  | nil =>
    rw [Runs.run_nil, since_self] at he
    cases he
  | cons a as ih =>
    rcases mem_since_cons.mp he with he | he
    · cases a with
      | use q =>
        simp only [Action.events, List.mem_singleton, Event.use.injEq] at he
        rw [he.1]
        exact List.mem_cons_self
      | load q ok =>
        simp only [Action.events] at he
        split at he <;> simp at he
      | cleanup q => simp [Action.events] at he
      | free q => simp [Action.events] at he
      | unload q =>
        simp only [Action.events] at he
        split at he <;> simp at he
    · exact List.mem_cons_of_mem _ (ih he)

/-- An owner with an empty slot that is loaded, used once and unloaded. -/
theorem since_load_use_unload (h : s.slot p = none) :
    s.since (run Pool.step s [.load p true, .use p, .unload p]) =
      [.create ⟨p, s.next⟩, .init ⟨p, s.next⟩ true, .use p (some ⟨p, s.next⟩),
        .cleanup ⟨p, s.next⟩, .free p] := by
  apply since_eq
  simp [Pool.step, h]

/-- An owner that loses its instance is freed. -/
theorem free_of_slot_ne {as : List (Action P)} (hp : s.slot p = some i)
    (hne : (run Pool.step s as).slot p ≠ some i) : .free p ∈ s.since (run Pool.step s as) := by
  induction as generalizing s with
  | nil => exact absurd hp hne
  | cons a as ih =>
    rw [mem_since_cons]
    by_cases ha : a.empties = some p
    · left
      cases a with
      | free q =>
        cases ha
        exact List.mem_singleton_self _
      | unload q =>
        cases ha
        simp [Action.events, hp]
      | _ => cases ha
    · right
      exact ih (slot_step_keeps ha hp) hne

end Slots
