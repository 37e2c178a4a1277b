import Mathlib.Data.List.Induction

/-!
# Runs of a step function, and logs

A system is a step function `step : σ → ι → σ`; a run feeds it a list of inputs.
What its steps do to the outside world is a log that only grows.

* `run_keeps`, `run_inv`, `along_of_inv`: the invariant rule, for arbitrary runs, and
  for the states reached and the steps taken in runs whose steps all meet a condition.
* `take_iff_along`, `run_bad`: which runs keep a property of the states, when steps that are
  not `ok` break it, and where a run ends that takes a step which spoils it for good.
* `along_sim`, `run_sim`: the simulation rule for two systems fed with the same inputs.
* `take_iff_forall`: the same for steps that may not return.
* `guarded_append`: a property of every log entry, relative to what was logged
  before it, is checked block by block.
-/

namespace Runs

variable {σ τ ι ε : Type*}

/-! ## Runs -/

/-- The state after the inputs `is`. -/
def run (step : σ → ι → σ) (s : σ) (is : List ι) : σ := is.foldl step s

/-- Each input of the run meets `ok` in the state it is taken in. -/
def Along (step : σ → ι → σ) (ok : σ → ι → Prop) : σ → List ι → Prop
  | _, [] => True
  | s, i :: is => ok s i ∧ Along step ok (step s i) is

instance decidableAlong (step : σ → ι → σ) (ok : σ → ι → Prop) [∀ s i, Decidable (ok s i)] :
    ∀ s is, Decidable (Along step ok s is)
  | _, [] => .isTrue trivial
  | s, i :: is =>
    have := decidableAlong step ok (step s i) is
    inferInstanceAs (Decidable (ok s i ∧ Along step ok (step s i) is))

variable {step : σ → ι → σ} {ok good : σ → ι → Prop}

@[simp] theorem run_nil (s : σ) : run step s [] = s := rfl

@[simp] theorem run_cons (s : σ) (i : ι) (is : List ι) :
    run step s (i :: is) = run step (step s i) is := rfl

@[simp] theorem run_append (s : σ) (is js : List ι) :
    run step s (is ++ js) = run step (run step s is) js := List.foldl_append

@[simp] theorem along_nil (s : σ) : Along step ok s [] := trivial

@[simp] theorem along_cons (s : σ) (i : ι) (is : List ι) :
    Along step ok s (i :: is) ↔ ok s i ∧ Along step ok (step s i) is := Iff.rfl

theorem along_and {s : σ} {is : List ι} :
    Along step (fun s i => ok s i ∧ good s i) s is ↔ Along step ok s is ∧ Along step good s is := by
  induction is generalizing s with
  | nil => simp
  | cons i is ih =>
    rw [along_cons, along_cons, along_cons, ih]
    exact and_and_and_comm

/-- A run that meets the condition meets it as far as it has got. -/
theorem along_take {s : σ} {is : List ι} (h : Along step ok s is) (n : ℕ) :
    Along step ok s (is.take n) := by
  induction is generalizing s n with
  | nil => simp
  | cons i is ih =>
    cases n with
    | zero => exact along_nil s
    | succ n => exact ⟨h.1, ih h.2 n⟩

/-- The invariant rule for arbitrary runs. -/
theorem run_keeps {I : σ → Prop} (hstep : ∀ s i, I s → I (step s i)) {s : σ} (hs : I s)
    (is : List ι) : I (run step s is) := by
  induction is generalizing s with
  | nil => exact hs
  | cons i is ih => exact ih (hstep s i hs)

/-- The invariant rule for the states reached. -/
theorem run_inv {I : σ → Prop} (hstep : ∀ s i, I s → ok s i → I (step s i)) {s : σ} {is : List ι}
    (hs : I s) (hok : Along step ok s is) : I (run step s is) := by
  induction is generalizing s with
  | nil => exact hs
  | cons i is ih => exact ih (hstep s i hs hok.1) hok.2

/-- The invariant rule for the steps taken. -/
theorem along_of_inv {I : σ → Prop} (hstep : ∀ s i, I s → ok s i → I (step s i))
    (hgood : ∀ s i, I s → ok s i → good s i) {s : σ} {is : List ι} (hs : I s)
    (hok : Along step ok s is) : Along step good s is := by
  induction is generalizing s with
  | nil => trivial
  | cons i is ih => exact ⟨hgood s i hs hok.1, ih (hstep s i hs hok.1) hok.2⟩

/-- The simulation rule for conditions: they agree on the runs of two systems that are
    fed with the same inputs. -/
theorem along_sim {tstep : τ → ι → τ} {tgood : τ → ι → Prop} {R : σ → τ → Prop}
    (hstep : ∀ s t i, R s t → R (step s i) (tstep t i))
    (h : ∀ s t i, R s t → (ok s i ↔ tgood t i)) {s : σ} {t : τ} (hst : R s t) (is : List ι) :
    Along step ok s is ↔ Along tstep tgood t is := by
  induction is generalizing s t with
  | nil => simp
  | cons i is ih => simp [h s t i hst, ih (hstep s t i hst)]

/-- The simulation rule for the states reached, in runs whose steps all meet a condition. -/
theorem run_sim {tstep : τ → ι → τ} {R : σ → τ → Prop}
    (hstep : ∀ s t i, R s t → ok s i → R (step s i) (tstep t i)) {s : σ} {t : τ} (hst : R s t)
    {is : List ι} (hok : Along step ok s is) : R (run step s is) (run tstep t is) := by
  induction is generalizing s t with
  | nil => exact hst
  | cons i is ih => exact ih (hstep s t i hst hok.1) hok.2

/-- Two conditions that agree on every step of every run agree on runs. -/
theorem along_congr {I : σ → Prop} (hstep : ∀ s i, I s → I (step s i))
    (h : ∀ s i, I s → (ok s i ↔ good s i)) {s : σ} {is : List ι} (hs : I s) :
    Along step ok s is ↔ Along step good s is := by
  refine along_sim (R := fun s t => s = t ∧ I s) ?_ ?_ ⟨rfl, hs⟩ is
  · rintro s t i ⟨rfl, hI⟩
    exact ⟨rfl, hstep s i hI⟩
  · rintro s t i ⟨rfl, hI⟩
    exact h s i hI

/-- Two conditions that agree as long as the first of them is met. -/
theorem along_congr_of_inv {I : σ → Prop} (hstep : ∀ s i, I s → ok s i → I (step s i))
    (h : ∀ s i, I s → (ok s i ↔ good s i)) {s : σ} (hs : I s) (is : List ι) :
    Along step ok s is ↔ Along step good s is := by
  induction is generalizing s with
  | nil => simp
  | cons i is ih =>
    rw [along_cons, along_cons, ← h s i hs]
    exact and_congr_right fun hok => ih (hstep s i hs hok)

/-- A property of the states holds throughout a run iff no step that would break it is
    taken. -/
theorem take_iff_along {I goodState : σ → Prop} (hgood : ∀ s, I s → goodState s)
    (hstep : ∀ s i, I s → ok s i → I (step s i))
    (hbad : ∀ s i, ¬ ok s i → ¬ goodState (step s i)) {s : σ} (hs : I s) (is : List ι) :
    (∀ n, goodState (run step s (is.take n))) ↔ Along step ok s is := by
  induction is generalizing s with
  | nil => simpa using hgood s hs
  | cons i is ih =>
    constructor
    · intro h
      have hok : ok s i := by_contra fun hno => hbad s i hno (h 1)
      exact ⟨hok, (ih (hstep s i hs hok)).1 fun n => h (n + 1)⟩
    · rintro ⟨hok, hal⟩ n
      cases n with
      | zero => exact hgood s hs
      | succ n => exact (ih (hstep s i hs hok)).2 hal n

/-- A run that takes a step that spoils the states from then on ends in a bad one. -/
theorem run_bad {I B : σ → Prop} (hstep : ∀ s i, I s → ok s i → I (step s i))
    (hbreak : ∀ s i, I s → ¬ ok s i → B (step s i)) (hstay : ∀ s i, B s → B (step s i)) {s : σ}
    {is : List ι} (hs : I s) (hno : ¬ Along step ok s is) : B (run step s is) := by
  induction is generalizing s with
  | nil => exact absurd trivial hno
  | cons i is ih =>
    by_cases hok : ok s i
    · exact ih (hstep s i hs hok) fun hal => hno ⟨hok, hal⟩
    · exact run_keeps hstay (hbreak s i hs hok) is

/-! ## Steps that may not return -/

/-- A step after which there may be no state any more. -/
def partialStep (exec : σ → ι → Option σ) (o : Option σ) (i : ι) : Option σ :=
  o.bind fun s => exec s i

variable {exec : σ → ι → Option σ} {s s' : σ} {i : ι}

theorem run_partialStep_none (is : List ι) : run (partialStep exec) none is = none := by
  induction is with
  | nil => rfl
  | cons i is ih => exact ih

theorem run_partialStep_cons (is : List ι) (h : exec s i = some s') :
    run (partialStep exec) (some s) (i :: is) = run (partialStep exec) (some s') is :=
  congrArg (fun o => run (partialStep exec) o is) h

/-- Where a run returns, each of its steps has. -/
theorem exists_of_run_partialStep {is : List ι}
    (h : run (partialStep exec) (some s) (i :: is) = some s') :
    ∃ s₁, exec s i = some s₁ ∧ run (partialStep exec) (some s₁) is = some s' := by
  cases hexec : exec s i with
  | none =>
    have hnone : run (partialStep exec) (some s) (i :: is) = none :=
      (congrArg (fun o => run (partialStep exec) o is) hexec).trans (run_partialStep_none is)
    rw [hnone] at h
    contradiction
  | some s₁ => exact ⟨s₁, rfl, run_partialStep_cons is hexec ▸ h⟩

/-- The states of a run that returns are good throughout iff each of its inputs leaves a good
    state good. -/
theorem take_iff_forall {goodState : σ → Prop} {okInput : ι → Prop}
    (hstep : ∀ s i s', goodState s → exec s i = some s' → (goodState s' ↔ okInput i)) {is : List ι}
    (hs : goodState s) (hreturns : run (partialStep exec) (some s) is = some s') :
    (∀ k sk, run (partialStep exec) (some s) (is.take k) = some sk → goodState sk) ↔
      ∀ i ∈ is, okInput i := by
  induction is generalizing s with
  | nil =>
    refine ⟨fun _ => by simp, fun _ k sk hk => ?_⟩
    rw [List.take_nil] at hk
    rwa [← Option.some.inj hk]
  | cons i is ih =>
    obtain ⟨s₁, hexec, hrest⟩ := exists_of_run_partialStep hreturns
    constructor
    · intro h
      have hs₁ : goodState s₁ := h 1 s₁ hexec
      have hlater := (ih hs₁ hrest).1 fun k sk hk =>
        h (k + 1) sk ((run_partialStep_cons _ hexec).trans hk)
      exact List.forall_mem_cons.2 ⟨(hstep s i s₁ hs hexec).1 hs₁, hlater⟩
    · intro h k sk hk
      obtain ⟨hi, hlater⟩ := List.forall_mem_cons.1 h
      cases k with
      | zero => rwa [← Option.some.inj hk]
      | succ k =>
        have hs₁ := (hstep s i s₁ hs hexec).2 hi
        exact (ih hs₁ hrest).2 hlater k sk ((run_partialStep_cons _ hexec).symm.trans hk)

/-! ## Logs -/

/-- Every entry `e` of the log meets `P pre e`, where `pre` was logged before it. -/
def Guarded (P : List ε → ε → Prop) (log : List ε) : Prop :=
  ∀ pre e post, log = pre ++ e :: post → P pre e

variable {P : List ε → ε → Prop}

@[simp] theorem guarded_nil : Guarded P [] := by
  intro pre e post h
  simp at h

theorem guarded_snoc (log : List ε) (e : ε) :
    Guarded P (log ++ [e]) ↔ Guarded P log ∧ P log e := by
  constructor
  · intro h
    refine ⟨fun pre e' post hl => ?_, h log e [] rfl⟩
    exact h pre e' (post ++ [e]) (by simp [hl])
  · rintro ⟨h, he⟩ pre e' post hl
    rcases List.eq_nil_or_concat post with rfl | ⟨post', e'', rfl⟩
    · obtain ⟨rfl, h'⟩ := List.append_inj' hl rfl
      cases h'
      exact he
    · have hl' : log ++ [e] = (pre ++ e' :: post') ++ [e''] := by simpa using hl
      exact h pre e' post' (List.append_inj' hl' rfl).1

theorem guarded_append (log new : List ε) :
    Guarded P (log ++ new) ↔ Guarded P log ∧ Guarded (fun pre => P (log ++ pre)) new := by
  induction new using List.reverseRecOn with
  | nil => simp
  | append_singleton new e ih => rw [← List.append_assoc, guarded_snoc, ih, guarded_snoc, and_assoc]

end Runs
