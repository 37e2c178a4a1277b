import Mathlib.Logic.Basic
import Mathlib.Data.Nat.Notation

/-!
# Computations that put questions to an outside party

A `Dialogue` either is done or asks a question and goes on with the answer, whatever it
is. What holds at all its leaves holds for every sequence of answers.

* `leaves_bind`, `asks_bind`: what holds of the results of a dialogue, and of the
  questions it asks, step by step.
* `Rel.bind`, `run_rel`: two dialogues that ask the same questions and end in related
  results do so step by step, and then in every run with the same answers.
* `Throws`: dialogues that end in an error. `conventional_bind`, `conforms_bind`: dialogues
  that signal an error by a null result together with an error flag, and keep the two in
  step.
-/

/-- A computation that asks questions `ρ`. -/
inductive Dialogue {ρ : Type} (ans : ρ → Type) (α : Type) where
  | done (a : α)
  | ask (r : ρ) (k : ans r → Dialogue ans α)

namespace Dialogue

variable {ρ : Type} {ans : ρ → Type} {α β γ δ : Type}

/-- Go on with the result. -/
def bind : Dialogue ans α → (α → Dialogue ans β) → Dialogue ans β
  | done a, f => f a
  | ask r k, f => ask r fun x => (k x).bind f

instance : Monad (Dialogue ans) where
  pure := done
  bind := bind

/-- Ask one question. -/
@[simp] def request (r : ρ) : Dialogue ans (ans r) := ask r done

@[simp] theorem done_bind (a : α) (f : α → Dialogue ans β) : (done a >>= f) = f a := rfl

@[simp] theorem pure_bind (a : α) (f : α → Dialogue ans β) :
    ((pure a : Dialogue ans α) >>= f) = f a := rfl

@[simp] theorem ask_bind (r : ρ) (k : ans r → Dialogue ans α) (f : α → Dialogue ans β) :
    (ask r k >>= f) = ask r fun x => k x >>= f := rfl

theorem bind_assoc (d : Dialogue ans α) (f : α → Dialogue ans β) (g : β → Dialogue ans γ) :
    (d >>= f) >>= g = d >>= fun a => f a >>= g := by
  induction d with
  | done a => rfl
  | ask r k ih => exact congrArg (ask r) (funext ih)

/-- The same dialogue with a party that also answers other questions. -/
def inl {σ : Type} {bns : σ → Type} : Dialogue ans α → Dialogue (Sum.elim ans bns) α
  | done a => done a
  | ask r k => ask (.inl r) fun x => (k x).inl

/-! ## Runs -/

/-- The result and the questions asked when the `n`-th question is answered by `o n`. -/
def run (o : ℕ → (r : ρ) → ans r) : ℕ → Dialogue ans α → α × List ρ
  | _, done a => (a, [])
  | n, ask r k =>
    let (a, rs) := run o (n + 1) (k (o n r))
    (a, r :: rs)

variable {o : ℕ → (r : ρ) → ans r}

@[simp] theorem run_done (n : ℕ) (a : α) : run o n (done a : Dialogue ans α) = (a, []) := rfl

@[simp] theorem run_ask (n : ℕ) (r : ρ) (k : ans r → Dialogue ans α) :
    run o n (ask r k) = ((run o (n + 1) (k (o n r))).1, r :: (run o (n + 1) (k (o n r))).2) := rfl

@[simp] theorem run_pure (n : ℕ) (a : α) : run o n (pure a : Dialogue ans α) = (a, []) := rfl

@[simp] theorem run_bind (n : ℕ) (d : Dialogue ans α) (f : α → Dialogue ans β) :
    run o n (d >>= f) =
      ((run o (n + (run o n d).2.length) (f (run o n d).1)).1,
        (run o n d).2 ++ (run o (n + (run o n d).2.length) (f (run o n d).1)).2) := by
  induction d generalizing n with
  | done a => simp
  | ask r k ih =>
    rw [ask_bind, run_ask, ih, run_ask]
    simp [Nat.add_assoc, Nat.add_comm 1]

/-- The answers of the one of two parties. -/
def left {σ : Type} {bns : σ → Type} (o : ℕ → (r : ρ ⊕ σ) → Sum.elim ans bns r) :
    ℕ → (r : ρ) → ans r := fun n r => o n (.inl r)

@[simp] theorem run_inl {σ : Type} {bns : σ → Type} (o : ℕ → (r : ρ ⊕ σ) → Sum.elim ans bns r)
    (n : ℕ) (d : Dialogue ans α) :
    run o n (d.inl : Dialogue (Sum.elim ans bns) α) =
      ((run (left o) n d).1, (run (left o) n d).2.map .inl) := by
  induction d generalizing n with
  | done a => rfl
  | ask r k ih =>
    obtain ⟨h1, h2⟩ := Prod.ext_iff.1 (ih (left o n r) (n + 1))
    apply Prod.ext
    · exact h1
    · show Sum.inl r :: _ = Sum.inl r :: _
      exact congrArg (Sum.inl r :: ·) h2

/-! ## Results and questions -/

/-- Every result meets `P`, whatever the answers. -/
def Leaves (P : α → Prop) : Dialogue ans α → Prop
  | done a => P a
  | ask _ k => ∀ x, (k x).Leaves P

/-- Every question that is asked meets `Q`, whatever the answers. -/
def Asks (Q : ρ → Prop) : Dialogue ans α → Prop
  | done _ => True
  | ask r k => Q r ∧ ∀ x, (k x).Asks Q

variable {P : α → Prop} {Q : ρ → Prop}

@[simp] theorem leaves_done (a : α) : (done a : Dialogue ans α).Leaves P ↔ P a := Iff.rfl

@[simp] theorem leaves_pure (a : α) : (pure a : Dialogue ans α).Leaves P ↔ P a := Iff.rfl

@[simp] theorem leaves_ask (r : ρ) (k : ans r → Dialogue ans α) :
    (ask r k).Leaves P ↔ ∀ x, (k x).Leaves P := Iff.rfl

@[simp] theorem asks_done (a : α) : (done a : Dialogue ans α).Asks Q := trivial

@[simp] theorem asks_pure (a : α) : (pure a : Dialogue ans α).Asks Q := trivial

@[simp] theorem asks_ask (r : ρ) (k : ans r → Dialogue ans α) :
    (ask r k).Asks Q ↔ Q r ∧ ∀ x, (k x).Asks Q := Iff.rfl

theorem leaves_true (d : Dialogue ans α) : d.Leaves fun _ => True := by
  induction d with
  | done a => trivial
  | ask r k ih => exact ih

theorem Leaves.mono {P' : α → Prop} {d : Dialogue ans α} (h : d.Leaves P)
    (hPP' : ∀ a, P a → P' a) : d.Leaves P' := by
  induction d with
  | done a => exact hPP' a h
  | ask r k ih => exact fun x => ih x (h x)

theorem leaves_bind {P' : β → Prop} {d : Dialogue ans α} {f : α → Dialogue ans β}
    (hd : d.Leaves P) (hf : ∀ a, P a → (f a).Leaves P') : (d >>= f).Leaves P' := by
  induction d with
  | done a => exact hf a hd
  | ask r k ih => exact fun x => ih x (hd x)

theorem asks_bind {d : Dialogue ans α} {f : α → Dialogue ans β} (hd : d.Asks Q)
    (hl : d.Leaves P) (hf : ∀ a, P a → (f a).Asks Q) : (d >>= f).Asks Q := by
  induction d with
  | done a => exact hf a hl
  | ask r k ih => exact ⟨hd.1, fun x => ih x (hd.2 x) (hl x)⟩

/-- Going on with the result makes no difference where it is returned as it is. -/
theorem bind_eq_self {d : Dialogue ans α} {f : α → Dialogue ans α}
    (h : d.Leaves fun a => f a = done a) : d >>= f = d := by
  induction d with
  | done a => exact h
  | ask r k ih => exact congrArg (ask r) (funext fun x => ih x (h x))

theorem asks_inl {σ : Type} {bns : σ → Type} {Q' : ρ ⊕ σ → Prop} {d : Dialogue ans α}
    (h : d.Asks fun r => Q' (.inl r)) : (d.inl : Dialogue (Sum.elim ans bns) α).Asks Q' := by
  induction d with
  | done a => trivial
  | ask r k ih => exact ⟨h.1, fun x => ih x (h.2 x)⟩

/-- What holds at the leaves holds of the result of every run. -/
theorem Leaves.run {d : Dialogue ans α} (h : d.Leaves P) (n : ℕ) : P (d.run o n).1 := by
  induction d generalizing n with
  | done a => exact h
  | ask r k ih => exact ih _ (h _) _

/-- The questions of a run are among those that are asked for some answers. -/
theorem Asks.run {d : Dialogue ans α} (h : d.Asks Q) (n : ℕ) : ∀ r ∈ (d.run o n).2, Q r := by
  induction d generalizing n with
  | done a => simp
  | ask r k ih =>
    rw [run_ask, List.forall_mem_cons]
    exact ⟨h.1, ih _ (h.2 _) _⟩

/-- None of the questions is among those of `p`. -/
theorem Asks.filter_run {p : ρ → Bool} {d : Dialogue ans α} (h : d.Asks fun r => p r = false)
    (n : ℕ) : (d.run o n).2.filter p = [] := by
  rw [List.filter_eq_nil_iff]
  intro r hr
  simpa using h.run n r hr

/-- What goes on without questions of `p` adds none. -/
theorem filter_run_bind {p : ρ → Bool} {d : Dialogue ans α} {f : α → Dialogue ans β}
    (h : ∀ a, (f a).Asks fun r => p r = false) (n : ℕ) :
    ((d >>= f).run o n).2.filter p = (d.run o n).2.filter p := by
  rw [run_bind, List.filter_append, (h _).filter_run, List.append_nil]

/-! ## Two dialogues -/

/-- The dialogues ask the same questions and end in related results. -/
inductive Rel (R : α → β → Prop) : Dialogue ans α → Dialogue ans β → Prop
  | done {a : α} {b : β} (h : R a b) : Rel R (done a) (done b)
  | ask (r : ρ) {k : ans r → Dialogue ans α} {l : ans r → Dialogue ans β}
      (h : ∀ x, Rel R (k x) (l x)) : Rel R (ask r k) (ask r l)

theorem Rel.refl {R : α → α → Prop} (hR : ∀ a, R a a) (d : Dialogue ans α) : Rel R d d := by
  induction d with
  | done a => exact .done (hR a)
  | ask r k ih => exact .ask r ih

theorem Rel.bind {R : α → β → Prop} {S : γ → δ → Prop} {d : Dialogue ans α} {e : Dialogue ans β}
    {f : α → Dialogue ans γ} {g : β → Dialogue ans δ} (h : Rel R d e)
    (hfg : ∀ a b, R a b → Rel S (f a) (g b)) : Rel S (d >>= f) (e >>= g) := by
  induction h with
  | done h => exact hfg _ _ h
  | ask r _ ih => exact .ask r ih

theorem Rel.mono {R S : α → β → Prop} {d : Dialogue ans α} {e : Dialogue ans β} (h : Rel R d e)
    (hRS : ∀ a b, R a b → S a b) : Rel S d e := by
  induction h with
  | done h => exact .done (hRS _ _ h)
  | ask r _ ih => exact .ask r ih

theorem run_rel {R : α → β → Prop} {d : Dialogue ans α} {e : Dialogue ans β} (h : Rel R d e)
    (n : ℕ) : R (d.run o n).1 (e.run o n).1 ∧ (d.run o n).2 = (e.run o n).2 := by
  induction h generalizing n with
  | done h => exact ⟨h, rfl⟩
  | ask r _ ih =>
    obtain ⟨h1, h2⟩ := ih (o n r) (n + 1)
    exact ⟨h1, congrArg (r :: ·) h2⟩

/-- With these answers, the dialogues ask the same questions and end in related results. -/
def Alike (o : ℕ → (r : ρ) → ans r) (n : ℕ) (R : α → β → Prop) (d : Dialogue ans α)
    (e : Dialogue ans β) : Prop :=
  R (d.run o n).1 (e.run o n).1 ∧ (d.run o n).2 = (e.run o n).2

theorem Rel.alike {R : α → β → Prop} {d : Dialogue ans α} {e : Dialogue ans β} (h : Rel R d e)
    (n : ℕ) : Alike o n R d e := run_rel h n

theorem alike_ask {R : α → β → Prop} {n : ℕ} {r : ρ} {k : ans r → Dialogue ans α}
    {l : ans r → Dialogue ans β} :
    Alike o n R (ask r k) (ask r l) ↔ Alike o (n + 1) R (k (o n r)) (l (o n r)) := by
  simp [Alike]

theorem Alike.bind {R : α → β → Prop} {S : γ → δ → Prop} {n : ℕ} {d : Dialogue ans α}
    {e : Dialogue ans β} {f : α → Dialogue ans γ} {g : β → Dialogue ans δ} (h : Alike o n R d e)
    (hfg : ∀ a b m, R a b → Alike o m S (f a) (g b)) : Alike o n S (d >>= f) (e >>= g) := by
  obtain ⟨hR, hq⟩ := h
  obtain ⟨hS, hq'⟩ := hfg _ _ (n + (d.run o n).2.length) hR
  rw [Alike, run_bind, run_bind, ← hq]
  exact ⟨hS, congrArg ((d.run o n).2 ++ ·) hq'⟩

end Dialogue

/-! ## Errors that leave the computation -/

/-- A dialogue that may end in an error. -/
def Throws {ρ : Type} (ans : ρ → Type) (ε α : Type) : Type := Dialogue ans (Except ε α)

namespace Throws

variable {ρ : Type} {ans : ρ → Type} {ε α β γ δ : Type}

/-- Go on with the result, unless it is an error. -/
def andThen (f : α → Throws ans ε β) : Except ε α → Dialogue ans (Except ε β)
  | .error e => .done (.error e)
  | .ok a => f a

instance : Monad (Throws ans ε) where
  pure a := Dialogue.done (.ok a)
  bind d f := Dialogue.bind d (andThen f)

def throw (e : ε) : Throws ans ε α := Dialogue.done (.error e)

/-- A dialogue that does not fail. -/
def lift (d : Dialogue ans α) : Throws ans ε α := Dialogue.bind d fun a => .done (.ok a)

/-- The dialogue, with the error as its result. -/
def attempt (d : Throws ans ε α) : Dialogue ans (Except ε α) := d

@[simp] theorem attempt_pure (a : α) : attempt (pure a : Throws ans ε α) = .done (.ok a) := rfl

@[simp] theorem attempt_throw (e : ε) : attempt (throw e : Throws ans ε α) = .done (.error e) := rfl

@[simp] theorem attempt_lift (d : Dialogue ans α) :
    attempt (lift d : Throws ans ε α) = d >>= fun a => .done (.ok a) := rfl

@[simp] theorem attempt_bind (d : Throws ans ε α) (f : α → Throws ans ε β) :
    attempt (d >>= f) = attempt d >>= andThen f := rfl

@[simp] theorem andThen_ok (f : α → Throws ans ε β) (a : α) : andThen f (.ok a) = attempt (f a) :=
  rfl

@[simp] theorem andThen_error (f : α → Throws ans ε β) (e : ε) :
    andThen f (.error e) = .done (.error e) := rfl

theorem pure_bind (a : α) (f : α → Throws ans ε β) : ((pure a : Throws ans ε α) >>= f) = f a := rfl

theorem bind_assoc (d : Throws ans ε α) (f : α → Throws ans ε β) (g : β → Throws ans ε γ) :
    (d >>= f) >>= g = d >>= fun a => f a >>= g := by
  show (Dialogue.bind (Dialogue.bind d _) _ : Dialogue ans _) = Dialogue.bind d _
  refine (Dialogue.bind_assoc d (andThen f) (andThen g)).trans ?_
  congr 1
  funext r
  cases r <;> rfl

/-- Going on makes no difference where every result is returned as it is. -/
theorem bind_eq_self {d : Throws ans ε α} {f : α → Throws ans ε α}
    (h : d.attempt.Leaves fun r => ∀ a, r = .ok a → f a = pure a) : d >>= f = d := by
  refine Dialogue.bind_eq_self (h.mono ?_)
  rintro (e | a) ha
  · rfl
  · exact ha a rfl

@[simp] theorem attempt_ite (c : Prop) [Decidable c] (d e : Throws ans ε α) :
    attempt (if c then d else e) = if c then attempt d else attempt e := apply_ite attempt c d e

theorem asks_lift {Q : ρ → Prop} {d : Dialogue ans α} (h : d.Asks Q) :
    (lift d : Throws ans ε α).attempt.Asks Q :=
  Dialogue.asks_bind h (Dialogue.leaves_true _) fun _ _ => trivial

theorem asks_bind {Q : ρ → Prop} {d : Throws ans ε α} {f : α → Throws ans ε β}
    (hd : d.attempt.Asks Q) (hf : ∀ a, (f a).attempt.Asks Q) : (d >>= f).attempt.Asks Q := by
  refine Dialogue.asks_bind hd (Dialogue.leaves_true _) ?_
  rintro (e | a) -
  · trivial
  · exact hf a

/-- What follows a dialogue that does not fail, without questions of `p`, adds none. -/
theorem filter_run_bind {o : ℕ → (r : ρ) → ans r} {p : ρ → Bool} {d : Dialogue ans α}
    {f : α → Throws ans ε β} (h : ∀ a, (f a).attempt.Asks fun r => p r = false) (n : ℕ) :
    ((lift d >>= f).attempt.run o n).2.filter p = (d.run o n).2.filter p := by
  have hok : ∀ a : α, (Dialogue.done (Except.ok a : Except ε α) : Dialogue ans _).Asks
      fun r => p r = false := fun _ => trivial
  have hgo : ∀ r : Except ε α, (andThen f r).Asks fun r => p r = false := by
    rintro (e | a)
    · trivial
    · exact h a
  rw [attempt_bind, Dialogue.filter_run_bind hgo, attempt_lift, Dialogue.filter_run_bind hok]

/-- The dialogue ends in an error, and asks no other questions than those of `Q`. -/
structure Fails (Q : ρ → Prop) (d : Throws ans ε α) : Prop where
  error : d.attempt.Leaves fun r => ∃ e, r = .error e
  asks : d.attempt.Asks Q

variable {Q : ρ → Prop}

theorem fails_throw (e : ε) : Fails Q (throw e : Throws ans ε α) := ⟨⟨e, rfl⟩, trivial⟩

/-- What follows a failure is not run. -/
theorem Fails.bind {d : Throws ans ε α} (h : Fails Q d) (f : α → Throws ans ε β) :
    Fails Q (d >>= f) := by
  have hf : ∀ r : Except ε α, (∃ e, r = .error e) → ∃ e, andThen f r = .done (.error e) := by
    rintro _ ⟨e, rfl⟩
    exact ⟨e, rfl⟩
  constructor
  · refine Dialogue.leaves_bind h.error ?_
    intro r hr
    obtain ⟨e, he⟩ := hf r hr
    rw [he]
    exact ⟨e, rfl⟩
  · refine Dialogue.asks_bind h.asks h.error ?_
    intro r hr
    obtain ⟨e, he⟩ := hf r hr
    rw [he]
    trivial

/-- What precedes a failure must not ask other questions either. -/
theorem fails_bind {d : Throws ans ε α} {f : α → Throws ans ε β} (hd : d.attempt.Asks Q)
    (hf : ∀ a, Fails Q (f a)) : Fails Q (d >>= f) := by
  have htrue : d.attempt.Leaves fun _ => True := Dialogue.leaves_true _
  constructor
  · refine Dialogue.leaves_bind htrue ?_
    rintro (e | a) -
    · exact ⟨e, rfl⟩
    · exact (hf a).error
  · refine Dialogue.asks_bind hd htrue ?_
    rintro (e | a) -
    · trivial
    · exact (hf a).asks

/-- The same error, or related results. -/
inductive SameError (R : α → β → Prop) : Except ε α → Except ε β → Prop
  | ok {a : α} {b : β} (h : R a b) : SameError R (.ok a) (.ok b)
  | error (e : ε) : SameError R (.error e) (.error e)

theorem rel_refl (d : Throws ans ε α) : Dialogue.Rel (SameError Eq) d.attempt d.attempt := by
  refine Dialogue.Rel.refl ?_ d.attempt
  rintro (e | a)
  · exact .error e
  · exact .ok rfl

theorem rel_lift {R : α → β → Prop} {d : Dialogue ans α} {e : Dialogue ans β}
    (h : Dialogue.Rel R d e) :
    Dialogue.Rel (SameError R) (lift d : Throws ans ε α).attempt
      (lift e : Throws ans ε β).attempt :=
  h.bind fun _ _ hab => .done (.ok hab)

theorem rel_bind {R : α → β → Prop} {S : γ → δ → Prop} {d : Throws ans ε α} {e : Throws ans ε β}
    {f : α → Throws ans ε γ} {g : β → Throws ans ε δ}
    (h : Dialogue.Rel (SameError R) d.attempt e.attempt)
    (hfg : ∀ a b, R a b → Dialogue.Rel (SameError S) (f a).attempt (g b).attempt) :
    Dialogue.Rel (SameError S) (d >>= f).attempt (e >>= g).attempt := by
  refine h.bind ?_
  rintro _ _ (hab | e)
  · exact hfg _ _ hab
  · exact .done (.error e)

/-- A common beginning. -/
theorem rel_bind_same {S : γ → δ → Prop} (d : Throws ans ε α) {f : α → Throws ans ε γ}
    {g : α → Throws ans ε δ}
    (hfg : ∀ a, Dialogue.Rel (SameError S) (f a).attempt (g a).attempt) :
    Dialogue.Rel (SameError S) (d >>= f).attempt (d >>= g).attempt := by
  refine rel_bind (rel_refl d) ?_
  rintro a _ rfl
  exact hfg a

end Throws

/-! ## Errors that are flagged -/

/-- A dialogue that returns a value or null, and reads and writes an error flag. -/
def Flagged {ρ : Type} (ans : ρ → Type) (ε α : Type) : Type :=
  Option ε → Dialogue ans (Option α × Option ε)

namespace Flagged

variable {ρ : Type} {ans : ρ → Type} {ε α β : Type}

/-- Go on with the value; a null is returned at once. -/
def andThen (f : α → Flagged ans ε β) : Option α × Option ε → Dialogue ans (Option β × Option ε)
  | (none, flag) => .done (none, flag)
  | (some a, flag) => f a flag

instance : Monad (Flagged ans ε) where
  pure a := fun flag => .done (some a, flag)
  bind d f := fun flag => (d flag).bind (andThen f)

/-- Set the flag and return null. -/
def raise (e : ε) : Flagged ans ε α := fun _ => .done (none, some e)

/-- Return null and leave the flag alone. -/
def null : Flagged ans ε α := fun flag => .done (none, flag)

/-- Set the flag, or clear it. -/
def put (flag : Option ε) : Flagged ans ε Unit := fun _ => .done (some (), flag)

def clear : Flagged ans ε Unit := put none

/-- A call that gives a value, or null with the flag set. -/
def call : Except ε α → Flagged ans ε α
  | .ok a => pure a
  | .error e => raise e

/-- A dialogue that does not look at the flag. -/
def lift (d : Dialogue ans α) : Flagged ans ε α :=
  fun flag => Dialogue.bind d fun a => .done (some a, flag)

/-- Ask one question. -/
def request (r : ρ) : Flagged ans ε (ans r) := fun flag => .ask r fun x => .done (some x, flag)

/-- The dialogue that starts with the flag `flag`. -/
def attempt (d : Flagged ans ε α) (flag : Option ε) : Dialogue ans (Option α × Option ε) := d flag

variable {flag : Option ε}

@[simp] theorem attempt_pure (a : α) :
    attempt (pure a : Flagged ans ε α) flag = .done (some a, flag) := rfl

@[simp] theorem attempt_raise (e : ε) :
    attempt (raise e : Flagged ans ε α) flag = .done (none, some e) := rfl

@[simp] theorem attempt_null : attempt (null : Flagged ans ε α) flag = .done (none, flag) := rfl

@[simp] theorem attempt_put (new : Option ε) :
    attempt (put new : Flagged ans ε Unit) flag = .done (some (), new) := rfl

@[simp] theorem attempt_clear : attempt (clear : Flagged ans ε Unit) flag = .done (some (), none) :=
  rfl

@[simp] theorem attempt_lift (d : Dialogue ans α) :
    attempt (lift d : Flagged ans ε α) flag = d >>= fun a => .done (some a, flag) := rfl

@[simp] theorem attempt_request (r : ρ) :
    attempt (request r : Flagged ans ε (ans r)) flag = .ask r fun x => .done (some x, flag) := rfl

@[simp] theorem attempt_bind (d : Flagged ans ε α) (f : α → Flagged ans ε β) :
    attempt (d >>= f) flag = attempt d flag >>= andThen f := rfl

@[simp] theorem andThen_some (f : α → Flagged ans ε β) (a : α) :
    andThen f (some a, flag) = attempt (f a) flag := rfl

@[simp] theorem andThen_none (f : α → Flagged ans ε β) :
    andThen f (none, flag) = .done (none, flag) := rfl

theorem asks_lift {Q : ρ → Prop} {d : Dialogue ans α} (h : d.Asks Q) :
    (attempt (lift d : Flagged ans ε α) flag).Asks Q :=
  Dialogue.asks_bind h (Dialogue.leaves_true _) fun _ _ => trivial

theorem asks_bind {Q : ρ → Prop} {d : Flagged ans ε α} {f : α → Flagged ans ε β}
    (hd : (attempt d flag).Asks Q) (hf : ∀ a flag', (attempt (f a) flag').Asks Q) :
    (attempt (d >>= f) flag).Asks Q := by
  refine Dialogue.asks_bind hd (Dialogue.leaves_true _) ?_
  rintro ⟨_ | a, flag'⟩ -
  · trivial
  · exact hf a flag'

/-- What follows a dialogue that does not look at the flag, without questions of `p`, adds
    none. -/
theorem filter_run_bind {o : ℕ → (r : ρ) → ans r} {p : ρ → Bool} {d : Dialogue ans α}
    {f : α → Flagged ans ε β} (h : ∀ a flag', (attempt (f a) flag').Asks fun r => p r = false)
    (n : ℕ) : ((attempt (lift d >>= f) flag).run o n).2.filter p = (d.run o n).2.filter p := by
  have hok : ∀ a : α, (Dialogue.done (some a, flag) : Dialogue ans (Option α × Option ε)).Asks
      fun r => p r = false := fun _ => trivial
  have hgo : ∀ r : Option α × Option ε, (andThen f r).Asks fun r => p r = false := by
    rintro ⟨_ | a, flag'⟩
    · trivial
    · exact h a flag'
  rw [attempt_bind, Dialogue.filter_run_bind hgo, attempt_lift, Dialogue.filter_run_bind hok]

@[simp] theorem attempt_ite (c : Prop) [Decidable c] (d e : Flagged ans ε α) :
    attempt (if c then d else e) flag = if c then attempt d flag else attempt e flag :=
  apply_ite (fun d => attempt d flag) c d e

/-- Null is returned iff the flag is set. -/
def InStep (r : Option α × Option ε) : Prop := r.1 = none ↔ r.2.isSome

/-- Called with the flag clear, the dialogue returns null iff it leaves the flag set. -/
def Conforms (d : Flagged ans ε α) : Prop := (attempt d none).Leaves InStep

/-- The flag is set afterwards iff it was set before or null is returned. -/
def Conventional (d : Flagged ans ε α) : Prop :=
  ∀ flag, (attempt d flag).Leaves fun r => r.2.isSome ↔ flag.isSome ∨ r.1 = none

theorem Conventional.conforms {d : Flagged ans ε α} (h : Conventional d) : Conforms d := by
  refine (h none).mono ?_
  rintro ⟨a, flag⟩ hr
  simpa [InStep] using hr.symm

theorem conventional_pure (a : α) : Conventional (pure a : Flagged ans ε α) := by
  intro flag
  simp

theorem conventional_raise (e : ε) : Conventional (raise e : Flagged ans ε α) := by
  intro flag
  simp

theorem conventional_call (r : Except ε α) : Conventional (call r : Flagged ans ε α) := by
  cases r with
  | ok a => exact conventional_pure a
  | error e => exact conventional_raise e

theorem conventional_request (r : ρ) : Conventional (request r : Flagged ans ε (ans r)) := by
  intro flag x
  simp

theorem conventional_lift (d : Dialogue ans α) : Conventional (lift d : Flagged ans ε α) := by
  intro flag
  rw [attempt_lift]
  refine Dialogue.leaves_bind (Dialogue.leaves_true d) ?_
  intro a _
  simp

theorem conventional_bind {d : Flagged ans ε α} {f : α → Flagged ans ε β} (hd : Conventional d)
    (hf : ∀ a, Conventional (f a)) : Conventional (d >>= f) := by
  intro flag
  refine Dialogue.leaves_bind (hd flag) ?_
  rintro ⟨_ | a, flag'⟩ h
  · simpa using h
  · refine (hf a flag').mono ?_
    intro r hr
    rw [hr, h]
    simp

theorem conforms_bind {d : Flagged ans ε α} {f : α → Flagged ans ε β} (hd : Conforms d)
    (hf : ∀ a, Conforms (f a)) : Conforms (d >>= f) := by
  show (attempt d none >>= andThen f).Leaves InStep
  refine Dialogue.leaves_bind hd ?_
  rintro ⟨_ | a, flag⟩ h
  · simpa [andThen, InStep] using h
  · have hflag : flag = none := by simpa [InStep] using h
    rw [hflag]
    exact hf a

theorem leaves_lift {P : Option β × Option ε → Prop} {d : Dialogue ans α}
    {f : α → Flagged ans ε β} (h : ∀ a, (attempt (f a) flag).Leaves P) :
    (attempt (lift d >>= f) flag).Leaves P := by
  have hlift : (attempt (lift d) flag).Leaves fun r => ∃ a, r = (some a, flag) :=
    Dialogue.leaves_bind (Dialogue.leaves_true d) fun a _ => ⟨a, rfl⟩
  refine Dialogue.leaves_bind hlift ?_
  rintro _ ⟨a, rfl⟩
  exact h a

/-- Go on with the result, whether it is null or not. -/
def orNull (d : Flagged ans ε α) : Flagged ans ε (Option α) :=
  fun flag => attempt d flag >>= fun r => .done (some r.1, r.2)

@[simp] theorem attempt_orNull (d : Flagged ans ε α) :
    attempt (orNull d) flag = attempt d flag >>= fun r => .done (some r.1, r.2) := rfl

theorem leaves_orNull {P : Option α × Option ε → Prop} {R : Option β × Option ε → Prop}
    {d : Flagged ans ε α} {f : Option α → Flagged ans ε β} (hd : (attempt d flag).Leaves P)
    (hf : ∀ a flag', P (a, flag') → (attempt (f a) flag').Leaves R) :
    (attempt (orNull d >>= f) flag).Leaves R := by
  have hnull : (attempt (orNull d) flag).Leaves fun r => ∃ a, r.1 = some a ∧ P (a, r.2) :=
    Dialogue.leaves_bind hd fun r hr => ⟨r.1, rfl, hr⟩
  refine Dialogue.leaves_bind hnull ?_
  rintro ⟨_, flag'⟩ ⟨a, rfl, ha⟩
  exact hf a flag' ha

/-- Null is returned, and no other questions are asked than those of `Q`. -/
structure Fails (Q : ρ → Prop) (d : Flagged ans ε α) : Prop where
  null (flag : Option ε) : (attempt d flag).Leaves fun r => r.1 = none
  asks (flag : Option ε) : (attempt d flag).Asks Q

variable {Q : ρ → Prop}

theorem fails_raise (e : ε) : Fails Q (raise e : Flagged ans ε α) :=
  ⟨fun _ => rfl, fun _ => trivial⟩

theorem fails_null : Fails Q (null : Flagged ans ε α) := ⟨fun _ => rfl, fun _ => trivial⟩

/-- What follows a failure is not run. -/
theorem Fails.bind {d : Flagged ans ε α} (h : Fails Q d) (f : α → Flagged ans ε β) :
    Fails Q (d >>= f) := by
  constructor
  · intro flag
    refine Dialogue.leaves_bind (h.null flag) ?_
    rintro ⟨_, flag'⟩ rfl
    exact rfl
  · intro flag
    refine Dialogue.asks_bind (h.asks flag) (h.null flag) ?_
    rintro ⟨_, flag'⟩ rfl
    trivial

/-- What precedes a failure must not ask other questions either. -/
theorem fails_bind {d : Flagged ans ε α} {f : α → Flagged ans ε β}
    (hd : ∀ flag, (attempt d flag).Asks Q) (hf : ∀ a, Fails Q (f a)) : Fails Q (d >>= f) := by
  constructor
  · intro flag
    refine Dialogue.leaves_bind (Dialogue.leaves_true _) ?_
    rintro ⟨_ | a, flag'⟩ -
    · exact rfl
    · exact (hf a).null flag'
  · intro flag
    refine Dialogue.asks_bind (hd flag) (Dialogue.leaves_true _) ?_
    rintro ⟨_ | a, flag'⟩ -
    · trivial
    · exact (hf a).asks flag'

end Flagged
