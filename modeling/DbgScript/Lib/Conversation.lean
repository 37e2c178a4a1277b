import DbgScript.Lib.Dialogue
import Mathlib.Data.List.Infix

/-!
# Conversations, and dialogues that cover one another

A `Talk` is one way a dialogue can go: the questions with their answers, and the result.
Some questions are put aside (`Aside`): their answers make no difference as long as they are
calm. A dialogue covers another one if it asks the same questions, apart from those that are
put aside, and ends in a related result, as far as the other one says what is to happen.

* `Covers.bind`, `Covers.settle`: step by step; `Covers.of_rel`: dialogues that ask the same.
* `Covers.talk`: every calm conversation of a dialogue is, as far as it can be seen, one of
  the dialogue that it covers, unless that one gives up on the way.
* `Covers.follow`: a conversation that does not give up can be had with the covering dialogue,
  and only with such results (`Covers.result`).
* `EndsAfter.bind`, `EndsAfter.count_talk`: dialogues that end as soon as they get an answer of
  a certain kind.
-/

namespace Dialogue

variable {ρ : Type} {ans : ρ → Type} {α β γ δ : Type}

/-! ## Conversations -/

/-- A question with its answer. -/
abbrev Exchange (ans : ρ → Type) := (r : ρ) × ans r

/-- The dialogue goes through the exchanges `qs` and ends in `a`. -/
inductive Talk : Dialogue ans α → List (Exchange ans) → α → Prop
  | done (a : α) : Talk (done a) [] a
  | ask {r : ρ} {k : ans r → Dialogue ans α} {x : ans r} {qs : List (Exchange ans)} {a : α}
      (h : Talk (k x) qs a) : Talk (ask r k) (⟨r, x⟩ :: qs) a

/-- What has been answered so far decides how the dialogue goes on. -/
theorem Talk.unique {d : Dialogue ans α} {qs qs' : List (Exchange ans)} {a b : α}
    (h : Talk d qs a) (h' : Talk d qs' b) (hpre : qs' <+: qs) : qs' = qs ∧ b = a := by
  induction h generalizing qs' with
  | done a =>
    cases h'
    exact ⟨rfl, rfl⟩
  | ask _ ih =>
    cases h' with
    | ask h' =>
      obtain ⟨heq, hrest⟩ := List.cons_prefix_cons.1 hpre
      cases heq
      obtain ⟨rfl, rfl⟩ := ih h' hrest
      exact ⟨rfl, rfl⟩

/-! ## Questions put aside -/

/-- The questions that are put aside, and their calm answers. -/
structure Aside (ans : ρ → Type) where
  silent : ρ → Bool
  calm : (r : ρ) → ans r → Prop
  exists_calm : ∀ r, silent r = true → ∃ x, calm r x

/-- The exchanges that are not put aside. -/
def Aside.visible (A : Aside ans) (qs : List (Exchange ans)) : List (Exchange ans) :=
  qs.filter fun q => !A.silent q.1

/-- Every question that is put aside has a calm answer. -/
def Aside.Quiet (A : Aside ans) (qs : List (Exchange ans)) : Prop :=
  ∀ q ∈ qs, A.silent q.1 = true → A.calm q.1 q.2

variable {A : Aside ans} {r : ρ}

theorem Aside.visible_cons (h : A.silent r = false) (x : ans r) (qs : List (Exchange ans)) :
    A.visible (⟨r, x⟩ :: qs) = ⟨r, x⟩ :: A.visible qs := by
  simp [visible, h]

theorem Aside.visible_aside (h : A.silent r = true) (x : ans r) (qs : List (Exchange ans)) :
    A.visible (⟨r, x⟩ :: qs) = A.visible qs := by
  simp [visible, h]

/-! ## Covering -/

/-- The first dialogue covers the second one: a result that is `Free` asks nothing of it. -/
inductive Covers (A : Aside ans) (Free : β → Prop) (R : α → β → Prop) :
    Dialogue ans α → Dialogue ans β → Prop
  | done {a : α} {b : β} (h : R a b) : Covers A Free R (done a) (done b)
  | free {d : Dialogue ans α} {b : β} (h : Free b) : Covers A Free R d (done b)
  | ask (r : ρ) {k : ans r → Dialogue ans α} {l : ans r → Dialogue ans β}
      (hr : A.silent r = false) (h : ∀ x, Covers A Free R (k x) (l x)) :
      Covers A Free R (ask r k) (ask r l)
  | aside (r : ρ) {k : ans r → Dialogue ans α} {e : Dialogue ans β} (hr : A.silent r = true)
      (h : ∀ x, A.calm r x → Covers A Free R (k x) e) : Covers A Free R (ask r k) e

variable {Free : β → Prop} {Free' : δ → Prop} {R : α → β → Prop} {S : γ → δ → Prop}
  {d : Dialogue ans α} {e : Dialogue ans β}

theorem Covers.bind {f : α → Dialogue ans γ} {g : β → Dialogue ans δ} (h : Covers A Free R d e)
    (hfree : ∀ b, Free b → ∃ c, Free' c ∧ g b = .done c)
    (hfg : ∀ a b, R a b → Covers A Free' S (f a) (g b)) :
    Covers A Free' S (d >>= f) (e >>= g) := by
  induction h with
  | done h => exact hfg _ _ h
  | free h =>
    obtain ⟨c, hc, hg⟩ := hfree _ h
    rw [done_bind, hg]
    exact .free hc
  | ask r hr _ ih => exact .ask r hr ih
  | aside r hr _ ih => exact .aside r hr ih

/-- Without a question that is put aside, two dialogues that ask the same cover one another. -/
theorem Covers.of_rel (h : Rel R d e) (he : e.Asks fun r => A.silent r = false) :
    Covers A Free R d e := by
  induction h with
  | done h => exact .done h
  | ask r _ ih => exact .ask r he.1 fun x => ih x (he.2 x)

/-! ## Dialogues that ask nothing else -/

/-- The dialogue puts only questions aside, and ends in `a` if the answers are calm. -/
def Settles (A : Aside ans) (a : α) : Dialogue ans α → Prop
  | done b => b = a
  | ask r k => A.silent r = true ∧ ∀ x, A.calm r x → (k x).Settles A a

theorem Settles.bind {a : α} {b : γ} {f : α → Dialogue ans γ} (h : d.Settles A a)
    (hf : (f a).Settles A b) : (d >>= f).Settles A b := by
  induction d with
  | done a' =>
    obtain rfl : a' = a := h
    exact hf
  | ask r k ih => exact ⟨h.1, fun x hx => ih x (h.2 x hx)⟩

/-- What comes before such a dialogue has settled makes no difference. -/
theorem Covers.settle {a : γ} {c : Dialogue ans γ} {f : γ → Dialogue ans α} (hc : c.Settles A a)
    (hf : Covers A Free R (f a) e) : Covers A Free R (c >>= f) e := by
  induction c with
  | done b =>
    obtain rfl : b = a := hc
    exact hf
  | ask r k ih => exact .aside r hc.1 fun x hx => ih x (hc.2 x hx)

/-! ## Two parties -/

theorem inl_bind {σ : Type} {bns : σ → Type} (d : Dialogue ans α) (f : α → Dialogue ans β) :
    ((d >>= f).inl : Dialogue (Sum.elim ans bns) β) = d.inl >>= fun a => (f a).inl := by
  induction d with
  | done a => rfl
  | ask r k ih => exact congrArg (ask (Sum.inl r)) (funext ih)

theorem Rel.inl {σ : Type} {bns : σ → Type} (h : Rel R d e) :
    Rel R (d.inl : Dialogue (Sum.elim ans bns) α) e.inl := by
  induction h with
  | done h => exact .done h
  | ask r _ ih => exact .ask (Sum.inl r) ih

theorem Rel.refl_of_leaves {P : α → Prop} {d : Dialogue ans α} (h : d.Leaves P) :
    Rel (fun a b => a = b ∧ P a) d d := by
  induction d with
  | done a => exact .done ⟨rfl, h⟩
  | ask r k ih => exact .ask r fun x => ih x (h x)

/-! ## One of two dialogues goes on -/

theorem bind_done (d : Dialogue ans α) : d >>= done = d :=
  bind_eq_self ((leaves_true d).mono fun _ _ => rfl)

theorem Rel.bind_right {S : α → δ → Prop} {g : β → Dialogue ans δ} (h : Rel R d e)
    (hg : ∀ a b, R a b → Rel S (.done a) (g b)) : Rel S d (e >>= g) := by
  rw [← bind_done d]
  exact h.bind hg

theorem Covers.bind_left {S : γ → β → Prop} {f : α → Dialogue ans γ} (h : Covers A Free R d e)
    (hf : ∀ a b, R a b → Covers A Free S (f a) (.done b)) : Covers A Free S (d >>= f) e := by
  rw [← bind_done e]
  exact h.bind (fun b hb => ⟨b, hb, rfl⟩) hf

theorem Covers.bind_right {S : α → δ → Prop} {g : β → Dialogue ans δ} (h : Covers A Free R d e)
    (hfree : ∀ b, Free b → ∃ c, Free' c ∧ g b = .done c)
    (hg : ∀ a b, R a b → Covers A Free' S (.done a) (g b)) : Covers A Free' S d (e >>= g) := by
  rw [← bind_done d]
  exact h.bind hfree hg

theorem Covers.of_settles {a : α} {b : β} (hd : d.Settles A a) (hab : R a b) :
    Covers A Free R d (.done b) := by
  rw [← bind_done d]
  exact Covers.settle hd (.done hab)

/-! ## What a covered dialogue says of conversations -/

/-- A calm conversation, seen from the dialogue that is covered. -/
theorem Covers.talk (h : Covers A Free R d e) {qs : List (Exchange ans)} {a : α}
    (ht : Talk d qs a) (hq : A.Quiet qs) :
    ∃ qs' b, qs' <+: A.visible qs ∧ Talk e qs' b ∧ (Free b ∨ qs' = A.visible qs ∧ R a b) := by
  induction h generalizing qs a with
  | done h =>
    cases ht
    exact ⟨[], _, List.nil_prefix, .done _, .inr ⟨rfl, h⟩⟩
  | free h => exact ⟨[], _, List.nil_prefix, .done _, .inl h⟩
  | ask r hr _ ih =>
    cases ht with
    | ask ht =>
      rename_i qs x
      obtain ⟨qs', b, hpre, ht', hend⟩ := ih x ht fun q hmem => hq q (List.mem_cons_of_mem _ hmem)
      rw [Aside.visible_cons hr]
      refine ⟨⟨r, x⟩ :: qs', b, List.cons_prefix_cons.2 ⟨rfl, hpre⟩, .ask ht', ?_⟩
      exact hend.imp_right fun ⟨heq, hR⟩ => ⟨by rw [heq], hR⟩
  | aside r hr _ ih =>
    cases ht with
    | ask ht =>
      rename_i qs x
      rw [Aside.visible_aside hr]
      refine ih x (hq ⟨r, x⟩ List.mem_cons_self hr) ht fun q hmem => ?_
      exact hq q (List.mem_cons_of_mem _ hmem)

/-- A conversation of the dialogue that is covered can be had with the covering one. -/
theorem Covers.follow (h : Covers A Free R d e) {qs : List (Exchange ans)} {b : β}
    (ht : Talk e qs b) (hb : ¬ Free b) :
    ∃ qs' a, Talk d qs' a ∧ A.Quiet qs' ∧ A.visible qs' = qs ∧ R a b := by
  induction h generalizing qs b with
  | done h =>
    cases ht
    exact ⟨[], _, .done _, by simp [Aside.Quiet], rfl, h⟩
  | free h =>
    cases ht
    exact absurd h hb
  | ask r hr _ ih =>
    cases ht with
    | ask ht =>
      rename_i qs x
      obtain ⟨qs', a, ht', hq, hvis, hR⟩ := ih x ht hb
      refine ⟨⟨r, x⟩ :: qs', a, .ask ht', ?_, ?_, hR⟩
      · rintro q hmem hsil
        rcases List.mem_cons.1 hmem with rfl | hmem
        · rw [hr] at hsil
          contradiction
        · exact hq q hmem hsil
      · rw [Aside.visible_cons hr, hvis]
  | aside r hr _ ih =>
    obtain ⟨x, hx⟩ := A.exists_calm r hr
    obtain ⟨qs', a, ht', hq, hvis, hR⟩ := ih x hx ht hb
    refine ⟨⟨r, x⟩ :: qs', a, .ask ht', ?_, ?_, hR⟩
    · rintro q hmem hsil
      rcases List.mem_cons.1 hmem with rfl | hmem
      · exact hx
      · exact hq q hmem hsil
    · rw [Aside.visible_aside hr, hvis]

/-- The covering dialogue cannot end otherwise. -/
theorem Covers.result (h : Covers A Free R d e) {qs qs' : List (Exchange ans)} {a : α} {b : β}
    (ht : Talk e qs b) (hb : ¬ Free b) (ht' : Talk d qs' a) (hq : A.Quiet qs')
    (hvis : A.visible qs' = qs) : R a b := by
  obtain ⟨qs'', b', hpre, ht'', hend⟩ := h.talk ht' hq
  rw [hvis] at hpre
  obtain ⟨rfl, rfl⟩ := ht.unique ht'' hpre
  rcases hend with hfree | ⟨-, hR⟩
  · exact absurd hfree hb
  · exact hR

/-! ## Dialogues that stop -/

theorem Talk.bind_inv {f : α → Dialogue ans β} {qs : List (Exchange ans)} {b : β}
    (h : Talk (d >>= f) qs b) : ∃ qs₁ qs₂ a, qs = qs₁ ++ qs₂ ∧ Talk d qs₁ a ∧ Talk (f a) qs₂ b := by
  induction d generalizing qs with
  | done a => exact ⟨[], qs, a, rfl, .done a, h⟩
  | ask r k ih =>
    cases h with
    | ask h =>
      obtain ⟨qs₁, qs₂, a, rfl, h₁, h₂⟩ := ih _ h
      exact ⟨_ :: qs₁, qs₂, a, rfl, .ask h₁, h₂⟩

theorem Leaves.talk {P : α → Prop} (h : d.Leaves P) {qs : List (Exchange ans)} {a : α}
    (ht : Talk d qs a) : P a := by
  induction ht with
  | done a => exact h
  | ask _ ih => exact ih (h _)

/-- What the dialogue asks first. -/
def first? : Dialogue ans α → Option ρ
  | done _ => none
  | ask r _ => some r

theorem first?_ne {Q : ρ → Prop} (h : d.Asks Q) (hr : ¬ Q r) : d.first? ≠ some r := by
  cases d with
  | done a => exact Option.some_ne_none r ∘ Eq.symm
  | ask r' k =>
    intro heq
    obtain rfl := Option.some.inj heq
    exact hr h.1

/-- After an answer that is to stop it the dialogue ends at once, in a result of `E`. -/
def EndsAfter (stop : Exchange ans → Bool) (E : α → Prop) : Dialogue ans α → Prop
  | done _ => True
  | ask r k => ∀ x, (stop ⟨r, x⟩ = true → ∃ a, k x = done a ∧ E a) ∧ (k x).EndsAfter stop E

variable {stop : Exchange ans → Bool} {E : α → Prop} {E' : β → Prop}

theorem EndsAfter.bind {f : α → Dialogue ans β} (hd : d.EndsAfter stop E)
    (hE : ∀ a, E a → ∃ b, f a = done b ∧ E' b) (hf : ∀ a, (f a).EndsAfter stop E') :
    (d >>= f).EndsAfter stop E' := by
  induction d with
  | done a => exact hf a
  | ask r k ih =>
    intro x
    refine ⟨fun hstop => ?_, ih x (hd x).2⟩
    obtain ⟨a, hk, ha⟩ := (hd x).1 hstop
    obtain ⟨b, hb, hE'⟩ := hE a ha
    refine ⟨b, ?_, hE'⟩
    show (k x).bind f = done b
    rw [hk]
    exact hb

/-- Nothing that the dialogue asks can stop it. -/
theorem EndsAfter.of_asks (hd : d.Asks fun r => ∀ x, stop ⟨r, x⟩ = false) : d.EndsAfter stop E := by
  induction d with
  | done a => trivial
  | ask r k ih =>
    intro x
    refine ⟨fun hstop => ?_, ih x (hd.2 x)⟩
    rw [hd.1 x] at hstop
    contradiction

theorem EndsAfter.count_talk (hd : d.EndsAfter stop E) {qs : List (Exchange ans)} {a : α}
    (ht : Talk d qs a) : qs.countP stop = 0 ∨ qs.countP stop = 1 ∧ E a := by
  induction ht with
  | done a => exact .inl rfl
  | @ask r k x qs a ht ih =>
    obtain ⟨hstop, hrest⟩ := hd x
    by_cases hx : stop ⟨r, x⟩ = true
    · obtain ⟨b, hk, hb⟩ := hstop hx
      rw [hk] at ht
      cases ht
      exact .inr ⟨by simp [hx], hb⟩
    · rw [List.countP_cons_of_neg hx]
      exact ih hrest

theorem Asks.mono {Q Q' : ρ → Prop} (h : d.Asks Q) (hQ : ∀ r, Q r → Q' r) : d.Asks Q' := by
  induction d with
  | done a => trivial
  | ask r k ih => exact ⟨hQ r h.1, fun x => ih x (h.2 x)⟩

theorem Rel.asks {Q : ρ → Prop} (h : Rel R d e) (he : e.Asks Q) : d.Asks Q := by
  induction h with
  | done h => trivial
  | ask r _ ih => exact ⟨he.1, fun x => ih x (he.2 x)⟩

end Dialogue
