import DbgScript.Lib.Runs
import Mathlib.Data.Int.Notation
import Mathlib.Data.List.Count
import Mathlib.Tactic.Ring

/-!
# Ledgers of owned references

A log of acquisitions and releases of counted references. It is covered if no object
is released more often than it has been acquired before.

* `covered_acquires`, `covered_releases`: what a block of moves on one object needs.
* `owned_acquires`, `owned_releases`: what it leaves.
* `owned_eq_zero_iff`: what is balanced.
* `owned_acquireAll`, `covered_releaseAll`: the same for blocks of moves on several objects.
-/

namespace Ledger

open Runs (Guarded)

variable {α : Type*} [DecidableEq α]

inductive Move (α : Type*) where
  | acquire (a : α)
  | release (a : α)
  deriving DecidableEq

/-- The references to `a` that are owned after the moves. -/
def owned (moves : List (Move α)) (a : α) : ℤ :=
  moves.count (.acquire a) - moves.count (.release a)

/-- A release needs an owned reference. -/
def Allowed (pre : List (Move α)) : Move α → Prop
  | .acquire _ => True
  | .release a => 0 < owned pre a

/-- No object is released more often than it has been acquired. -/
def Covered (moves : List (Move α)) : Prop := Guarded Allowed moves

@[simp] theorem covered_nil : Covered ([] : List (Move α)) := Runs.guarded_nil

theorem Covered.of_append {moves new : List (Move α)} (h : Covered (moves ++ new)) :
    Covered moves :=
  ((Runs.guarded_append moves new).mp h).1

theorem owned_acquires (moves : List (Move α)) (n : ℕ) (a b : α) :
    owned (moves ++ List.replicate n (.acquire a)) b =
      owned moves b + if b = a then (n : ℤ) else 0 := by
  by_cases hb : b = a
  · simp [owned, List.count_replicate, hb]
    ring
  · simp [owned, List.count_replicate, hb, Ne.symm hb]

theorem owned_releases (moves : List (Move α)) (n : ℕ) (a b : α) :
    owned (moves ++ List.replicate n (.release a)) b =
      owned moves b - if b = a then (n : ℤ) else 0 := by
  by_cases hb : b = a
  · simp [owned, List.count_replicate, hb]
    ring
  · simp [owned, List.count_replicate, hb, Ne.symm hb]

@[simp] theorem owned_nil (a : α) : owned [] a = 0 := rfl

/-- One acquisition, and one release. -/
theorem owned_acquire (moves : List (Move α)) (a b : α) :
    owned (moves ++ [.acquire a]) b = owned moves b + if b = a then 1 else 0 :=
  owned_acquires moves 1 a b

theorem owned_release (moves : List (Move α)) (a b : α) :
    owned (moves ++ [.release a]) b = owned moves b - if b = a then 1 else 0 :=
  owned_releases moves 1 a b

/-- Moves on one object leave the others alone. -/
theorem owned_append_of_ne {moves new : List (Move α)} {a b : α}
    (hnew : ∀ m ∈ new, m = .acquire a ∨ m = .release a) (hb : b ≠ a) :
    owned (moves ++ new) b = owned moves b := by
  have hacquire : new.count (.acquire b) = 0 := by
    refine List.count_eq_zero.mpr fun hmem => ?_
    rcases hnew _ hmem with h | h <;> cases h
    exact hb rfl
  have hrelease : new.count (.release b) = 0 := by
    refine List.count_eq_zero.mpr fun hmem => ?_
    rcases hnew _ hmem with h | h <;> cases h
    exact hb rfl
  simp only [owned, List.count_append, hacquire, hrelease, Nat.add_zero]

/-- Nothing is owned iff everything acquired has been released. -/
theorem owned_eq_zero_iff {moves : List (Move α)} {a : α} :
    owned moves a = 0 ↔ moves.count (.acquire a) = moves.count (.release a) := by
  rw [owned]
  omega

theorem covered_acquires (moves : List (Move α)) (n : ℕ) (a : α) :
    Covered (moves ++ List.replicate n (.acquire a)) ↔ Covered moves := by
  induction n with
  | zero => simp
  | succ n ih =>
    rw [List.replicate_succ', ← List.append_assoc, Covered, Runs.guarded_snoc]
    exact (and_iff_left trivial).trans ih

theorem covered_releases {moves : List (Move α)} {n : ℕ} {a : α} (ha : 0 ≤ owned moves a) :
    Covered (moves ++ List.replicate n (.release a)) ↔ Covered moves ∧ n ≤ owned moves a := by
  induction n with
  | zero => simp [ha]
  | succ n ih =>
    rw [List.replicate_succ', ← List.append_assoc, Covered, Runs.guarded_snoc]
    have hlast : Allowed (moves ++ List.replicate n (.release a)) (.release a) ↔
        ((n + 1 : ℕ) : ℤ) ≤ owned moves a := by
      show 0 < owned _ a ↔ _
      rw [owned_releases, if_pos rfl]
      omega
    rw [hlast]
    constructor
    · rintro ⟨hcov, hn⟩
      exact ⟨(ih.mp hcov).1, hn⟩
    · rintro ⟨hcov, hn⟩
      exact ⟨ih.mpr ⟨hcov, by omega⟩, hn⟩

/-! ## Blocks of moves on several objects -/

def acquireAll (as : List α) : List (Move α) := as.map .acquire

def releaseAll (as : List α) : List (Move α) := as.map .release

theorem owned_append (moves new : List (Move α)) (a : α) :
    owned (moves ++ new) a = owned moves a + owned new a := by
  simp only [owned, List.count_append]
  omega

theorem owned_acquireAll (as : List α) (a : α) : owned (acquireAll as) a = as.count a := by
  have hacquire : (acquireAll as).count (.acquire a) = as.count a :=
    List.count_map_of_injective as Move.acquire (fun _ _ h => Move.acquire.inj h) a
  have hrelease : (acquireAll as).count (.release a) = 0 := by
    refine List.count_eq_zero.2 fun hmem => ?_
    obtain ⟨b, -, hb⟩ := List.mem_map.1 hmem
    cases hb
  rw [owned, hacquire, hrelease]
  omega

theorem owned_releaseAll (as : List α) (a : α) : owned (releaseAll as) a = -as.count a := by
  have hrelease : (releaseAll as).count (.release a) = as.count a :=
    List.count_map_of_injective as Move.release (fun _ _ h => Move.release.inj h) a
  have hacquire : (releaseAll as).count (.acquire a) = 0 := by
    refine List.count_eq_zero.2 fun hmem => ?_
    obtain ⟨b, -, hb⟩ := List.mem_map.1 hmem
    cases hb
  rw [owned, hacquire, hrelease]
  omega

theorem covered_acquireAll {moves : List (Move α)} (h : Covered moves) (as : List α) :
    Covered (moves ++ acquireAll as) := by
  induction as using List.reverseRecOn with
  | nil => simpa [acquireAll] using h
  | append_singleton as a ih =>
    rw [acquireAll, List.map_append, ← List.append_assoc]
    exact (Runs.guarded_snoc _ _).2 ⟨ih, trivial⟩

/-- What is owned may be released. -/
theorem covered_releaseAll {moves : List (Move α)} (h : Covered moves) {as : List α}
    (hown : ∀ a, (as.count a : ℤ) ≤ owned moves a) : Covered (moves ++ releaseAll as) := by
  induction as using List.reverseRecOn with
  | nil => simpa [releaseAll] using h
  | append_singleton as a ih =>
    have hcount : ∀ b, ((as ++ [a]).count b : ℤ) = as.count b + [a].count b := fun b => by
      rw [List.count_append, Nat.cast_add]
    have hrest : Covered (moves ++ releaseAll as) := ih fun b => by
      have := hown b
      rw [hcount] at this
      omega
    have hlast : 0 < owned (moves ++ releaseAll as) a := by
      have hpos := hown a
      rw [hcount, List.count_singleton_self] at hpos
      rw [owned_append, owned_releaseAll]
      omega
    rw [releaseAll, List.map_append, ← List.append_assoc]
    exact (Runs.guarded_snoc _ _).2 ⟨hrest, hlast⟩

end Ledger
