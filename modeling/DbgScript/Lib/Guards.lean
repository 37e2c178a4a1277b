import Mathlib.Logic.Basic
import Mathlib.Tactic.TypeStar

/-!
# Scope guards

A guard changes the state when it is entered, and its destructor runs when its scope
is left, on every path: also when entering it has failed, in which case the rest of
the scope is skipped.

* `scope_view_iff`: over a scope whose rest does not touch a view of the state, the
  view is kept iff the destructor undoes what entering has done.
* `scope_view_of_idle`: over a guard that does nothing to the view, the scope does to it
  what its rest does.
-/

namespace Guards

variable {σ γ ε ρ α : Type*}

/-- A guard object `γ` that is entered with a result code `ε`. -/
structure Guard (σ γ ε : Type*) where
  enter : σ → σ × γ × ε
  failed : ε → Bool
  leave : γ → σ → σ

/-- The scope of a guard: `body` runs unless entering has failed. -/
def Guard.scope (g : Guard σ γ ε) (fail : ε → ρ) (body : σ → σ × ρ) (s : σ) : σ × ρ :=
  let (t, obj, code) := g.enter s
  if g.failed code then (g.leave obj t, fail code)
  else
    let (u, r) := body t
    (g.leave obj u, r)

variable (g : Guard σ γ ε) (fail : ε → ρ) (body : σ → σ × ρ)

theorem scope_of_failed {s : σ} (h : g.failed (g.enter s).2.2 = true) :
    g.scope fail body s = (g.leave (g.enter s).2.1 (g.enter s).1, fail (g.enter s).2.2) := by
  simp [Guard.scope, h]

theorem scope_of_entered {s : σ} (h : g.failed (g.enter s).2.2 = false) :
    g.scope fail body s =
      (g.leave (g.enter s).2.1 (body (g.enter s).1).1, (body (g.enter s).1).2) := by
  simp [Guard.scope, h]

/-- What `leave` does to the view depends on the view alone. -/
def Guard.Respects (g : Guard σ γ ε) (view : σ → α) : Prop :=
  ∀ obj s t, view s = view t → view (g.leave obj s) = view (g.leave obj t)

/-- Entering the guard at `s` and leaving it at once. -/
def Guard.bounce (g : Guard σ γ ε) (s : σ) : σ := g.leave (g.enter s).2.1 (g.enter s).1

variable {g} {view : σ → α} {s : σ}

/-- A scope whose body keeps the view does to it what entering and leaving do. -/
theorem scope_view (hg : g.Respects view)
    (hbody : g.failed (g.enter s).2.2 = false →
      view (body (g.enter s).1).1 = view (g.enter s).1) :
    view (g.scope fail body s).1 = view (g.bounce s) := by
  cases hc : g.failed (g.enter s).2.2 with
  | true =>
    rw [scope_of_failed g fail body hc]
    rfl
  | false =>
    rw [scope_of_entered g fail body hc]
    exact hg _ _ _ (hbody hc)

/-- The view is kept iff entering and leaving keep it. -/
theorem scope_view_iff (hg : g.Respects view)
    (hbody : ∀ t, view (body t).1 = view t) :
    view (g.scope fail body s).1 = view s ↔ view (g.bounce s) = view s := by
  rw [scope_view fail body hg fun _ => hbody _]

/-- Entering at `s` does not change the view, nor does the destructor of that guard. -/
def Guard.IdleAt (g : Guard σ γ ε) (view : σ → α) (s : σ) : Prop :=
  view (g.enter s).1 = view s ∧ ∀ t, view (g.leave (g.enter s).2.1 t) = view t

theorem bounce_of_idle (h : g.IdleAt view s) : view (g.bounce s) = view s :=
  (h.2 _).trans h.1

/-- An idle guard leaves the view as the body has left it. -/
theorem scope_view_of_idle (h : g.IdleAt view s) :
    view (g.scope fail body s).1 =
      if g.failed (g.enter s).2.2 then view s else view (body (g.enter s).1).1 := by
  cases hc : g.failed (g.enter s).2.2 with
  | true =>
    rw [scope_of_failed g fail body hc, if_pos rfl]
    exact bounce_of_idle h
  | false =>
    rw [scope_of_entered g fail body hc]
    exact h.2 _

end Guards
