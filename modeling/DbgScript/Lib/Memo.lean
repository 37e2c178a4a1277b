import DbgScript.Lib.Dialogue
import Mathlib.Tactic.ByContra
import Mathlib.Tactic.SplitIfs
import Std.Data.TreeMap

/-!
# Memo tables over an ordered map

A table remembers the successful answers of an oracle that may fail now and succeed
later. Its keys are kept in a map that is ordered by a hand-written less-than. A lookup is
a dialogue with the oracle: what it asks is recorded by whoever runs it.

* `StrictTotal`: what the map needs of the order. Two keys share an entry iff neither
  is less than the other, so under such an order iff they are equal.
* `Holds.lookup_eq`: while the oracle repeats its answers, a lookup gives what it would
  answer now.
* `Holds.unanswered`: a lookup asks about its key only, and not if that has been answered.
* `Holds.lookup`: the table goes on holding what has been answered.
-/

namespace Memo

/-! ## Hand-written orders -/

/-- `less` is a strict total order. -/
class StrictTotal {κ : Type*} (less : κ → κ → Bool) : Prop where
  irrefl (a : κ) : less a a = false
  trans {a b c : κ} : less a b → less b c → less a c
  total {a b : κ} : less a b = false → less b a = false → a = b

/-- The three-way comparison an ordered map makes of a less-than: keys of which neither
    is less are equivalent. -/
def cmpOfLess {κ : Type*} (less : κ → κ → Bool) (a b : κ) : Ordering :=
  if less a b then .lt else if less b a then .gt else .eq

variable {κ ν : Type*} {less : κ → κ → Bool}

theorem StrictTotal.asymm [StrictTotal less] {a b : κ} (h : less a b) : less b a = false := by
  by_contra hb
  have hself : less a a := trans h (by simpa using hb)
  have hirrefl : less a a = false := irrefl a
  rw [hirrefl] at hself
  exact Bool.noConfusion hself

theorem cmpOfLess_eq [StrictTotal less] {a b : κ} : cmpOfLess less a b = .eq ↔ a = b := by
  unfold cmpOfLess
  constructor
  · intro h
    split_ifs at h with h1 h2
    exact StrictTotal.total (by simpa using h1) (by simpa using h2)
  · rintro rfl
    simp [StrictTotal.irrefl]

theorem isLE_cmpOfLess [StrictTotal less] {a b : κ} :
    (cmpOfLess less a b).isLE ↔ less b a = false := by
  unfold cmpOfLess
  split_ifs with h1 h2
  · simp [StrictTotal.asymm h1]
  · simp [h2]
  · simpa using h2

instance [StrictTotal less] : Std.TransCmp (cmpOfLess less) where
  eq_swap {a b} := by
    unfold cmpOfLess
    by_cases h1 : less a b
    · simp [h1, StrictTotal.asymm h1]
    · by_cases h2 : less b a
      · simp [h1, h2]
      · simp [h1, h2]
  isLE_trans {a b c} hab hbc := by
    rw [isLE_cmpOfLess] at *
    by_contra hca
    have hca : less c a := by simpa using hca
    cases hcb : less c b with
    | true => rw [hcb] at hbc; exact Bool.noConfusion hbc
    | false =>
      rcases hb : less b c with _ | _
      · rw [StrictTotal.total hb hcb, hca] at hab
        exact Bool.noConfusion hab
      · rw [StrictTotal.trans hb hca] at hab
        exact Bool.noConfusion hab

/-! ## Tables -/

abbrev Table (κ ν : Type) (less : κ → κ → Bool) := Std.TreeMap κ ν (cmpOfLess less)

section Tables

variable {ρ : Type} {ans : ρ → Type} {α κ ν : Type} {less : κ → κ → Bool}

/-- What a table remembers: for each key a question, and what a successful answer to it is
    worth. -/
structure Source (ans : ρ → Type) (κ ν : Type) where
  question : κ → ρ
  value (k : κ) : ans (question k) → Option ν

/-- Answer `k` from the table, or ask the oracle and remember a successful answer. -/
def lookup (src : Source ans κ ν) (k : κ) (t : Table κ ν less) :
    Dialogue ans (Table κ ν less × Option ν) := do
  match t[k]? with
  | some v => return (t, some v)
  | none =>
    match src.value k (← Dialogue.request (src.question k)) with
    | none => return (t, none)
    | some v => return (t.insert k v, some v)

/-- What an oracle is asked in the course of a dialogue, with its answers. -/
def asked (oracle : (r : ρ) → ans r) (d : Dialogue ans α) : List (Sigma ans) :=
  (d.run (fun _ => oracle) 0).2.map fun r => ⟨r, oracle r⟩

/-- The result of a dialogue with an oracle. -/
def answer (oracle : (r : ρ) → ans r) (d : Dialogue ans α) : α := (d.run (fun _ => oracle) 0).1

theorem eq_of_mem_asked {oracle : (r : ρ) → ans r} {d : Dialogue ans α} {x : Sigma ans}
    (h : x ∈ asked oracle d) : x.2 = oracle x.1 := by
  obtain ⟨r, -, rfl⟩ := List.mem_map.1 h
  rfl

@[simp] theorem asked_bind_done {β : Type} (oracle : (r : ρ) → ans r) (d : Dialogue ans α)
    (f : α → β) : asked oracle (d >>= fun a => .done (f a)) = asked oracle d := by
  rw [asked, Dialogue.run_bind, Dialogue.run_done, List.append_nil, asked]

@[simp] theorem answer_bind_done {β : Type} (oracle : (r : ρ) → ans r) (d : Dialogue ans α)
    (f : α → β) : answer oracle (d >>= fun a => .done (f a)) = f (answer oracle d) := by
  rw [answer, Dialogue.run_bind, Dialogue.run_done, answer]

variable {src : Source ans κ ν} {k : κ} {v : ν} {t : Table κ ν less} {oracle : (r : ρ) → ans r}
  {log : List (Sigma ans)}

/-- The key has been answered with the value. -/
def Source.Answered (src : Source ans κ ν) (log : List (Sigma ans)) (k : κ) (v : ν) : Prop :=
  ∃ a, ⟨src.question k, a⟩ ∈ log ∧ src.value k a = some v

theorem answered_snoc (hinj : Function.Injective src.question) (a : ans (src.question k)) (k' : κ) :
    src.Answered (log ++ [⟨src.question k, a⟩]) k' v ↔
      src.Answered log k' v ∨ k' = k ∧ src.value k a = some v := by
  constructor
  · rintro ⟨a', hmem, hv⟩
    obtain hold | hnew := List.mem_append.1 hmem
    · exact .inl ⟨a', hold, hv⟩
    · obtain ⟨hq, ha⟩ := Sigma.mk.inj (List.mem_singleton.1 hnew)
      obtain rfl := hinj hq
      obtain rfl := eq_of_heq ha
      exact .inr ⟨rfl, hv⟩
  · rintro (⟨a', hmem, hv⟩ | ⟨rfl, hv⟩)
    · exact ⟨a', List.mem_append_left _ hmem, hv⟩
    · exact ⟨a, by simp, hv⟩

theorem lookup_of_found (h : t[k]? = some v) : lookup src k t = .done (t, some v) := by
  rw [lookup, h]
  rfl

theorem asked_lookup (h : t[k]? = none) :
    asked oracle (lookup src k t) = [⟨src.question k, oracle (src.question k)⟩] := by
  rw [asked, lookup, h]
  cases hv : src.value k (oracle (src.question k)) <;> simp [hv]

theorem answer_lookup (h : t[k]? = none) :
    answer oracle (lookup src k t) =
      match src.value k (oracle (src.question k)) with
      | none => (t, none)
      | some v => (t.insert k v, some v) := by
  rw [answer, lookup, h]
  cases hv : src.value k (oracle (src.question k)) <;> simp [hv]

/-- The table holds the successful answers. -/
def Holds (src : Source ans κ ν) (t : Table κ ν less) (log : List (Sigma ans)) : Prop :=
  ∀ k v, t[k]? = some v ↔ src.Answered log k v

theorem Holds.lookup_eq (h : Holds src t log)
    (hrepeats : ∀ v, src.Answered log k v → src.value k (oracle (src.question k)) = some v) :
    (answer oracle (lookup src k t)).2 = src.value k (oracle (src.question k)) := by
  cases ht : t[k]? with
  | some v =>
    rw [lookup_of_found ht]
    exact (hrepeats v ((h k v).1 ht)).symm
  | none =>
    rw [answer_lookup ht]
    cases src.value k (oracle (src.question k)) <;> rfl

theorem Holds.unanswered (h : Holds src t log) {e : Sigma ans}
    (he : e ∈ asked oracle (lookup src k t)) :
    e.1 = src.question k ∧ ∀ v, ¬ src.Answered log k v := by
  cases ht : t[k]? with
  | some v =>
    rw [lookup_of_found ht] at he
    simp [asked] at he
  | none =>
    rw [asked_lookup ht, List.mem_singleton] at he
    subst he
    refine ⟨rfl, fun v hv => ?_⟩
    rw [← h, ht] at hv
    contradiction

/-- Questions of another source make no difference. -/
theorem Holds.append_of_ne (h : Holds src t log) {new : List (Sigma ans)}
    (hne : ∀ e ∈ new, ∀ k, e.1 ≠ src.question k) : Holds src t (log ++ new) := by
  intro k v
  rw [h]
  refine exists_congr fun a => and_congr_left fun _ => ?_
  rw [List.mem_append, or_iff_left]
  exact fun hmem => hne _ hmem k rfl

section Ordered

variable [StrictTotal less]

theorem getElem?_insert_of_ne {k' : κ} (v : ν) (h : k ≠ k') : (t.insert k v)[k']? = t[k']? := by
  rw [Std.TreeMap.getElem?_insert, if_neg]
  intro hc
  exact h (cmpOfLess_eq.mp hc)

theorem holds_empty : Holds src (∅ : Table κ ν less) [] := by
  intro k v
  simp [Source.Answered]

theorem Holds.lookup (hinj : Function.Injective src.question) (h : Holds src t log) :
    Holds src (answer oracle (lookup src k t)).1 (log ++ asked oracle (lookup src k t)) := by
  cases ht : t[k]? with
  | some v =>
    rw [lookup_of_found ht]
    simpa [answer, asked] using h
  | none =>
    rw [answer_lookup ht, asked_lookup ht]
    intro k' v'
    rw [answered_snoc hinj, ← h]
    cases hv : src.value k (oracle (src.question k)) with
    | none => simp
    | some v =>
      by_cases hkey : k = k'
      · subst hkey
        simp [ht]
      · simp [getElem?_insert_of_ne v hkey, Ne.symm hkey]

end Ordered

end Tables

end Memo
