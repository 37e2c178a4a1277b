import DbgScript.Lua.Interrupts
import DbgScript.Providers.Interchange
import DbgScript.Python.Interrupts
import DbgScript.Ruby.Interrupts

/-!
# Runs of a script and Ctrl-C

* `interrupts_seen`: in every run of a script the script sees an error for every Ctrl-C, even
  though the debugger reports it only once.
* `asksFirst_iff`: the calls that ask for an interrupt before anything else.
* `held_interrupt`: while Ctrl-C is held down, a script that makes only such calls does nothing.
-/

namespace DbgScript.ScriptApi

open Dialogue (EndsAfter Exchange Talk)
open Python (PyAnswer PyM)

/-! ## Implementations -/

/-- Every call ends in an error as soon as it hears of an interrupt. -/
structure HeedsInterrupts (I : Implementation DbgScriptTypedObject) : Prop where
  moduleCall : ∀ c, (I.moduleCall c).EndsAfter interrupted (· = .error .raised)
  objectCall : ∀ o c, (I.objectCall o c).EndsAfter interrupted (· = (o, .error .raised))
  threadCall : ∀ thd c, (I.threadCall thd c).EndsAfter interrupted (· = .error .raised)
  frameCall : ∀ frame thd c, (I.frameCall frame thd c).EndsAfter interrupted (· = .error .raised)

theorem Heeds.outcome {ε : Type} {f : Throws Request.Answer ε (Reply DbgScriptTypedObject)}
    (hf : Heeds f) :
    (Dialogue.bind f.attempt.inl fun r => .done (outcome r) : Dialogue PyAnswer _).EndsAfter
      interrupted (· = .error .raised) := by
  refine hf.ends.bind ?_ fun _ => trivial
  rintro _ ⟨e, rfl⟩
  exact ⟨_, rfl, rfl⟩

theorem HeedsOn.outcome {ε ρ : Type} {o : DbgScriptTypedObject}
    {d : DsM (DbgScriptTypedObject × Except ε ρ)} (hd : HeedsOn o d)
    (reply : ρ → Reply DbgScriptTypedObject) :
    (Dialogue.bind d.inl fun r => .done (r.1, ScriptApi.outcome (r.2.map reply)) :
      Dialogue PyAnswer _).EndsAfter interrupted (· = (o, .error .raised)) := by
  refine hd.ends.bind ?_ fun _ => trivial
  rintro _ ⟨e, rfl⟩
  exact ⟨_, rfl, rfl⟩

theorem pyHeeds_outcome {f : PyM (Reply DbgScriptTypedObject)} (hf : Python.PyHeeds f) :
    (Dialogue.bind (f.attempt none) fun r => .done (pyOutcome r)).EndsAfter interrupted
      (· = .error .raised) := by
  refine (hf.ends none).bind ?_ fun _ => trivial
  rintro ⟨_, flag⟩ rfl
  exact ⟨_, rfl, rfl⟩

theorem heedsInterrupts_lua (mem : ℕ → DbgScriptTypedObject) :
    HeedsInterrupts (luaProvider mem) where
  moduleCall c := (Lua.heeds_moduleCall (mem 0) c).outcome
  objectCall o c := (Lua.heedsOn_objectCall (mem 0) o c).outcome Lua.reply
  threadCall thd c := (Lua.heeds_threadCall thd c).outcome
  frameCall frame thd c := (Lua.heeds_frameCall mem frame thd c).outcome

theorem heedsInterrupts_ruby : HeedsInterrupts rubyProvider where
  moduleCall c := (Ruby.heeds_moduleCall c).outcome
  objectCall o c := (Ruby.heedsOn_objectCall o c).outcome Ruby.reply
  threadCall thd c := (Ruby.heeds_threadCall thd c).outcome
  frameCall frame thd c := (Ruby.heeds_frameCall frame thd c).outcome

theorem heedsInterrupts_python : HeedsInterrupts pythonProvider where
  moduleCall c := pyHeeds_outcome (Python.pyHeeds_moduleCall c)
  objectCall o c := by
    refine (Python.pyHeedsOn_objectCall o c).ends.bind ?_ fun _ => trivial
    rintro _ ⟨flag, rfl⟩
    exact ⟨_, rfl, rfl⟩
  threadCall thd c := pyHeeds_outcome (Python.pyHeeds_threadCall thd c)
  frameCall frame thd c := pyHeeds_outcome (Python.pyHeeds_frameCall frame thd c)

theorem heedsInterrupts_provider (mem : ℕ → DbgScriptTypedObject) (l : Language) :
    HeedsInterrupts (provider mem l) := by
  cases l with
  | lua => exact heedsInterrupts_lua mem
  | python => exact heedsInterrupts_python
  | ruby => exact heedsInterrupts_ruby

/-! ## Steps -/

variable {I : Implementation DbgScriptTypedObject} {w : World DbgScriptTypedObject}

/-- The script has seen one more error, and nothing else has changed. -/
def World.failed {O : Type} (w : World O) : World O := ⟨w.entities, w.seen ++ [.error]⟩

/-- A call that hears of an interrupt leaves everything as it was. -/
theorem HeedsInterrupts.step (hI : HeedsInterrupts I) (w : World DbgScriptTypedObject) (op : Op) :
    (w.step I op).EndsAfter interrupted (· = some w.failed) := by
  have hcall : ∀ {d : Dialogue PyAnswer (Outcome DbgScriptTypedObject)},
      d.EndsAfter interrupted (· = .error .raised) →
      (Dialogue.bind d fun r => .done (w.after r)).EndsAfter interrupted (· = some w.failed) := by
    intro d hd
    refine hd.bind ?_ fun _ => trivial
    rintro _ rfl
    exact ⟨_, rfl, rfl⟩
  cases op with
  | module c => exact hcall (hI.moduleCall c)
  | object i c =>
    rw [World.step]
    cases hi : w.entities[i]? with
    | none => trivial
    | some e =>
      cases e with
      | object o =>
        refine (hI.objectCall o c).bind ?_ fun _ => trivial
        rintro _ rfl
        have hset : w.entities.set i (.object o) = w.entities := by
          obtain ⟨hlt, hget⟩ := List.getElem?_eq_some_iff.1 hi
          rw [← hget, List.set_getElem_self hlt]
        refine ⟨_, rfl, ?_⟩
        rw [hset]
        rfl
      | thread thd => trivial
      | frame frame thd => trivial
  | thread i c =>
    rw [World.step]
    cases w.entities[i]? with
    | none => trivial
    | some e =>
      cases e with
      | object o => trivial
      | thread thd => exact hcall (hI.threadCall thd c)
      | frame frame thd => trivial
  | frame i c =>
    rw [World.step]
    cases w.entities[i]? with
    | none => trivial
    | some e =>
      cases e with
      | object o => trivial
      | thread thd => trivial
      | frame frame thd => exact hcall (hI.frameCall frame thd c)

/-- One more outcome has been seen than in the world `w`. -/
def Extends {O : Type} (w : World O) (w' : Option (World O)) : Prop :=
  ∀ v, w' = some v → ∃ x, v.seen = w.seen ++ [x]

theorem extends_after {O : Type} (w : World O) (r : Outcome O) : Extends w (w.after r) := by
  rintro v hv
  match r with
  | .error .unspecified => cases hv
  | .error .raised =>
    obtain rfl := Option.some.inj hv
    exact ⟨_, rfl⟩
  | .ok r =>
    obtain rfl := Option.some.inj hv
    exact ⟨_, rfl⟩

theorem extends_step (I : Implementation DbgScriptTypedObject) (w : World DbgScriptTypedObject)
    (op : Op) : (w.step I op).Leaves (Extends w) := by
  have hcall : ∀ d : Dialogue PyAnswer (Outcome DbgScriptTypedObject),
      (Dialogue.bind d fun r => .done (w.after r)).Leaves (Extends w) :=
    fun d => Dialogue.leaves_bind (Dialogue.leaves_true d) fun r _ => extends_after w r
  cases op with
  | module c => exact hcall _
  | object i c =>
    rw [World.step]
    split
    · refine Dialogue.leaves_bind (Dialogue.leaves_true _) ?_
      rintro r -
      exact extends_after _ r.2
    · exact extends_after w _
  | thread i c =>
    rw [World.step]
    split
    · exact hcall _
    · exact extends_after w _
  | frame i c =>
    rw [World.step]
    split
    · exact hcall _
    · exact extends_after w _

/-! ## Runs -/

/-- A call adds at least as many errors as it hears of interrupts. -/
theorem HeedsInterrupts.count_step (hI : HeedsInterrupts I) {op : Op}
    {qs : List (Exchange PyAnswer)} {v : World DbgScriptTypedObject}
    (ht : Talk (w.step I op) qs (some v)) :
    qs.countP interrupted + w.seen.count .error ≤ v.seen.count .error := by
  rcases (hI.step w op).count_talk ht with hnone | ⟨hone, hv⟩
  · obtain ⟨x, hx⟩ := (extends_step I w op).talk ht v rfl
    rw [hnone, hx, List.count_append]
    omega
  · obtain rfl := Option.some.inj hv
    have hcount : w.failed.seen.count .error = w.seen.count .error + 1 := by simp [World.failed]
    omega

theorem HeedsInterrupts.count_run {I : ℕ → Implementation DbgScriptTypedObject}
    (hI : ∀ n, HeedsInterrupts (I n)) (script : Script) (n : ℕ) {qs : List (Exchange PyAnswer)}
    {v : World DbgScriptTypedObject} (ht : Talk (runScript I script n w) qs (some v)) :
    qs.countP interrupted + w.seen.count .error ≤ v.seen.count .error := by
  induction n generalizing w qs with
  | zero =>
    cases ht
    simp
  | succ n ih =>
    rw [runScript] at ht
    split at ht
    · cases ht
      simp
    · obtain ⟨qs₁, qs₂, w', rfl, hstep, hrest⟩ := Talk.bind_inv ht
      cases w' with
      | none => cases hrest
      | some w' =>
        have hfirst := (hI w.seen.length).count_step hstep
        have hlater := ih hrest
        rw [List.countP_append]
        omega

/-- The debugger reports a Ctrl-C once, to whoever asks first. The script always sees an error
    for it. -/
theorem interrupts_seen (l : Language) (mem : ℕ → ℕ → DbgScriptTypedObject) (script : Script)
    (n : ℕ) {qs : List (Exchange PyAnswer)} {w : World DbgScriptTypedObject}
    (ht : Talk (runIn l mem script n) qs (some w)) :
    qs.countP interrupted ≤ w.seen.count .error := by
  have hcount := HeedsInterrupts.count_run (fun k => heedsInterrupts_provider (mem k) l) script n ht
  simpa [World.empty] using hcount

/-- The user presses Ctrl-C before the address of the PEB is asked for. -/
theorem readPeb_interrupted :
    ([⟨.inl .getInterrupt, S_OK⟩] : List (Exchange PyAnswer)).countP interrupted ≤
      ([.error] : List Seen).count .error :=
  interrupts_seen .lua (fun _ _ => .zero) readPeb 2 (w := ⟨[], [.error]⟩) (.ask (.done _))

/-! ## Calls that ask first -/

/-- The call is made on an entity of its kind. -/
def Op.Applies (w : World DbgScriptTypedObject) : Op → Prop
  | .module _ => True
  | .object i _ => ∃ o, w.entities[i]? = some (.object o)
  | .thread i _ => ∃ thd, w.entities[i]? = some (.thread thd)
  | .frame i _ => ∃ frame thd, w.entities[i]? = some (.frame frame thd)

/-- The calls that begin with `CHECK_ABORT`. -/
def Op.asksFirst (l : Language) : Op → Bool
  | .module .startBuffering => false
  | .module .stopBuffering => l = .ruby
  | .object _ .name | .object _ .type | .object _ .module | .object _ .size
  | .object _ .address | .object _ .length => l ≠ .python
  | .thread _ .engineId | .thread _ .threadId => l ≠ .python
  | .frame _ .frameNumber | .frame _ .instructionOffset => l = .lua
  | _ => true

/-- What asks for an interrupt first. -/
abbrev Guarded {α : Type} (d : Dialogue PyAnswer α) : Prop := d.first? = some (.inl .getInterrupt)

theorem guarded_step (mem : ℕ → DbgScriptTypedObject) {l : Language} {op : Op} (h : op.Applies w)
    (hop : op.asksFirst l = true) : Guarded (w.step (provider mem l) op) := by
  cases op with
  | module c =>
    cases l <;> cases c <;> first
      | rfl
      | contradiction
  | object i c =>
    obtain ⟨o, ho⟩ := h
    rw [World.step, ho]
    cases l <;> cases c <;> first
      | rfl
      | contradiction
  | thread i c =>
    obtain ⟨thd, hthd⟩ := h
    rw [World.step, hthd]
    cases l <;> cases c <;> first
      | rfl
      | contradiction
  | frame i c =>
    obtain ⟨frame, thd, hframe⟩ := h
    rw [World.step, hframe]
    cases l <;> cases c <;> first
      | rfl
      | contradiction

/-- `len(obj)` does not ask for an interrupt at all. -/
theorem not_guarded_length (o : DbgScriptTypedObject) :
    ¬ Guarded (pythonProvider.objectCall o .length) := by
  have hasks : (pythonProvider.objectCall o .length).Asks fun r =>
      ∀ x, interrupted ⟨r, x⟩ = false :=
    Dialogue.asks_bind (Dialogue.asks_bind (Dialogue.asks_bind ((Python.un_len o).asks none)
      (Dialogue.leaves_true _) fun _ _ => trivial) (Dialogue.leaves_true _) fun _ _ => trivial)
      (Dialogue.leaves_true _) fun _ _ => trivial
  refine Dialogue.first?_ne hasks fun hint => ?_
  have htrue : isInterrupt S_OK = false := hint S_OK
  contradiction

theorem guarded_bind {α β : Type} {d : Dialogue PyAnswer α} {f : α → β}
    (h : Guarded (Dialogue.bind d fun a => .done (f a))) : Guarded d := by
  cases d with
  | done a => contradiction
  | ask r k => exact h

theorem not_guarded_step (mem : ℕ → DbgScriptTypedObject) {l : Language} {op : Op}
    (h : op.Applies w) (hop : op.asksFirst l = false) :
    ¬ Guarded (w.step (provider mem l) op) := by
  cases op with
  | module c =>
    cases l <;> cases c <;> first
      | contradiction
      | rintro ⟨⟩
  | object i c =>
    obtain ⟨o, ho⟩ := h
    rw [World.step, ho]
    cases l with
    | lua | ruby => cases c <;> contradiction
    | python =>
      cases c with
      | name | type | module | size | address => rintro ⟨⟩
      | length => exact fun hguarded => not_guarded_length o (guarded_bind hguarded)
      | value | deref | field _ | element _ | readString _ | readWideString _ | readBytes _
      | runtimeObject => contradiction
  | thread i c =>
    obtain ⟨thd, hthd⟩ := h
    rw [World.step, hthd]
    cases l <;> cases c <;> first
      | contradiction
      | rintro ⟨⟩
  | frame i c =>
    obtain ⟨frame, thd, hframe⟩ := h
    rw [World.step, hframe]
    cases l <;> cases c <;> first
      | contradiction
      | rintro ⟨⟩

/-- On an entity of its kind, a call asks for an interrupt before anything else iff it is one
    of those that begin with `CHECK_ABORT`. -/
theorem asksFirst_iff (mem : ℕ → DbgScriptTypedObject) (l : Language) {op : Op}
    (h : op.Applies w) : Guarded (w.step (provider mem l) op) ↔ op.asksFirst l = true := by
  constructor
  · intro hguarded
    by_contra hop
    exact not_guarded_step mem h (Bool.eq_false_of_not_eq_true hop) hguarded
  · exact guarded_step mem h

/-! ## Ctrl-C held down -/

/-- What is not an entity of the right kind does not answer. -/
theorem step_of_not_applies (I : Implementation DbgScriptTypedObject) {op : Op}
    (h : ¬ op.Applies w) : w.step I op = .done (some w.failed) := by
  cases op with
  | module c => exact absurd trivial h
  | object i c =>
    rw [World.step]
    split
    · rename_i o ho
      exact absurd ⟨o, ho⟩ h
    · rfl
  | thread i c =>
    rw [World.step]
    split
    · rename_i thd hthd
      exact absurd ⟨thd, hthd⟩ h
    · rfl
  | frame i c =>
    rw [World.step]
    split
    · rename_i frame thd hframe
      exact absurd ⟨frame, thd, hframe⟩ h
    · rfl

/-- Every time the debugger is asked for an interrupt there is one. -/
def Held (qs : List (Exchange PyAnswer)) : Prop :=
  ∀ q ∈ qs, q.1 = .inl .getInterrupt → interrupted q = true

/-- The debugger is asked for interrupts only. -/
def OnlyInterrupts (qs : List (Exchange PyAnswer)) : Prop := ∀ q ∈ qs, q.1 = .inl .getInterrupt

theorem held_step (mem : ℕ → DbgScriptTypedObject) (l : Language) {op : Op}
    (hop : op.asksFirst l = true) {qs : List (Exchange PyAnswer)}
    {w' : Option (World DbgScriptTypedObject)} (ht : Talk (w.step (provider mem l) op) qs w')
    (hheld : Held qs) : OnlyInterrupts qs ∧ w' = some w.failed := by
  by_cases happlies : op.Applies w
  · have hguarded := guarded_step mem happlies hop
    have hends := (heedsInterrupts_provider mem l).step w op
    revert ht hguarded hends
    generalize w.step (provider mem l) op = d
    intro ht hguarded hends
    cases ht with
    | done a => contradiction
    | ask ht =>
      rename_i r k x qs
      obtain rfl := Option.some.inj hguarded
      obtain ⟨v, hv, rfl⟩ := (hends x).1 (hheld _ List.mem_cons_self rfl)
      rw [hv] at ht
      cases ht
      refine ⟨?_, rfl⟩
      intro q hq
      obtain rfl := List.mem_singleton.1 hq
      rfl
  · rw [step_of_not_applies _ happlies] at ht
    cases ht
    exact ⟨by simp [OnlyInterrupts], rfl⟩

/-- While Ctrl-C is held down, a script that makes only calls that ask first does nothing: the
    debugger is asked for interrupts only, the script sees errors only, and its objects stay
    as they are. -/
theorem held_interrupt (l : Language) (mem : ℕ → ℕ → DbgScriptTypedObject) (script : Script) (n : ℕ)
    (hscript : ∀ seen op, script seen = some op → op.asksFirst l = true)
    {qs : List (Exchange PyAnswer)} {w' : Option (World DbgScriptTypedObject)}
    (ht : Talk (runScript (fun k => provider (mem k) l) script n w) qs w') (hheld : Held qs) :
    OnlyInterrupts qs ∧
      ∃ k ≤ n, w' = some ⟨w.entities, w.seen ++ List.replicate k .error⟩ := by
  induction n generalizing w qs with
  | zero =>
    cases ht
    exact ⟨by simp [OnlyInterrupts], 0, le_rfl, by simp⟩
  | succ n ih =>
    rw [runScript] at ht
    cases hop : script w.seen with
    | none =>
      rw [hop] at ht
      cases ht
      exact ⟨by simp [OnlyInterrupts], 0, Nat.zero_le _, by simp⟩
    | some op =>
      rw [hop] at ht
      obtain ⟨qs₁, qs₂, w₁, rfl, hstep, hrest⟩ := Talk.bind_inv ht
      obtain ⟨honly, rfl⟩ := held_step (mem w.seen.length) l (hscript _ op hop) hstep
        fun q hq => hheld q (List.mem_append_left _ hq)
      obtain ⟨honly', k, hk, rfl⟩ := ih hrest fun q hq => hheld q (List.mem_append_right _ hq)
      refine ⟨?_, k + 1, Nat.succ_le_succ hk, ?_⟩
      · intro q hq
        rcases List.mem_append.1 hq with hq | hq
        · exact honly q hq
        · exact honly' q hq
      · simp [World.failed, List.replicate_succ]

/-- A script that keeps asking for the PEB, and does not get it. -/
theorem held_getPeb :
    OnlyInterrupts (List.replicate 2 ⟨.inl .getInterrupt, S_OK⟩) ∧
      ∃ k ≤ 2, (some ⟨[], [.error, .error]⟩ : Option (World DbgScriptTypedObject)) =
        some ⟨[], [] ++ List.replicate k .error⟩ :=
  held_interrupt .lua (fun _ _ => .zero) (fun _ => some (.module .getPeb)) 2
    (fun _ _ h => by obtain rfl := Option.some.inj h; rfl) (w := .empty) (.ask (.ask (.done _)))
    fun q hq _ => by obtain rfl := List.eq_of_mem_replicate hq; rfl

end DbgScript.ScriptApi
