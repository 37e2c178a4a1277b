import DbgScript.Providers.SymbolObjects

/-!
# The symbol group behind locals and arguments

`UtilCountStackFrameVariables` creates the symbol group of a frame, and
`UtilEnumStackFrameVariables` releases it after its loop. Between the two, and in the
callback of the loop, the Lua and Ruby providers report errors by jumping to the script;
and a group whose number of symbols the debugger does not tell reaches no loop.

* `countStackFrameVariables_cases`: when counting obtains a group.
* `variables_counted`: the rest of `getVariablesHelper`, up to the release or to a jump.
* `enumerates_iff`: every group is released once, iff the debugger tells the number of
  symbols and no error is reported by a jump before the release.
-/

namespace DbgScript

open CharBuf (FixedStr)
open Python (PyAnswers PyCall)

/-! ## Specification -/

/-- The answers of a debugger whose scopes are switched by the support library: `env k`
    are the engine's answers during the `k`-th question, and `dbg k` is its state then. -/
def throughScope (a : PyAnswers) (env : ℕ → ScopeEnv) (dbg : ℕ → Debugger) : PyAnswers :=
  fun k r =>
    match r with
    | .inl (.countStackFrameVariables thd frame flags) =>
      let r := utilCountStackFrameVariables (env k) thd frame flags 0 (dbg k)
      (r.2.1, r.2.2.1)
    | r => a k r

/-- The symbol group that the engine creates to answer a question. -/
def symbolGroup (e : ScopeEnv) (d : Debugger) : Request ⊕ PyCall → Option ℕ
  | .inl (.countStackFrameVariables thd frame flags) =>
    (utilCountStackFrameVariables e thd frame flags 0 d).2.2.2
  | _ => none

/-- The number of symbol groups obtained to answer the questions. -/
def groupsObtained (env : ℕ → ScopeEnv) (dbg : ℕ → Debugger) (qs : List (Request ⊕ PyCall)) : ℕ :=
  (qs.mapIdx fun k q => symbolGroup (env k) (dbg k) q).countP Option.isSome

def groupsReleased (qs : List (Request ⊕ PyCall)) : ℕ :=
  qs.countP fun q => q = .inl .releaseSymbolGroup

section Helpers

variable (l : Language) (a : PyAnswers) (mem : ℕ → DbgScriptTypedObject) (thd : DbgScriptThread)
  (frame : DbgScriptStackFrame) (flags : ULONG)

/-- The questions of `getVariablesHelper`. -/
def variablesQuestions : List (Request ⊕ PyCall) :=
  match l with
  | .lua =>
    ((Lua.getVariablesHelper mem thd frame flags).attempt.run (Dialogue.left a) 0).2.map .inl
  | .python => (((Python.getVariablesHelper frame thd flags).attempt none).run a 0).2
  | .ruby =>
    ((Ruby.getVariablesHelper frame thd flags).attempt.run (Dialogue.left a) 0).2.map .inl

/-- A result of `getVariablesHelper` consists of typed objects of which `P` holds. -/
def VariablesAre (P : List DbgScriptTypedObject → Prop) : Prop :=
  match l with
  | .lua => ∀ r, ((Lua.getVariablesHelper mem thd frame flags).attempt.run
    (Dialogue.left a) 0).1 = .ok r → P r
  | .python => ∀ r, (((Python.getVariablesHelper frame thd flags).attempt none).run a 0).1.1 =
    some r → ∃ objs, r = .tuple (objs.map .typedObject) ∧ P objs
  | .ruby => ∀ r, ((Ruby.getVariablesHelper frame thd flags).attempt.run
    (Dialogue.left a) 0).1 = .ok r →
      ∃ objs, r = objs.map (fun obj => some (.typedObject obj)) ∧ P objs

/-- Every symbol group obtained is released exactly once; a result has one element for
    each symbol, made from its name and its entry. -/
structure Enumerates (env : ℕ → ScopeEnv) (dbg : ℕ → Debugger) : Prop where
  once : groupsObtained env dbg (variablesQuestions l a mem thd frame flags) ≤ 1
  released : groupsReleased (variablesQuestions l a mem thd frame flags) =
    groupsObtained env dbg (variablesQuestions l a mem thd frame flags)
  elements : VariablesAre l a mem thd frame flags fun objs =>
    objs.length = (Dialogue.left a 1 (.countStackFrameVariables thd frame flags)).2.toNat ∧
      ∀ i obj, objs[i]? = some obj →
        BuiltFrom (Dialogue.left a) 0 (variablesQuestions l a mem thd frame flags)
          (l.base mem i) i obj

end Helpers

/-- The thread and the frame can be switched to, and the engine creates a symbol group.
    In another thread the outermost frame is in scope. -/
structure ObtainsGroup (e : ScopeEnv) (thd : DbgScriptThread) (frame : DbgScriptStackFrame)
    (d : Debugger) : Prop where
  getThread : FAILED e.getThread = false
  setThread : d.thread ≠ thd.engineId → FAILED e.setThread = false
  getFrame : FAILED e.getFrame = false
  setFrame : (if d.thread = thd.engineId then d.frame else 0) ≠ frame.frameNumber →
    FAILED e.setFrame = false
  getSymbolGroup : FAILED e.getSymbolGroup = false

/-- Nothing makes the provider jump over the release: every object can be made, and in Ruby an
    array of that many elements. -/
def ReachesRelease (l : Language) (a : DebuggerAnswers) (numSym : ULONG) : Prop :=
  (l = .ruby → (numSym.toNat : ℤ) ≤ Ruby.ARY_MAX_SIZE) ∧
    (l ≠ .python → AllMade l a numSym.toNat 0 2)

/-- If a group is obtained, the debugger tells the number of symbols, and the release is
    reached. -/
def ReleasesGroup (l : Language) (a : PyAnswers) (env : ℕ → ScopeEnv) (dbg : ℕ → Debugger)
    (thd : DbgScriptThread) (frame : DbgScriptStackFrame) : Prop :=
  Dialogue.left a 0 .getInterrupt ≠ S_OK → ObtainsGroup (env 1) thd frame (dbg 1) →
    FAILED (env 1).getNumberSymbols = false ∧
      ReachesRelease l (Dialogue.left a) (env 1).numberSymbols

/-! ## Counting -/

section Counting

variable {e : ScopeEnv} {thd : DbgScriptThread} {frame : DbgScriptStackFrame} {d : Debugger}

/-- The thread guard lets its scope go on iff it can switch, and has switched then. -/
theorem threadGuard_entered (e : ScopeEnv) (thd : DbgScriptThread) (d : Debugger) :
    (FAILED ((threadGuard e thd).enter d).2.2 = false ↔
      FAILED e.getThread = false ∧ (d.thread ≠ thd.engineId → FAILED e.setThread = false)) ∧
    (FAILED ((threadGuard e thd).enter d).2.2 = false →
      ((threadGuard e thd).enter d).1.frame = if d.thread = thd.engineId then d.frame else 0) := by
  by_cases h : SwitchesThread e thd d
  · obtain ⟨hscope, hobj⟩ := threadGuard_enter h
    obtain ⟨hget, hne, hset⟩ := h
    rw [hobj]
    refine ⟨by simp [hget, hset], fun _ => ?_⟩
    rw [if_neg hne]
    exact congrArg Prod.snd hscope
  · obtain ⟨hidle, hentered⟩ := threadGuard_idle h
    rw [hentered]
    refine ⟨⟨fun hs => ⟨hs.1, fun hne => absurd hs.2 hne⟩, fun hs => ⟨hs.1, ?_⟩⟩, fun hs => ?_⟩
    · by_contra hne
      exact h ⟨hs.1, hne, hs.2 hne⟩
    · rw [if_pos hs.2]
      exact congrArg Prod.snd hidle.1

theorem frameGuard_entered (e : ScopeEnv) (d : Debugger) (idx : ULONG) :
    FAILED ((frameGuard e idx).enter d).2.2 = false ↔
      FAILED e.getFrame = false ∧ (d.frame ≠ idx → FAILED e.setFrame = false) := by
  show FAILED (CAutoSwitchStackFrame.switch e idx d).2.2 = false ↔ _
  cases hget : FAILED e.getFrame with
  | true => simp [CAutoSwitchStackFrame.switch, hget]
  | false =>
    by_cases heq : d.frame = idx
    · simp [CAutoSwitchStackFrame.switch, hget, heq]
    · cases hset : FAILED e.setFrame <;> simp [CAutoSwitchStackFrame.switch, hget, heq, hset]

/-- A group is created, or the code denotes failure. -/
theorem scopeSymbolGroup_cases (e : ScopeEnv) (d : Debugger) (thd : DbgScriptThread)
    (frame : DbgScriptStackFrame) (flags : ULONG) :
    ObtainsGroup e thd frame d ∧
        (scopeSymbolGroup e thd frame flags d).2.2 = some e.symbolGroup ∨
      ¬ ObtainsGroup e thd frame d ∧ (scopeSymbolGroup e thd frame flags d).2.2 = none ∧
        FAILED (scopeSymbolGroup e thd frame flags d).2.1 = true := by
  obtain ⟨hthread, hframe⟩ := threadGuard_entered e thd d
  rw [scopeSymbolGroup]
  cases ht : FAILED ((threadGuard e thd).enter d).2.2 with
  | true =>
    rw [Guards.scope_of_failed _ _ _ ht]
    refine .inr ⟨fun h => ?_, rfl, ht⟩
    rw [hthread.2 ⟨h.getThread, h.setThread⟩] at ht
    contradiction
  | false =>
    rw [Guards.scope_of_entered _ _ _ ht]
    have hentered := frameGuard_entered e ((threadGuard e thd).enter d).1 frame.frameNumber
    rw [hframe ht] at hentered
    cases hf : FAILED
        ((frameGuard e frame.frameNumber).enter ((threadGuard e thd).enter d).1).2.2 with
    | true =>
      rw [Guards.scope_of_failed _ _ _ hf]
      refine .inr ⟨fun h => ?_, rfl, hf⟩
      rw [hentered.2 ⟨h.getFrame, h.setFrame⟩] at hf
      contradiction
    | false =>
      rw [Guards.scope_of_entered _ _ _ hf]
      cases hg : FAILED e.getSymbolGroup with
      | true => exact .inr ⟨fun h => by simp [h.getSymbolGroup] at hg, by simp, by simp [hg]⟩
      | false =>
        obtain ⟨hget, hset⟩ := hthread.1 ht
        obtain ⟨hget', hset'⟩ := hentered.1 hf
        exact .inl ⟨⟨hget, hset, hget', hset', hg⟩, by simp⟩

/-- Counting obtains a group iff the scopes can be switched to and the engine creates one;
    then the code and the number are those of the engine. Otherwise it fails. -/
theorem countStackFrameVariables_cases (e : ScopeEnv) (d : Debugger) (thd : DbgScriptThread)
    (frame : DbgScriptStackFrame) (flags : ULONG) :
    let r := utilCountStackFrameVariables e thd frame flags 0 d
    ObtainsGroup e thd frame d ∧ r.2.2.2 = some e.symbolGroup ∧ r.2.1 = e.getNumberSymbols ∧
        (FAILED e.getNumberSymbols = false → r.2.2.1 = e.numberSymbols) ∨
      ¬ ObtainsGroup e thd frame d ∧ r.2.2.2 = none ∧ FAILED r.2.1 = true := by
  have hcases := scopeSymbolGroup_cases e d thd frame flags
  rw [utilCountStackFrameVariables]
  generalize scopeSymbolGroup e thd frame flags d = group at hcases
  obtain ⟨d', hr, symGrp⟩ := group
  obtain ⟨hobtains, hsome⟩ | ⟨hnot, hnone, hfailed⟩ := hcases
  · obtain rfl := hsome
    cases hn : FAILED e.getNumberSymbols <;> simp [hobtains, hn]
  · obtain rfl := hnone
    exact .inr ⟨hnot, rfl, hfailed⟩

end Counting

/-! ## The three providers -/

section Providers

variable {a : PyAnswers} {env : ℕ → ScopeEnv} {dbg : ℕ → Debugger} {thd : DbgScriptThread}
  {frame : DbgScriptStackFrame} {flags : ULONG} {l : Language}
  {mem : ℕ → DbgScriptTypedObject}

theorem groups_of_quiet (env : ℕ → ScopeEnv) (dbg : ℕ → Debugger)
    {rest : List (Request ⊕ PyCall)} (h : ∀ q ∈ rest, onSymbolGroup q = false)
    (k : ℕ) :
    let qs := .inl .getInterrupt :: .inl (.countStackFrameVariables thd frame flags) ::
      (rest ++ List.replicate k (.inl .releaseSymbolGroup))
    groupsObtained env dbg qs =
        (if (symbolGroup (env 1) (dbg 1) (.inl (.countStackFrameVariables thd frame flags))).isSome
          then 1 else 0) ∧
      groupsReleased qs = k := by
  intro qs
  have hnone : ∀ q ∈ rest ++ List.replicate k (.inl .releaseSymbolGroup), ∀ e d,
      symbolGroup e d q = none := by
    intro q hq e d
    rcases List.mem_append.1 hq with hq | hq
    · have hquiet := h q hq
      rcases q with (_ | _) | _ <;> trivial
    · rw [List.eq_of_mem_replicate hq]
      rfl
  constructor
  · have hzero : ((rest ++ List.replicate k (Sum.inl Request.releaseSymbolGroup)).mapIdx fun k q =>
        symbolGroup (env (k + 1 + 1)) (dbg (k + 1 + 1)) q).countP Option.isSome = 0 := by
      rw [List.countP_eq_zero]
      intro g hg
      obtain ⟨i, hi, rfl⟩ := List.mem_mapIdx.1 hg
      simp [hnone _ (List.getElem_mem hi)]
    rw [groupsObtained, List.mapIdx_cons, List.mapIdx_cons, List.countP_cons, List.countP_cons,
      hzero, Nat.zero_add]
    rfl
  · have hno : rest.countP (fun q => q = .inl .releaseSymbolGroup) = 0 := by
      rw [List.countP_eq_zero]
      intro q hq hrelease
      rw [of_decide_eq_true hrelease] at hq
      exact Bool.noConfusion (h _ hq)
    simp [qs, groupsReleased, hno, List.countP_replicate]

/-- An interrupt at the beginning. -/
theorem variables_interrupted (h : Dialogue.left a 0 .getInterrupt = S_OK)
    (P : List DbgScriptTypedObject → Prop) :
    variablesQuestions l a mem thd frame flags = [.inl .getInterrupt] ∧
      VariablesAre l a mem thd frame flags P := by
  cases l with
  | lua =>
    simp [variablesQuestions, VariablesAre, Lua.getVariablesHelper, Lua.checkAbort, h, Lua.raise]
  | python =>
    simp [variablesQuestions, VariablesAre, Python.getVariablesHelper, Python.checkAbort,
      Python.ds, h, Python.raise]
  | ruby =>
    simp [variablesQuestions, VariablesAre, Ruby.getVariablesHelper, Ruby.checkAbort, h,
      Ruby.rbRaise]

/-- The symbols cannot be counted. -/
theorem variables_uncounted (l : Language) (mem : ℕ → DbgScriptTypedObject)
    (h : Dialogue.left a 0 .getInterrupt ≠ S_OK)
    (hfail : FAILED (Dialogue.left a 1 (.countStackFrameVariables thd frame flags)).1 = true)
    (P : List DbgScriptTypedObject → Prop) :
    variablesQuestions l a mem thd frame flags =
        [.inl .getInterrupt, .inl (.countStackFrameVariables thd frame flags)] ∧
      VariablesAre l a mem thd frame flags P := by
  cases l with
  | lua =>
    simp [variablesQuestions, VariablesAre, Lua.getVariablesHelper, Lua.checkAbort, h, hfail,
      Lua.raise]
  | python =>
    simp [variablesQuestions, VariablesAre, Python.getVariablesHelper, Python.checkAbort,
      Python.ds, h, hfail, Python.raise]
  | ruby =>
    simp [variablesQuestions, VariablesAre, Ruby.getVariablesHelper, Ruby.checkAbort, h, hfail,
      Ruby.rbRaise]

/-- Once the symbols have been counted, the group is released at the end and a result has an
    object for each symbol, or an error is reported by a jump. -/
def CountedOutcome (l : Language) (a : PyAnswers) (mem : ℕ → DbgScriptTypedObject)
    (thd : DbgScriptThread) (frame : DbgScriptStackFrame) (flags : ULONG) : Prop :=
  let numSym := (Dialogue.left a 1 (.countStackFrameVariables thd frame flags)).2
  let qs := variablesQuestions l a mem thd frame flags
  ∃ rest, (∀ q ∈ rest, onSymbolGroup q = false) ∧
    (ReachesRelease l (Dialogue.left a) numSym ∧ qs = .inl .getInterrupt ::
        .inl (.countStackFrameVariables thd frame flags) :: (rest ++ [.inl .releaseSymbolGroup]) ∧
        (VariablesAre l a mem thd frame flags fun objs => objs.length = numSym.toNat ∧
          ∀ i obj, objs[i]? = some obj → BuiltFrom (Dialogue.left a) 0 qs (l.base mem i) i obj) ∨
      ¬ ReachesRelease l (Dialogue.left a) numSym ∧
        qs = .inl .getInterrupt :: .inl (.countStackFrameVariables thd frame flags) :: rest ∧
        ∀ P, VariablesAre l a mem thd frame flags P)

section Counted

variable {ε σ : Type} {a : DebuggerAnswers} {bases : ℕ → DbgScriptTypedObject}
  {inj : List DbgScriptTypedObject → σ}
  {callback : σ → DebugSymbolEntry → FixedStr CHAR MAX_SYMBOL_NAME_LEN → ℕ →
    Throws Request.Answer ε (HRESULT × σ)}

/-- The rest of `getVariablesHelper`, once the symbols have been counted: the objects, or an
    error if the loop has failed. -/
def enumerated (callback : σ → DebugSymbolEntry → FixedStr CHAR MAX_SYMBOL_NAME_LEN → ℕ →
    Throws Request.Answer ε (HRESULT × σ)) (error : HRESULT → ε) (numSym : ULONG) (acc : σ) :
    Throws Request.Answer ε σ := do
  let (hr, acc) ← utilEnumStackFrameVariables Throws.lift callback numSym acc
  if FAILED hr then Throws.throw (error hr) else return acc

theorem run_enumerated (h : JumpingCallback l a bases inj callback) (error : HRESULT → ε)
    (numSym : ULONG) (m : ℕ) : ∃ asked, (∀ q ∈ asked, q.onSymbolGroup = false) ∧
      (AllMade l a numSym.toNat 0 m ∧ (∃ r,
          (enumerated callback error numSym (inj [])).attempt.run a m =
            (r, asked ++ [.releaseSymbolGroup]) ∧
          ∀ acc, r = .ok acc → ∃ new, acc = inj new ∧ new.length = numSym.toNat ∧
            ∀ i obj, new[i]? = some obj →
              BuiltFrom a m (asked.map .inl) (bases i) i obj) ∨
        ¬ AllMade l a numSym.toNat 0 m ∧ ∃ e,
          (enumerated callback error numSym (inj [])).attempt.run a m = (.error e, asked)) := by
  have hcases := enumSymbols_throws h numSym.toNat [] m
  have hasks := (asks_enumSymbols h numSym.toNat 0 (inj [])).run (o := a) m
  rw [List.length_nil] at hcases
  generalize hrun : (enumSymbols Throws.lift callback numSym.toNat 0 (inj [])).attempt.run a m = r
    at hcases hasks
  obtain ⟨out, asked⟩ := r
  refine ⟨asked, hasks, ?_⟩
  obtain ⟨hall, hr, acc, rfl, hnew⟩ | ⟨hnot, e, rfl⟩ := hcases
  · refine .inl ⟨hall, if FAILED hr then .error (error hr) else .ok acc, ?_, fun acc' hacc => ?_⟩
    · by_cases hf : FAILED hr = true <;> simp [enumerated, utilEnumStackFrameVariables, hrun, hf]
    · by_cases hf : FAILED hr = true
      · simp [hf] at hacc
      · obtain rfl : acc = acc' := by simpa [hf] using hacc
        obtain ⟨new, rfl, hlen, hbuilt⟩ := hnew (by simpa using hf)
        exact ⟨new, rfl, hlen, fun i obj hobj => by simpa using hbuilt i obj hobj⟩
  · exact .inr ⟨hnot, e, by simp [enumerated, utilEnumStackFrameVariables, hrun]⟩

end Counted

/-- A run that goes on with `enumerated` after the questions of an interrupt and of the number
    of symbols. -/
theorem counted_of_enumerated {ε σ : Type} {inj : List DbgScriptTypedObject → σ}
    {callback : σ → DebugSymbolEntry → FixedStr CHAR MAX_SYMBOL_NAME_LEN → ℕ →
      Throws Request.Answer ε (HRESULT × σ)}
    (h : JumpingCallback l (Dialogue.left a) (l.base mem) inj callback) (hl : l ≠ .python)
    (error : HRESULT → ε)
    (hcap : l = .ruby → ((Dialogue.left a 1 (.countStackFrameVariables thd frame
      flags)).2.toNat : ℤ) ≤ Ruby.ARY_MAX_SIZE)
    (hqs : variablesQuestions l a mem thd frame flags =
      .inl .getInterrupt :: .inl (.countStackFrameVariables thd frame flags) ::
        ((enumerated callback error (Dialogue.left a 1 (.countStackFrameVariables thd frame
          flags)).2 (inj [])).attempt.run (Dialogue.left a) 2).2.map .inl)
    (hresult : ∀ P : List DbgScriptTypedObject → Prop,
      (∀ acc, ((enumerated callback error (Dialogue.left a 1 (.countStackFrameVariables thd
        frame flags)).2 (inj [])).attempt.run (Dialogue.left a) 2).1 = .ok acc →
          ∃ new, acc = inj new ∧ P new) →
        VariablesAre l a mem thd frame flags P) :
    CountedOutcome l a mem thd frame flags := by
  obtain ⟨asked, hasks, hcases⟩ := run_enumerated h error
    (Dialogue.left a 1 (.countStackFrameVariables thd frame flags)).2 2
  refine ⟨asked.map .inl, ?_, ?_⟩
  · intro q hq
    obtain ⟨r, hr, rfl⟩ := List.mem_map.1 hq
    exact hasks r hr
  obtain ⟨hall, r, hrun, hnew⟩ | ⟨hnot, e, hrun⟩ := hcases
  · rw [hrun] at hqs hresult
    have hqs' : variablesQuestions l a mem thd frame flags = .inl .getInterrupt ::
        .inl (.countStackFrameVariables thd frame flags) ::
          (asked.map .inl ++ [.inl .releaseSymbolGroup]) := by simpa using hqs
    refine .inl ⟨⟨hcap, fun _ => hall⟩, hqs', hresult _ fun acc hacc => ?_⟩
    obtain ⟨new, rfl, hlen, hbuilt⟩ := hnew acc hacc
    refine ⟨new, rfl, hlen, fun i obj hobj => ?_⟩
    rw [hqs']
    exact BuiltFrom.append (n := 0) [.inl .getInterrupt,
      .inl (.countStackFrameVariables thd frame flags)] [.inl .releaseSymbolGroup]
      (hbuilt i obj hobj)
  · rw [hrun] at hqs hresult
    refine .inr ⟨fun hc => hnot (hc.2 hl), by simpa using hqs, fun P => hresult P ?_⟩
    intro acc hacc
    exact absurd hacc (by simp)

/-- The error when the loop has failed. -/
def Lua.enumFailed (hr : HRESULT) : LuaError :=
  .error "UtilEnumStackFrameVariables failed. Error: 0x%08x" [.hr hr]

def Python.enumFailed (hr : HRESULT) : PyErr :=
  ⟨.OSError, "UtilEnumStackFrameVariables failed. Error: 0x%08x", [.hr hr]⟩

def Ruby.enumFailed (hr : HRESULT) : RubyError :=
  .raised .RuntimeError "UtilEnumStackFrameVariables failed. Error: 0x%08x" [.hr hr]

theorem Lua.run_getVariablesHelper {a : DebuggerAnswers} (mem : ℕ → DbgScriptTypedObject)
    (h : a 0 .getInterrupt ≠ S_OK)
    (hok : FAILED (a 1 (.countStackFrameVariables thd frame flags)).1 = false) :
    (getVariablesHelper mem thd frame flags).attempt.run a 0 =
      let r := (enumerated (buildArrayFromLocals mem) enumFailed
        (a 1 (.countStackFrameVariables thd frame flags)).2 []).attempt.run a 2
      (r.1, .getInterrupt :: .countStackFrameVariables thd frame flags :: r.2) := by
  simp [getVariablesHelper, checkAbort, h, hok, enumerated, raise, enumFailed]

/-- An array of that many elements is made, or it is an error. -/
theorem Ruby.rbAryNew2_of_le {numSym : ULONG} (h : (numSym.toNat : ℤ) ≤ ARY_MAX_SIZE) :
    rbAryNew2 numSym = pure [] := by
  have hmax : ARY_MAX_SIZE = 268435455 := rfl
  have hint : numSym.toInt = numSym.toNat := BitVec.toInt_eq_toNat_of_lt (by omega)
  rw [rbAryNew2, hint, if_neg (by omega), if_neg (by omega)]

theorem Ruby.rbAryNew2_of_lt {numSym : ULONG} (h : ARY_MAX_SIZE < numSym.toNat) :
    ∃ e : RubyError, rbAryNew2 numSym = Throws.throw e := by
  rw [rbAryNew2]
  by_cases hneg : numSym.toInt < 0
  · exact ⟨_, if_pos hneg⟩
  · have hint : numSym.toInt = numSym.toNat := by
      have hcond := BitVec.toInt_eq_toNat_cond numSym
      split at hcond <;> omega
    rw [if_neg hneg, if_pos (by omega)]
    exact ⟨_, rfl⟩

theorem Ruby.run_getVariablesHelper {a : DebuggerAnswers} (h : a 0 .getInterrupt ≠ S_OK)
    (hok : FAILED (a 1 (.countStackFrameVariables thd frame flags)).1 = false)
    (hcap : ((a 1 (.countStackFrameVariables thd frame flags)).2.toNat : ℤ) ≤ ARY_MAX_SIZE) :
    (getVariablesHelper frame thd flags).attempt.run a 0 =
      let r := (enumerated buildArrayFromLocals enumFailed
        (a 1 (.countStackFrameVariables thd frame flags)).2 []).attempt.run a 2
      (r.1, .getInterrupt :: .countStackFrameVariables thd frame flags :: r.2) := by
  have hnew := rbAryNew2_of_le hcap
  simp [getVariablesHelper, checkAbort, h, hok, hnew, enumerated, rbRaise, enumFailed]

theorem Lua.counted (h : Dialogue.left a 0 .getInterrupt ≠ S_OK)
    (hok : FAILED (Dialogue.left a 1 (.countStackFrameVariables thd frame flags)).1 = false) :
    CountedOutcome .lua a mem thd frame flags := by
  have hrun := run_getVariablesHelper mem h hok
  refine counted_of_enumerated (Lua.jumpingCallback mem) (fun h => Language.noConfusion h)
    enumFailed (fun h => Language.noConfusion h) ?_ ?_
  · rw [variablesQuestions, hrun]
    rfl
  · intro P hP r hr
    rw [hrun] at hr
    obtain ⟨new, rfl, hnew⟩ := hP r hr
    exact hnew

theorem Ruby.counted (h : Dialogue.left a 0 .getInterrupt ≠ S_OK)
    (hok : FAILED (Dialogue.left a 1 (.countStackFrameVariables thd frame flags)).1 = false) :
    CountedOutcome .ruby a mem thd frame flags := by
  by_cases hcap : ((Dialogue.left a 1 (.countStackFrameVariables thd frame flags)).2.toNat : ℤ) ≤
      ARY_MAX_SIZE
  · have hrun := run_getVariablesHelper h hok hcap
    refine counted_of_enumerated (Ruby.jumpingCallback mem) (fun h => Language.noConfusion h)
      enumFailed (fun _ => hcap) ?_ ?_
    · rw [variablesQuestions, hrun]
      rfl
    · intro P hP r hr
      rw [hrun] at hr
      exact hP r hr
  · obtain ⟨e, he⟩ := rbAryNew2_of_lt (not_le.1 hcap)
    refine ⟨[], by simp, .inr ⟨fun hc => hcap (hc.1 rfl), ?_, ?_⟩⟩
    · simp [variablesQuestions, getVariablesHelper, checkAbort, h, hok, he]
    · intro P r hr
      simp [getVariablesHelper, checkAbort, h, hok, he] at hr

theorem Python.run_newTuple (m : ℕ) : ∃ tuple flag, tuple.getD [] = [] ∧
    (newTuple.attempt none).run a m = ((some tuple, flag), [.inr .newObject]) := by
  cases hnew : a m (.inr .newObject) with
  | error e =>
    have hmade : ((newObject (.tuple [])).attempt none).run a m =
        ((none, some e), [.inr .newObject]) := by
      rw [attempt_newObject, Dialogue.run_ask, hnew]
      rfl
    exact ⟨none, some e, rfl, by simp [newTuple, hmade]⟩
  | ok u =>
    have hmade : ((newObject (.tuple [])).attempt none).run a m =
        ((some (.tuple []), none), [.inr .newObject]) := by
      rw [attempt_newObject, Dialogue.run_ask, hnew]
      rfl
    exact ⟨some [], none, rfl, by simp [newTuple, hmade]⟩

theorem Python.run_getVariablesHelper {tuple tuple' : Tuple} {flag flag' : Option PyErr}
    {hr : HRESULT} {asked : List (Request ⊕ PyCall)} (h : Dialogue.left a 0 .getInterrupt ≠ S_OK)
    (hok : FAILED (Dialogue.left a 1 (.countStackFrameVariables thd frame flags)).1 = false)
    (hnew : (newTuple.attempt none).run a 2 = ((some tuple, flag), [.inr .newObject]))
    (hrun : ((enumSymbols ds buildTupleFromLocals (Dialogue.left a 1 (.countStackFrameVariables
      thd frame flags)).2.toNat 0 tuple).attempt flag).run a 3 =
        ((some (hr, tuple'), flag'), asked)) :
    ((getVariablesHelper frame thd flags).attempt none).run a 0 =
      ((if FAILED hr then none else tuple'.map .tuple,
          if FAILED hr then some (enumFailed hr) else flag'),
        .inl .getInterrupt :: .inl (.countStackFrameVariables thd frame flags) ::
          (.inr .newObject :: asked ++ [.inl .releaseSymbolGroup])) := by
  by_cases hf : FAILED hr = true
  · simp [getVariablesHelper, checkAbort, h, hok, hnew, ds, utilEnumStackFrameVariables, hrun, hf,
      raise, enumFailed]
  · cases tuple' <;> simp [getVariablesHelper, checkAbort, h, hok, hnew, ds,
      utilEnumStackFrameVariables, hrun, hf, returnTuple]

theorem Python.counted (h : Dialogue.left a 0 .getInterrupt ≠ S_OK)
    (hok : FAILED (Dialogue.left a 1 (.countStackFrameVariables thd frame flags)).1 = false) :
    CountedOutcome .python a mem thd frame flags := by
  obtain ⟨tuple, flag, htuple, hnew⟩ := run_newTuple (a := a) 2
  obtain ⟨hr, tuple', flag', hresult, hobjs⟩ := enumSymbols_flagged (a := a)
    (Dialogue.left a 1 (.countStackFrameVariables thd frame flags)).2.toNat 0 tuple flag 3
  have hasks := (asks_enumSymbols (Dialogue.left a 1 (.countStackFrameVariables thd frame
    flags)).2.toNat 0 tuple flag).run (o := a) 3
  generalize hrun : ((enumSymbols ds buildTupleFromLocals (Dialogue.left a 1
    (.countStackFrameVariables thd frame flags)).2.toNat 0 tuple).attempt flag).run a 3 = r
      at hresult hobjs hasks
  obtain ⟨out, asked⟩ := r
  obtain rfl : out = _ := hresult
  have hall := run_getVariablesHelper h hok hnew hrun
  refine ⟨.inr .newObject :: asked, ?_, .inl ⟨⟨fun h => Language.noConfusion h,
    fun h => absurd rfl h⟩, ?_, ?_⟩⟩
  · intro q hq
    rcases List.mem_cons.1 hq with rfl | hq
    · rfl
    · exact hasks q hq
  · rw [variablesQuestions, hall]
  · intro r hreturn
    rw [hall] at hreturn
    by_cases hf : FAILED hr = true
    · simp [hf] at hreturn
    · obtain ⟨new, rfl, hlen, hbuilt⟩ := hobjs (by simpa using hf)
      cases tuple with
      | none => simp at hreturn
      | some items =>
        obtain rfl : items = [] := htuple
        obtain rfl : .tuple (new.map .typedObject) = r := by simpa [hf] using hreturn
        refine ⟨new, rfl, hlen, fun i obj hobj => ?_⟩
        have happ := BuiltFrom.append (n := 0) [.inl .getInterrupt,
          .inl (.countStackFrameVariables thd frame flags), .inr .newObject]
          [.inl .releaseSymbolGroup] (hbuilt i obj hobj)
        rw [variablesQuestions, hall]
        simpa [Language.base] using happ

theorem variables_counted (l : Language) (mem : ℕ → DbgScriptTypedObject)
    (h : Dialogue.left a 0 .getInterrupt ≠ S_OK)
    (hok : FAILED (Dialogue.left a 1 (.countStackFrameVariables thd frame flags)).1 = false) :
    CountedOutcome l a mem thd frame flags := by
  cases l with
  | lua => exact Lua.counted h hok
  | python => exact Python.counted h hok
  | ruby => exact Ruby.counted h hok

/-- What the questions of a run say of the groups, given what a result is made of. -/
theorem enumerates_iff_of_questions (rest : List (Request ⊕ PyCall)) (k : ℕ)
    (hquiet : ∀ q ∈ rest, onSymbolGroup q = false)
    (hqs : variablesQuestions l a mem thd frame flags = .inl .getInterrupt ::
      .inl (.countStackFrameVariables thd frame flags) ::
        (rest ++ List.replicate k (.inl .releaseSymbolGroup)))
    (hobjs : VariablesAre l a mem thd frame flags fun objs =>
      objs.length = (Dialogue.left a 1 (.countStackFrameVariables thd frame flags)).2.toNat ∧
        ∀ i obj, objs[i]? = some obj →
          BuiltFrom (Dialogue.left a) 0 (variablesQuestions l a mem thd frame flags)
            (l.base mem i) i obj) :
    Enumerates l a mem thd frame flags env dbg ↔
      k = if (symbolGroup (env 1) (dbg 1) (.inl (.countStackFrameVariables thd frame
        flags))).isSome then 1 else 0 := by
  obtain ⟨hobtained, hreleased⟩ := groups_of_quiet env dbg hquiet k
  rw [← hqs] at hobtained hreleased
  constructor
  · intro h
    rw [← hreleased, h.released, hobtained]
  · intro hk
    refine ⟨?_, ?_, hobjs⟩
    · rw [hobtained]
      split_ifs <;> simp
    · rw [hreleased, hobtained, hk]

/-- In each provider, every symbol group that is obtained is released exactly once and a
    result has an object for each symbol, iff the debugger tells the number of symbols and
    nothing makes the provider jump over the release. -/
theorem enumerates_iff (l : Language) (a : PyAnswers) (env : ℕ → ScopeEnv) (dbg : ℕ → Debugger)
    (mem : ℕ → DbgScriptTypedObject) (thd : DbgScriptThread) (frame : DbgScriptStackFrame)
    (flags : ULONG) :
    Enumerates l (throughScope a env dbg) mem thd frame flags env dbg ↔
      ReleasesGroup l (throughScope a env dbg) env dbg thd frame := by
  by_cases hint : Dialogue.left (throughScope a env dbg) 0 .getInterrupt = S_OK
  · refine iff_of_true ⟨?_, ?_, ?_⟩ fun h => absurd hint h
    · rw [(variables_interrupted hint fun _ => True).1]
      exact Nat.zero_le 1
    · rw [(variables_interrupted hint fun _ => True).1]
      rfl
    · exact (variables_interrupted hint _).2
  let counted := utilCountStackFrameVariables (env 1) thd frame flags 0 (dbg 1)
  have hanswer : Dialogue.left (throughScope a env dbg) 1
      (.countStackFrameVariables thd frame flags) = (counted.2.1, counted.2.2.1) := rfl
  have hgroup : symbolGroup (env 1) (dbg 1) (.inl (.countStackFrameVariables thd frame flags)) =
      counted.2.2.2 := rfl
  obtain ⟨hobtains, hsome, hcode, hnum⟩ | ⟨hnot, hnone, hfail⟩ :=
    countStackFrameVariables_cases (env 1) (dbg 1) thd frame flags
  · cases hn : FAILED (env 1).getNumberSymbols with
    | true =>
      -- the group is created, but not counted
      have hrun := variables_uncounted l mem hint (by rw [hanswer, hcode]; exact hn)
      rw [enumerates_iff_of_questions [] 0 (List.forall_mem_nil _) (hrun fun _ => True).1
        (hrun _).2, hgroup, hsome]
      refine iff_of_false Nat.zero_ne_one fun h => ?_
      have hok := (h hint hobtains).1
      rw [hn] at hok
      contradiction
    | false =>
      have hnum' : (Dialogue.left (throughScope a env dbg) 1
          (.countStackFrameVariables thd frame flags)).2 = (env 1).numberSymbols := hnum hn
      obtain ⟨rest, hquiet, ⟨hreturns, hqs, hobjs⟩ | ⟨hjumps, hqs, hobjs⟩⟩ :=
        variables_counted l mem hint (by rw [hanswer, hcode]; exact hn)
      · rw [enumerates_iff_of_questions rest 1 hquiet hqs hobjs, hgroup, hsome]
        rw [hnum'] at hreturns
        exact iff_of_true rfl fun _ _ => ⟨hn, hreturns⟩
      · rw [enumerates_iff_of_questions rest 0 hquiet (by simpa using hqs) (hobjs _), hgroup,
          hsome]
        rw [hnum'] at hjumps
        exact iff_of_false Nat.zero_ne_one fun h => hjumps (h hint hobtains).2
  · -- no group is created
    have hrun := variables_uncounted l mem hint (by rw [hanswer]; exact hfail)
    rw [enumerates_iff_of_questions [] 0 (List.forall_mem_nil _) (hrun fun _ => True).1
      (hrun _).2, hgroup, hnone]
    exact iff_of_true rfl fun _ h => absurd h hnot

end Providers

/-- An interrupt after the first question, and symbols of a type without a name. -/
def namelessSymbols : PyAnswers
  | k, .inl .getInterrupt => if k = 0 then S_FALSE else S_OK
  | _, .inl (.getSymbolEntryInformation _) => (S_OK, ⟨0x400000#64, 0x12ff00#64, 4, 1⟩)
  | _, .inl r => (default : r.Answer)
  | _, .inr c => c.succeeds

/-- Two locals of which the first cannot be made into an object, in Lua by an interrupt, in
    Ruby since its type has no name: the group is not released. Nor is it, in Python, if the
    debugger does not tell how many locals there are. -/
theorem symbolGroup_leaks :
    let uncounted : ScopeEnv := { ScopeEnv.succeeding with getNumberSymbols := E_FAIL }
    let thd : DbgScriptThread := ⟨0, 0x1a4⟩
    let frame : DbgScriptStackFrame := ⟨0, 0x77a01000#64⟩
    let dbg : ℕ → Debugger := fun _ => ⟨0, 0, []⟩
    let answers (e : ScopeEnv) : PyAnswers := throughScope namelessSymbols (fun _ => e) dbg
    ¬ Enumerates .lua (answers .succeeding) (fun _ => .zero) thd frame 2 (fun _ => .succeeding)
        dbg ∧
      ¬ Enumerates .ruby (answers .succeeding) (fun _ => .zero) thd frame 2
        (fun _ => .succeeding) dbg ∧
      ¬ Enumerates .python (answers uncounted) (fun _ => .zero) thd frame 2 (fun _ => uncounted)
        dbg := by
  refine ⟨fun h => ?_, fun h => ?_, fun h => ?_⟩
  · exact absurd h.released (by decide)
  · exact absurd h.released (by decide)
  · exact absurd h.released (by decide)

end DbgScript
