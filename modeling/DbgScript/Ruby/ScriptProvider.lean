import DbgScript.Support.ScriptLookup
import DbgScript.Support.ScriptOutput

/-!
# Running Ruby scripts

`Run` and `RunString` of `CRubyScriptProvider` (src/rubyprov/rubyscriptprovider.cpp), with the
blocks on the heap that hold the arguments in ANSI. The interpreter lives as long as the VM.

* `run_of_found`: what a run that finds its script allocates, whatever becomes of it.
* `no_block_left_iff`: no block is left behind in a session iff no `Run` of it finds its script.
-/

namespace DbgScript.Ruby

/-! ## Model -/

/-- An exception that a script does not rescue: its class, the status with which `message`
    fails, or the message, and the frames of `backtrace`, unless that raises again. -/
structure UnhandledException where
  className : List CHAR
  message : Except (BitVec 32) (List CHAR)
  backtrace : Option (List (List CHAR))

/-- What a run meets: the files, `wcstombs_s` for the size of its buffer and the count of
    bytes to store, the exceptions that leave `rb_load` and `rb_eval_string`, and what the
    script does to the output. -/
structure RunEnv where
  files : FileEnv
  wcstombs : ℕ → ℕ → List WCHAR → Except CInt (List CHAR)
  load : List CHAR → Option UnhandledException
  evalString : List CHAR → Option UnhandledException
  acts : List OutputOp

/-- The interpreter: `$0` and `ARGV`, once they have been set, and the number of blocks that
    the provider has allocated and not freed. -/
structure VM where
  script : Option (List CHAR)
  argv : Option (List (List CHAR))
  blocks : ℕ

/-- The interpreter after `StartVM`. -/
def startVM : VM := ⟨none, none, 0⟩

/-- `topLevelExceptionHandler` (src/rubyprov/rubyscriptprovider.cpp:140-192). `backtrace` is not
    protected: an exception that leaves it leaves `Run`. -/
def topLevelExceptionHandler (exc : UnhandledException) (h : Host) : Option Host :=
  match exc.message with
  | .error status => some (scriptStep h (.rubyNoMessage status))
  | .ok message =>
    let h := scriptStep h (.rubyException exc.className message)
    exc.backtrace.map fun frames => scriptStep h (.rubyStackTrace frames)

/-- `rb_rescue2` around a script (src/rubyprov/rubyscriptprovider.cpp:308-314, 334-340). -/
def rescue (acts : List OutputOp) (raised : Option UnhandledException) (h : Host) : Option Host :=
  let h := Runs.run outputStep h acts
  match raised with
  | none => some h
  | some exc => topLevelExceptionHandler exc h

/-- The loop of `narrowArgvFromWide` over the arguments
    (src/rubyprov/rubyscriptprovider.cpp:208-234): the blocks it has allocated, and the arguments
    or the error of the one that cannot be converted. -/
def narrowArgs (e : RunEnv) : List (List WCHAR) → ℕ × Except CInt (List (List CHAR))
  | [] => (0, .ok [])
  | arg :: argv =>
    let cbAnsiArg := arg.length + 1
    match e.wcstombs cbAnsiArg (cbAnsiArg - 1) arg with
    | .error err => (1, .error err)
    | .ok ansiArg =>
      ((narrowArgs e argv).1 + 1, (narrowArgs e argv).2.map (ansiArg :: ·))

/-- `narrowArgvFromWide(argc, argv, narrowArgv)` (src/rubyprov/rubyscriptprovider.cpp:194-238). -/
def narrowArgvFromWide (e : RunEnv) (argv : List (List WCHAR)) (s : VM) (h : Host) :
    VM × Except (Host × HRESULT) (List (List CHAR)) :=
  let s := { s with blocks := s.blocks + 1 + (narrowArgs e argv).1 }
  match (narrowArgs e argv).2 with
  | .error err =>
    (s, .error (h.output DEBUG_OUTPUT_ERROR
      "Error: Failed to convert wide string to ANSI: %d.\n" [.hex err], E_FAIL))
  | .ok narrowArgv => (s, .ok narrowArgv)

/-- `CRubyScriptProvider::Run` (src/rubyprov/rubyscriptprovider.cpp:254-318); none if an exception
    leaves it. -/
def run (e : RunEnv) (argv : List (List WCHAR)) (s : VM) (h : Host) :
    Option (VM × Host × HRESULT) :=
  match argv with
  | [] =>
    some (s, h.output DEBUG_OUTPUT_ERROR "Error: No arguments given.\n" [], E_INVALIDARG)
  | name :: args =>
    let (h, hr, fullScriptName) :=
      utilFindScriptFile e.files name [] (BitVec.ofNat 32 MAX_PATH) h
    if FAILED hr then some (s, h, hr)
    else
      match narrowArgvFromWide e (fullScriptName :: args) s h with
      | (s, .error (h, hr)) => some (s, h, hr)
      | (s, .ok narrowArgv) =>
        let name := narrowArgv.headD []
        let s := { s with script := some name, argv := some narrowArgv }
        (rescue e.acts (e.load name) h).map fun h => (s, h, S_OK)

/-- `CRubyScriptProvider::RunString` (src/rubyprov/rubyscriptprovider.cpp:320-343). -/
def runString (e : RunEnv) (scriptString : List CHAR) (s : VM) (h : Host) :
    Option (VM × Host × HRESULT) :=
  (rescue e.acts (e.evalString scriptString) h).map fun h => (s, h, S_OK)

/-! ## Sessions -/

/-- A call of the provider. The host may have changed in any way since the last one. -/
inductive RubyCall where
  | run (e : RunEnv) (argv : List (List WCHAR)) (h : Host)
  | runString (e : RunEnv) (scriptString : List CHAR) (h : Host)

/-- The interpreter after a call that returns. -/
def RubyCall.exec (s : VM) : RubyCall → Option VM
  | .run e argv h => (Ruby.run e argv s h).map Prod.fst
  | .runString e scriptString h => (Ruby.runString e scriptString s h).map Prod.fst

/-- The interpreter after the calls, if all of them return. -/
def session (s : VM) (calls : List RubyCall) : Option VM :=
  Runs.run (Runs.partialStep RubyCall.exec) (some s) calls

/-! ## Specification -/

/-- The file of a script, if the `Run` finds one. -/
def RunEnv.found (e : RunEnv) (argv : List (List WCHAR)) (h : Host) : Option (List WCHAR) :=
  match argv with
  | [] => none
  | name :: _ =>
    let (_, hr, fullScriptName) := utilFindScriptFile e.files name [] (BitVec.ofNat 32 MAX_PATH) h
    if FAILED hr then none else some fullScriptName

/-- The arguments that can be converted, one after the other. -/
def RunEnv.convertible (e : RunEnv) (argv : List (List WCHAR)) : List (List WCHAR) :=
  argv.takeWhile fun arg => (e.wcstombs (arg.length + 1) arg.length arg).isOk

/-- The blocks that the call leaves behind: the array, one for every argument that can be
    converted, and one for the first that cannot. -/
def RubyCall.leaves : RubyCall → ℕ
  | .run e argv h =>
    match e.found argv h with
    | none => 0
    | some fullScriptName =>
      let argv := fullScriptName :: argv.tail
      1 + min ((e.convertible argv).length + 1) argv.length
  | .runString _ _ _ => 0

/-- The call is a `Run`, and finds its script. -/
def RubyCall.Finds : RubyCall → Prop
  | .run e argv h => (e.found argv h).isSome
  | .runString _ _ _ => False

/-! ## Arguments -/

variable {e : RunEnv} {s s' : VM} {h h' : Host} {hr : HRESULT} {argv : List (List WCHAR)}

theorem narrowArgs_blocks (e : RunEnv) (argv : List (List WCHAR)) :
    (narrowArgs e argv).1 = min ((e.convertible argv).length + 1) argv.length := by
  induction argv with
  | nil => rfl
  | cons arg argv ih =>
    rw [narrowArgs, RunEnv.convertible, List.takeWhile_cons]
    simp only [Nat.add_sub_cancel]
    cases e.wcstombs (arg.length + 1) arg.length arg with
    | error err => simp [Except.isOk, Except.toBool]
    | ok ansiArg =>
      rw [RunEnv.convertible] at ih
      simp [ih, Except.isOk, Except.toBool]

/-! ## Runs -/

/-- A run that does not find its script changes nothing. -/
theorem run_of_not_found (hfound : e.found argv h = none)
    (hrun : run e argv s h = some (s', h', hr)) : s' = s := by
  cases argv with
  | nil => exact (Prod.mk.inj (Option.some.inj hrun)).1.symm
  | cons name args =>
    rw [RunEnv.found] at hfound
    rw [run] at hrun
    dsimp only at hfound hrun
    split_ifs at hfound hrun with hfail
    exact (Prod.mk.inj (Option.some.inj hrun)).1.symm

/-- A run that finds its script leaves the blocks of its arguments behind, whatever becomes
    of the script. -/
theorem run_of_found {fullScriptName : List WCHAR} (hfound : e.found argv h = some fullScriptName)
    (hrun : run e argv s h = some (s', h', hr)) :
    s'.blocks = s.blocks + 1 + (narrowArgs e (fullScriptName :: argv.tail)).1 := by
  cases argv with
  | nil => cases hfound
  | cons name args =>
    rw [RunEnv.found] at hfound
    rw [run] at hrun
    dsimp only at hfound hrun
    split_ifs at hfound hrun with hfail
    rw [Option.some.inj hfound, narrowArgvFromWide] at hrun
    dsimp only [List.tail_cons] at hrun ⊢
    cases hnarrow : (narrowArgs e (fullScriptName :: args)).2 with
    | error err =>
      rw [hnarrow] at hrun
      obtain ⟨rfl, -⟩ := Prod.mk.inj (Option.some.inj hrun)
      rfl
    | ok narrowArgv =>
      rw [hnarrow] at hrun
      obtain ⟨h₁, -, hout⟩ := Option.map_eq_some_iff.1 hrun
      obtain ⟨rfl, -⟩ := Prod.mk.inj hout
      rfl

theorem blocks_exec {c : RubyCall} (hexec : c.exec s = some s') :
    s'.blocks = s.blocks + c.leaves := by
  cases c with
  | run e argv h =>
    obtain ⟨⟨s₁, h₁, hr⟩, hrun, hout⟩ := Option.map_eq_some_iff.1 hexec
    obtain rfl : s₁ = s' := hout
    rw [RubyCall.leaves]
    cases hfound : e.found argv h with
    | none => rw [run_of_not_found hfound hrun, Nat.add_zero]
    | some fullScriptName =>
      rw [run_of_found hfound hrun, narrowArgs_blocks, Nat.add_assoc]
  | runString e scriptString h =>
    obtain ⟨⟨s₁, h₁, hr⟩, hrun, hout⟩ := Option.map_eq_some_iff.1 hexec
    obtain rfl : s₁ = s' := hout
    obtain ⟨h₂, -, hout⟩ := Option.map_eq_some_iff.1 hrun
    obtain ⟨rfl, -⟩ := Prod.mk.inj hout
    rfl

theorem leaves_eq_zero_iff (c : RubyCall) : c.leaves = 0 ↔ ¬ c.Finds := by
  cases c with
  | run e argv h =>
    rw [RubyCall.leaves, RubyCall.Finds]
    cases e.found argv h with
    | none => simp
    | some fullScriptName => simp
  | runString e scriptString h => exact ⟨fun _ => id, fun _ => rfl⟩

/-! ## Sessions -/

theorem session_blocks {calls : List RubyCall} (hreturns : session s calls = some s') :
    s'.blocks = s.blocks + (calls.map RubyCall.leaves).sum := by
  induction calls generalizing s with
  | nil =>
    obtain rfl : s = s' := Option.some.inj hreturns
    rfl
  | cons c calls ih =>
    obtain ⟨s₁, hexec, hrest⟩ := Runs.exists_of_run_partialStep hreturns
    rw [ih hrest, blocks_exec hexec, List.map_cons, List.sum_cons, Nat.add_assoc]

theorem blocks_eq_zero_iff {calls : List RubyCall} (hreturns : session startVM calls = some s') :
    (∀ k sk, session startVM (calls.take k) = some sk → sk.blocks = 0) ↔
      ∀ c ∈ calls, ¬ c.Finds := by
  have hstep : ∀ (s : VM) (c : RubyCall) s', s.blocks = 0 → c.exec s = some s' →
      (s'.blocks = 0 ↔ ¬ c.Finds) := by
    intro s c s' hs hexec
    rw [blocks_exec hexec, hs, Nat.zero_add]
    exact leaves_eq_zero_iff c
  exact Runs.take_iff_forall hstep rfl hreturns

/-- No block is left behind by the calls of a session iff none of them is a `Run` that finds
    its script; each of these leaves its array behind and its arguments, up to the first that
    cannot be converted. -/
theorem no_block_left_iff {calls : List RubyCall} (hreturns : session startVM calls = some s') :
    ((∀ k sk, session startVM (calls.take k) = some sk → sk.blocks = 0) ↔
      ∀ c ∈ calls, ¬ c.Finds) ∧
      ∀ k sk, session startVM (calls.take k) = some sk →
        sk.blocks = ((calls.take k).map RubyCall.leaves).sum := by
  refine ⟨blocks_eq_zero_iff hreturns, fun k sk hk => ?_⟩
  rw [session_blocks hk, startVM, Nat.zero_add]

/-! ## A session -/

/-- Everything is a file, and no script fails. -/
def smallEnv : RunEnv where
  files := ⟨fun _ => 0x20#32, fun s => s.map fun c => c.toNat.toUInt16⟩
  wcstombs _ _ s := .ok (s.map fun c => c.toNat.toUInt8)
  load _ := none
  evalString _ := none
  acts := []

/-- `a.rb x`, and then a string. -/
def smallCalls : List RubyCall :=
  [.run smallEnv [[97, 46, 114, 98], [120]] (Host.fresh fun _ => none),
    .runString smallEnv [120] (Host.fresh fun _ => none)]

/-- The array and the two arguments are left behind. -/
theorem session_smallCalls :
    session startVM smallCalls =
      some ⟨some [97, 46, 114, 98], some [[97, 46, 114, 98], [120]], 3⟩ :=
  rfl

theorem smallCalls_no_block_left_iff :
    ((∀ k sk, session startVM (smallCalls.take k) = some sk → sk.blocks = 0) ↔
      ∀ c ∈ smallCalls, ¬ c.Finds) ∧
      ∀ k sk, session startVM (smallCalls.take k) = some sk →
        sk.blocks = ((smallCalls.take k).map RubyCall.leaves).sum :=
  no_block_left_iff session_smallCalls

end DbgScript.Ruby
