import DbgScript.Lib.LuaApi
import DbgScript.Support.ScriptLookup
import DbgScript.Support.ScriptOutput

/-!
# Running Lua scripts

`Run` and `RunString` of `CLuaScriptProvider` (src/luaprov/luascriptprovider.cpp:215-469)
and what they do to the stack of the Lua state, which lives as long as the VM. `Run` puts
the message handler below the chunk; the call takes the chunk away, and nothing takes the
handler away.

* `run_of_loads`: a run that loads a script leaves at least its handler on the stack.
* `session_neutral_iff`: the calls of a session are stack-neutral iff no `Run` among them
  gets as far as a compiled script.
-/

namespace DbgScript.Lua

open LuaApi (ErrorCode Interp State)

variable {V H : Type}

/-! ## Model -/

/-- What a run meets: the files, `wcstombs_s` for the size of its buffer, the address of
    `ansiScriptFileName`, the compiler, the script, and what it does to the output. -/
structure RunEnv (V H : Type) where
  files : FileEnv
  wcstombs : ℕ → List WCHAR → Except CInt (List CHAR)
  fileNameAddr : UINT64
  compile : List CHAR → H → Except (ErrorCode × V) V × H
  call : V → Option V → H → Option (ErrorCode × V) × H
  acts : List ScriptAct

/-- The loop over the switches (src/luaprov/luascriptprovider.cpp:232-255): whether to
    debug, and the arguments that are left; or a switch that is unknown. -/
def parseSwitches : Bool → List (List WCHAR) → Except (List WCHAR) (Bool × List (List WCHAR))
  | debug, [] => .ok (debug, [])
  | debug, arg :: argv =>
    if arg.head? ≠ some 45 then .ok (debug, arg :: argv)
    else if arg = [45, 100] then parseSwitches true argv
    else .error arg

/-- `Run` up to the compilation (src/luaprov/luascriptprovider.cpp:220-302): what is to be
    run, or how it ends. -/
def findScript (e : RunEnv V H) (argv : List (List WCHAR)) (h : Host) :
    Except (Host × HRESULT) (Bool × List (List WCHAR) × List CHAR × Host) :=
  match parseSwitches false argv with
  | .error arg =>
    .error (h.output DEBUG_OUTPUT_ERROR "Error: Unknown switch '%ls'.\n" [.wstr arg], E_INVALIDARG)
  | .ok (_, []) =>
    .error (h.output DEBUG_OUTPUT_ERROR "Error: No arguments given.\n" [], E_INVALIDARG)
  | .ok (debug, arg :: args) =>
    let (h, hr, fullScriptName) :=
      utilFindScriptFile e.files arg [] (BitVec.ofNat 32 MAX_PATH) h
    if FAILED hr then .error (h, hr)
    else
      match e.wcstombs MAX_PATH fullScriptName with
      | .error err =>
        .error (h.output DEBUG_OUTPUT_ERROR
          "Error: Failed to convert wide string to ANSI: %d.\n" [.hex err], E_FAIL)
      | .ok ansiScriptFileName => .ok (debug, fullScriptName :: args, ansiScriptFileName, h)

variable (M : Interp V H)

/-- The loop over the arguments (src/luaprov/luascriptprovider.cpp:354-378), with the error
    of an argument that cannot be converted. -/
def setArgs (toAnsi : List WCHAR → Except CInt (List CHAR)) :
    ℕ → List (List WCHAR) → State V H → State V H × Option CInt
  | _, [], L => (L, none)
  | i, arg :: args, L =>
    match toAnsi arg with
    | .error err => (L, some err)
    | .ok ansiBuf =>
      setArgs toAnsi (i + 1) args (LuaApi.rawseti M 2 i (LuaApi.pushstring M ansiBuf L))

/-- `strrchr(s, c)`, as an index. -/
def strrchr (s : List CHAR) (c : CHAR) : Option ℕ :=
  (s.reverse.idxOf? c).map fun i => s.length - 1 - i

/-- The template that is added to `package.path`. The precision of `%.*s` is the low part of
    a difference of pointers; a negative one counts for nothing. -/
def newPath (fullScriptPath : List CHAR) (addr : UINT64) : List CHAR :=
  let backSlash : UINT64 :=
    match strrchr fullScriptPath 92 with
    | some i => addr + BitVec.ofNat 64 i
    | none => 0
  let precision : CInt := (backSlash - addr).setWidth 32
  let dir := if precision.toInt < 0 then fullScriptPath else fullScriptPath.take precision.toNat
  (59 :: dir ++ [92, 63, 46, 108, 117, 97]).take MAX_PATH

/-- `appendScriptPathToPackagePath(L, fullScriptPath)` in a release build
    (src/luaprov/luascriptprovider.cpp:171-213). -/
def appendScriptPathToPackagePath (fullScriptPath : List CHAR) (addr : UINT64) (L : State V H) :
    Option (State V H) := do
  let L ← LuaApi.getglobal M "package" L
  let L ← LuaApi.getfield M 1 "path" L
  let L := LuaApi.pushstring M (newPath fullScriptPath addr) L
  let L ← LuaApi.concat M L
  let L ← LuaApi.setfield M 2 "path" L
  return LuaApi.pop 1 L

/-- The end of `Run` and of `RunString`: the chunk on the top is called
    (src/luaprov/luascriptprovider.cpp:389-411, 445-468). -/
def callChunk (e : RunEnv V H) (msgh : ℕ) (L : State V H) (h : Host) :
    State V H × Host × HRESULT :=
  let (L, err) := LuaApi.pcall e.call msgh L
  let h := Runs.run scriptStep h e.acts
  if err ≠ 0 then
    let h := scriptStep h (.luaError err (LuaApi.tostring M 1 L))
    (LuaApi.pop 1 L, h, E_FAIL)
  else (L, h, S_OK)

/-- `Run` with the chunk on the top (src/luaprov/luascriptprovider.cpp:322-411). -/
def runChunk (e : RunEnv V H) (debug : Bool) (args : List (List WCHAR)) (name : List CHAR)
    (L : State V H) (h : Host) : Option (State V H × Host × HRESULT) := do
  let L ← LuaApi.getglobal M "debug" L
  let L ← LuaApi.getfield M 1 (if debug then "debug" else "traceback") L
  -- the handler takes the place of the module, and then goes below the chunk
  let L := LuaApi.remove 2 L
  let L := LuaApi.insert 2 L
  let L := LuaApi.createtable M L
  match setArgs M (e.wcstombs 1024) 0 args L with
  | (L, some err) =>
    return (L, h.output DEBUG_OUTPUT_ERROR "Error: Failed to convert wide string to ANSI: %d.\n"
      [.hex err], E_FAIL)
  | (L, none) =>
    let L ← LuaApi.setglobal M "arg" L
    let L ← appendScriptPathToPackagePath M name e.fileNameAddr L
    return callChunk M e 2 L h

/-- A chunk that does not compile leaves a message, which is printed and popped
    (src/luaprov/luascriptprovider.cpp:306-320, 427-441). -/
def compileFailed (err : BitVec 32) (L : State V H) (h : Host) : State V H × Host × HRESULT :=
  (LuaApi.pop 1 L, h.output DEBUG_OUTPUT_ERROR "Lua compile error %d: %s\n"
    [.hex err, .str (LuaApi.tostring M 1 L)], E_FAIL)

/-- `CLuaScriptProvider::Run` (src/luaprov/luascriptprovider.cpp:215-412). -/
def run (e : RunEnv V H) (argv : List (List WCHAR)) (L : State V H) (h : Host) :
    Option (State V H × Host × HRESULT) :=
  match findScript e argv h with
  | .error (h, hr) => some (L, h, hr)
  | .ok (debug, args, name, h) =>
    let (L, err) := LuaApi.load (e.compile name) L
    if err ≠ 0 then some (compileFailed M err L h) else runChunk M e debug args name L h

/-- `CLuaScriptProvider::RunString` (src/luaprov/luascriptprovider.cpp:414-469). -/
def runString (e : RunEnv V H) (scriptString : List CHAR) (L : State V H) (h : Host) :
    State V H × Host × HRESULT :=
  let (L, err) := LuaApi.load (e.compile scriptString) L
  if err ≠ 0 then compileFailed M err L h else callChunk M e 0 L h

/-- `CLuaScriptProvider::StartVM` on a new state (src/luaprov/luascriptprovider.cpp:471-519);
    `luaL_openlibs` leaves the stack as it is. -/
def startVM (openLib : String → H → V × H) (heap : H) : State V H :=
  ["dbgscript", "TypedObject", "Thread", "StackFrame"].foldl
    (fun L name => LuaApi.requiref openLib name L) ⟨[], heap⟩

/-! ## Sessions -/

/-- A call of the provider. The host may have changed in any way since the last one. -/
inductive LuaCall (V H : Type) where
  | run (e : RunEnv V H) (argv : List (List WCHAR)) (h : Host)
  | runString (e : RunEnv V H) (scriptString : List CHAR) (h : Host)

/-- The Lua state after a call that returns. -/
def LuaCall.exec (L : State V H) : LuaCall V H → Option (State V H)
  | .run e argv h => (Lua.run M e argv L h).map Prod.fst
  | .runString e scriptString h => some (Lua.runString M e scriptString L h).1

def sessionStep (o : Option (State V H)) (c : LuaCall V H) : Option (State V H) :=
  o.bind fun L => c.exec M L

/-- The Lua state after the calls, if all of them return. -/
def session (L : State V H) (calls : List (LuaCall V H)) : Option (State V H) :=
  Runs.run (sessionStep M) (some L) calls

/-! ## Specification -/

/-- `Run` finds a script, and it compiles. -/
def Loads (e : RunEnv V H) (argv : List (List WCHAR)) (h : Host) (L : State V H) : Prop :=
  ∃ debug args name h', findScript e argv h = .ok (debug, args, name, h') ∧
    (LuaApi.load (e.compile name) L).2 = 0#32

/-- The call is no `Run` that gets as far as a compiled script. -/
def LuaCall.LoadsNone (c : LuaCall V H) (L : State V H) : Prop :=
  match c with
  | .run e argv h => ¬ Loads e argv h L
  | .runString _ _ _ => True

/-! ## The parts of a run -/

variable {M} {e : RunEnv V H} {L L' : State V H} {h h' : Host} {hr : HRESULT} {t v : V} {s : List V}

/-- The loop leaves the table on the top. -/
theorem stack_setArgs (toAnsi : List WCHAR → Except CInt (List CHAR)) (i : ℕ)
    (args : List (List WCHAR)) (hs : L.stack = t :: s) :
    (setArgs M toAnsi i args L).1.stack = t :: s := by
  induction args generalizing i L with
  | nil => exact hs
  | cons arg args ih =>
    unfold setArgs
    split
    · exact hs
    · apply ih
      apply LuaApi.stack_rawseti (v := M.string _)
      · rw [LuaApi.stack_pushstring, hs]
      · simp [hs]

theorem stack_appendScriptPath {path : List CHAR} {addr : UINT64}
    (happend : appendScriptPathToPackagePath M path addr L = some L') : L'.stack = L.stack := by
  unfold appendScriptPathToPackagePath at happend
  obtain ⟨L₁, hpackage, happend⟩ := Option.bind_eq_some_iff.1 happend
  obtain ⟨L₂, hpath, happend⟩ := Option.bind_eq_some_iff.1 happend
  obtain ⟨L₃, hconcat, happend⟩ := Option.bind_eq_some_iff.1 happend
  obtain ⟨L₄, hset, happend⟩ := Option.bind_eq_some_iff.1 happend
  obtain ⟨package, h₁⟩ := LuaApi.stack_getglobal hpackage
  obtain ⟨old, h₂⟩ := LuaApi.stack_getfield hpath
  have hpush : (LuaApi.pushstring M (newPath path addr) L₂).stack =
      M.string (newPath path addr) :: old :: package :: L.stack := by
    rw [LuaApi.stack_pushstring, h₂, h₁]
  obtain ⟨new, h₃⟩ := LuaApi.stack_concat hconcat hpush
  have h₄ := LuaApi.stack_setfield hset h₃
  rw [← Option.some.inj happend, LuaApi.stack_pop, h₄]
  rfl

/-- The chunk is called and popped, and so is the message of an error. -/
theorem stack_callChunk (msgh : ℕ) (h : Host) (hs : L.stack = v :: s) :
    (callChunk M e msgh L h).1.stack = s := by
  unfold callChunk
  obtain ⟨hok, hstack⟩ | ⟨herr, message, hstack⟩ := LuaApi.stack_pcall e.call msgh hs
  · simp [hok, hstack]
  · simp [herr, hstack]

/-- What is left of a chunk that has been loaded: its handler, and more if an argument
    cannot be converted. -/
theorem stack_runChunk {debug : Bool} {args : List (List WCHAR)} {name : List CHAR} {h' : Host}
    (hs : L.stack = v :: s) (hrun : runChunk M e debug args name L h = some (L', h', hr)) :
    (∃ handler, L'.stack = handler :: s) ∨
      ∃ table handler, L'.stack = table :: v :: handler :: s := by
  unfold runChunk at hrun
  obtain ⟨L₁, hmodule, hrun⟩ := Option.bind_eq_some_iff.1 hrun
  obtain ⟨L₂, hfield, hrun⟩ := Option.bind_eq_some_iff.1 hrun
  obtain ⟨module, h₁⟩ := LuaApi.stack_getglobal hmodule
  obtain ⟨handler, h₂⟩ := LuaApi.stack_getfield hfield
  have h₃ : (LuaApi.remove 2 L₂).stack = handler :: v :: s := by
    rw [LuaApi.stack_remove, h₂, h₁, hs]
    rfl
  have h₄ : (LuaApi.insert 2 (LuaApi.remove 2 L₂)).stack = v :: handler :: s :=
    LuaApi.stack_insert h₃
  obtain ⟨table, h₅⟩ := LuaApi.stack_createtable (M := M) (LuaApi.insert 2 (LuaApi.remove 2 L₂))
  rw [h₄] at h₅
  have h₆ := stack_setArgs (M := M) (e.wcstombs 1024) 0 args h₅
  dsimp only at hrun
  split at hrun
  · rename_i L₆ err hset
    rw [hset] at h₆
    obtain ⟨rfl, -⟩ := Prod.mk.inj (Option.some.inj hrun)
    exact .inr ⟨table, handler, h₆⟩
  · rename_i L₆ hset
    rw [hset] at h₆
    obtain ⟨L₇, hglobal, hrun⟩ := Option.bind_eq_some_iff.1 hrun
    obtain ⟨L₈, happend, hrun⟩ := Option.bind_eq_some_iff.1 hrun
    have h₇ := LuaApi.stack_setglobal hglobal h₆
    have h₈ := (stack_appendScriptPath happend).trans h₇
    have hcall := stack_callChunk (M := M) (e := e) 2 h h₈
    rw [Option.some.inj hrun] at hcall
    exact .inl ⟨handler, hcall⟩

/-! ## Runs -/

theorem stack_compileFailed (err : BitVec 32) (h : Host) (hs : L.stack = v :: s) :
    (compileFailed M err L h).1.stack = s := by
  rw [compileFailed, LuaApi.stack_pop, hs]
  rfl

/-- A run that loads no script returns, and leaves the stack as it was. -/
theorem run_of_not_loads {argv : List (List WCHAR)} (hload : ¬ Loads e argv h L) :
    ∃ L' out, run M e argv L h = some (L', out) ∧ L'.stack = L.stack := by
  unfold run
  split
  · exact ⟨L, _, rfl, rfl⟩
  · rename_i debug args name h' hfind
    have herr : (LuaApi.load (e.compile name) L).2 ≠ 0#32 := fun hok =>
      hload ⟨debug, args, name, h', hfind, hok⟩
    obtain ⟨message, hstack⟩ := LuaApi.stack_load (e.compile name) L
    let out := compileFailed M (LuaApi.load (e.compile name) L).2
      (LuaApi.load (e.compile name) L).1 h'
    exact ⟨out.1, out.2, if_pos herr, stack_compileFailed _ _ hstack⟩

/-- A run that loads a script leaves at least the handler there. -/
theorem run_of_loads {argv : List (List WCHAR)} (hload : Loads e argv h L)
    (hrun : run M e argv L h = some (L', h', hr)) :
    (∃ handler, L'.stack = handler :: L.stack) ∨
      ∃ table chunk handler, L'.stack = table :: chunk :: handler :: L.stack := by
  obtain ⟨debug, args, name, h₁, hfind, hok⟩ := hload
  obtain ⟨chunk, hstack⟩ := LuaApi.stack_load (e.compile name) L
  rw [run, hfind] at hrun
  replace hrun := (if_neg (not_not_intro hok)).symm.trans hrun
  obtain hhandler | ⟨table, handler, hleft⟩ := stack_runChunk hstack hrun
  · exact .inl hhandler
  · exact .inr ⟨table, chunk, handler, hleft⟩

/-- `RunString` leaves the stack as it was. -/
theorem stack_runString (M : Interp V H) (e : RunEnv V H) (scriptString : List CHAR)
    (L : State V H) (h : Host) : (runString M e scriptString L h).1.stack = L.stack := by
  obtain ⟨v, hstack⟩ := LuaApi.stack_load (e.compile scriptString) L
  unfold runString
  dsimp only
  split_ifs
  · exact stack_compileFailed _ _ hstack
  · exact stack_callChunk 0 h hstack

/-- One call: it returns and is neutral, or it is a `Run` that leaves something behind. -/
theorem LuaCall.height_exec (c : LuaCall V H) (M : Interp V H) (L : State V H) :
    (c.LoadsNone L → ∃ L', c.exec M L = some L' ∧ L'.height = L.height) ∧
      (¬ c.LoadsNone L → ∀ L', c.exec M L = some L' → L.height < L'.height) := by
  cases c with
  | run e argv h =>
    constructor
    · intro hnone
      obtain ⟨L', out, hrun, hstack⟩ := run_of_not_loads (M := M) hnone
      refine ⟨L', ?_, congrArg List.length hstack⟩
      rw [exec, hrun]
      rfl
    · intro hloads L' hexec
      rw [exec, Option.map_eq_some_iff] at hexec
      obtain ⟨⟨L', h', hr⟩, hrun, rfl⟩ := hexec
      obtain ⟨handler, hstack⟩ | ⟨table, chunk, handler, hstack⟩ :=
        run_of_loads (not_not.1 hloads) hrun
      · simp [State.height, hstack]
      · simp only [State.height, hstack, List.length_cons]
        omega
  | runString e scriptString h =>
    constructor
    · intro _
      exact ⟨_, rfl, congrArg List.length (stack_runString M e scriptString L h)⟩
    · intro hloads
      exact absurd trivial hloads

/-! ## Sessions -/

/-- The condition of a call in a session. -/
def CallLoadsNone (o : Option (State V H)) (c : LuaCall V H) : Prop :=
  ∀ L, o = some L → c.LoadsNone L

/-- In a session in which no script is loaded, every call returns, and the stack keeps its
    height. -/
theorem session_neutral {calls : List (LuaCall V H)}
    (hnone : Runs.Along (sessionStep M) CallLoadsNone (some L) calls) :
    ∃ L', session M L calls = some L' ∧ L'.height = L.height := by
  refine Runs.run_inv (I := fun o => ∃ L', o = some L' ∧ L'.height = L.height) ?_
    ⟨L, rfl, rfl⟩ hnone
  rintro _ c ⟨L₁, rfl, hheight⟩ hc
  obtain ⟨L₂, hexec, hheight₂⟩ := (c.height_exec M L₁).1 (hc L₁ rfl)
  exact ⟨L₂, hexec, hheight₂.trans hheight⟩

theorem session_cons (c : LuaCall V H) (calls : List (LuaCall V H)) {L₁ : State V H}
    (hexec : c.exec M L = some L₁) : session M L (c :: calls) = session M L₁ calls := by
  rw [session, Runs.run_cons, sessionStep, Option.bind_some, hexec, session]

/-- A call that does not return ends the session. -/
theorem run_sessionStep_none (calls : List (LuaCall V H)) :
    Runs.run (sessionStep M) none calls = none :=
  Runs.run_keeps (I := fun o => o = none) (fun _ _ ho => by rw [ho, sessionStep, Option.bind_none])
    rfl calls

/-- The stack has the same height throughout a session iff no `Run` loads a script. -/
theorem session_neutral_iff {calls : List (LuaCall V H)} (hreturns : session M L calls = some L') :
    (∀ k Lk, session M L (calls.take k) = some Lk → Lk.height = L.height) ↔
      Runs.Along (sessionStep M) CallLoadsNone (some L) calls := by
  constructor
  · intro hneutral
    induction calls generalizing L with
    | nil => trivial
    | cons c calls ih =>
      cases hexec : c.exec M L with
      | none =>
        rw [session, Runs.run_cons, sessionStep, Option.bind_some, hexec, run_sessionStep_none]
          at hreturns
        contradiction
      | some L₁ =>
        have hheight : L₁.height = L.height := hneutral 1 L₁ hexec
        have hnone : c.LoadsNone L := by
          by_contra hloads
          have hlt := (c.height_exec M L).2 hloads L₁ hexec
          omega
        rw [session_cons c calls hexec] at hreturns
        have hrest := ih hreturns fun k Lk hk => by
          rw [hneutral (k + 1) Lk ((session_cons c _ hexec).trans hk), hheight]
        refine ⟨fun L₀ hL => ?_, ?_⟩
        · rwa [← Option.some.inj hL]
        · rwa [sessionStep, Option.bind_some, hexec]
  · intro hnone k Lk hk
    obtain ⟨L₁, hrun, hheight⟩ := session_neutral (Runs.along_take hnone k)
    rw [hrun] at hk
    rw [← Option.some.inj hk, hheight]

/-! ## A small interpreter -/

/-- Values of a small interpreter. -/
inductive SmallValue where
  | text (s : List CHAR)
  | table (name : String)
  | function (name : String)

/-- Its object is the value of `package.path`. -/
def smallInterp : Interp SmallValue (List CHAR) where
  string := .text
  toText
    | .text s => s
    | _ => []
  newTable path := (.table "new", path)
  rawSet _ _ _ path := path
  getGlobal name path := some (.table name, path)
  setGlobal _ _ path := some path
  getField
    | .table "package", "path", path => some (.text path, path)
    | .table "debug", name, path => some (.function name, path)
    | _, _, _ => none
  setField
    | .table "package", "path", .text path, _ => some path
    | _, _, _, _ => none
  concat
    | .text s, .text t, path => some (.text (s ++ t), path)
    | _, _, _ => none

/-- Everything is a file and compiles, and no script fails. -/
def smallEnv : RunEnv SmallValue (List CHAR) where
  files := ⟨fun _ => 0x20#32, fun s => s.map fun c => c.toNat.toUInt16⟩
  wcstombs _ s := .ok (s.map fun c => c.toNat.toUInt8)
  fileNameAddr := 0x1000
  compile _ path := (.ok (.function "chunk"), path)
  call _ _ path := (none, path)
  acts := []

/-- The state right after `StartVM`. -/
def smallState : State SmallValue (List CHAR) := startVM (fun name path => (.table name, path)) []

/-- `x=1`, evaluated twice. -/
theorem session_of_strings_neutral :
    let calls := List.replicate 2 (.runString smallEnv [120, 61, 49] (Host.fresh fun _ => none))
    (∀ k Lk, session smallInterp smallState (calls.take k) = some Lk →
        Lk.height = smallState.height) ↔
      Runs.Along (sessionStep smallInterp) CallLoadsNone (some smallState) calls := by
  intro calls
  exact session_neutral_iff rfl

/-- The script `a\b.lua` is run once, and its handler stays. -/
theorem session_of_run_leaves_handler :
    let call : LuaCall SmallValue (List CHAR) :=
      .run smallEnv [[97, 92, 98, 46, 108, 117, 97]] (Host.fresh fun _ => none)
    ∃ L', session smallInterp smallState [call] = some L' ∧
      L'.height = smallState.height + 1 :=
  ⟨_, rfl, rfl⟩

end DbgScript.Lua
