import DbgScript.Host.Interfaces
import DbgScript.Host.Providers

/-!
# The entry points

The extension commands and the two DLL callbacks of src/dllmain.cpp:664-1260. The code of
a provider runs in two places: in `Run` or `RunString`, and in the `Cleanup` of an
instance. So a command is cut there: `beginRunscript` and `beginEvalstring` go up to `Run`
or `RunString`, or to the exit (`Teardown`: the providers that are then unloaded, and the
rest), and `ScriptFrame.leave` goes on from the script's return. What is done in between is
up to the caller of the model: `Call.exec` lets a script write and execute debugger
commands, and nothing happen in `Cleanup`; the sessions of `DbgScript.Host.Session` let
both run extension commands as well.

* `select_spec`: what precedes the load.
* `start_cases`: how far `runscript` and `evalstring` get, and what they call then.
* `begin_effect`, `script_effect`: what `runscript` and `evalstring` do to the provider
  instances, up to the exit and with it.
* `leave_spec`, `finish_spec`: what they do after the script.
-/

namespace DbgScript

open Slots (Pool)
open Runs (run)

/-! ## Model -/

/-- The results of the outside calls of a command: `QueryInterface`, the calls made by
    loading, `UtilConvertAnsiToWide` (`MultiByteToWideChar` in the code page of the
    system), `CommandLineToArgvW`, `GetTickCount` before the script is run, and the
    `Output` calls that print the script path. -/
structure CommandEnv where
  qi : Iid → HRESULT
  load : LoadEnv
  convertAnsiToWide : List CHAR → Option (List WCHAR)
  commandLineToArgv : List WCHAR → Except Win32Error (List (List WCHAR))
  startTime : BitVec 32
  output : ℕ → HRESULT

/-- `findScriptProvider` (src/dllmain.cpp:855-898). -/
def findScriptProvider (langId : Option (List WCHAR)) (h : Host) : Host × HRESULT × ProviderPtr :=
  let scriptProv := h.ctx.scriptProviders.headD 0
  match langId with
  | none => (h, S_OK, scriptProv)
  | some langId =>
    match h.ctx.scriptProviders.find? fun cur => (h.info cur).langId.chars = langId with
    | some cur => (h, S_OK, cur)
    | none =>
      (h.output DEBUG_OUTPUT_ERROR "Error: No script provider with lang ID '%ls' found.\n"
        [.wstr langId], E_INVALIDARG, scriptProv)

/-- `runscript` and `evalstring` up to the load: the interfaces, the host arguments and
    the provider (src/dllmain.cpp:950-985, 1098-1128). `parsedArgs.LangId` is an array,
    so the pointer passed on is never null. -/
def selectScript (requires : String) (e : CommandEnv) (client : ClientId) (args : AnsiStr)
    (h : Host) : Host × Except HRESULT (ParsedArgs × ProviderPtr) :=
  let (h, hr) := reAcquireIfacesIfNeeded e.qi client h
  if FAILED hr then (h, .error hr)
  else if args.chars = [] then (h.output DEBUG_OUTPUT_ERROR requires [], .error E_INVALIDARG)
  else
    let (h, hr, parsed) := parseArgs args h
    if FAILED hr then (h, .error hr)
    else
      let (h, hr, scriptProv) := findScriptProvider (some parsed.langId.str) h
      if FAILED hr then (h, .error hr) else (h, .ok (parsed, scriptProv))

/-- The argument vector of a script (src/dllmain.cpp:988-1011). -/
def makeArgList (e : CommandEnv) (remainingArgs : List CHAR) (h : Host) :
    Host × Except HRESULT (List (List WCHAR)) :=
  match e.convertAnsiToWide remainingArgs with
  | none =>
    (h.output DEBUG_OUTPUT_ERROR "Error: Failed to convert args to wide string.\n" [],
      .error E_OUTOFMEMORY)
  | some wszArgs =>
    match e.commandLineToArgv wszArgs with
    | .error err =>
      let hr := hresultFromWin32 err.code
      (h.output DEBUG_OUTPUT_ERROR "Error: Failed to parse arguments: 0x%08x\n" [.hex hr],
        .error hr)
    | .ok argList => (h, .ok argList)

def printFailure (hr : HRESULT) (h : Host) : Host :=
  if FAILED hr then h.output DEBUG_OUTPUT_ERROR "Script failed: 0x%08x.\n" [.hex hr] else h

/-- The two commands that run scripts. -/
inductive ScriptCommand where
  | runscript
  | evalstring
  deriving DecidableEq

/-- What follows the unloading of providers: nothing; the end of a script command that returns
    `hr` (src/dllmain.cpp:1041-1064, 1157-1164); of `stopvm` (1256); of
    `cleanupScriptProviders` and `DebugExtensionUninitialize` (395, 723). -/
inductive Rest where
  | returns
  | exit (command : ScriptCommand) (hr : HRESULT)
  | stopvm
  | unloadExtension
  deriving DecidableEq

/-- `g_HostCtxt.ScriptProviders = nullptr`: the deleted nodes can no longer be reached. -/
def Host.forgetProviders (h : Host) : Host :=
  { h with ctx := { h.ctx with scriptProviders := [] } }

def Rest.run : Rest → Host → Host
  | .returns, h => h
  | .exit .runscript hr, h => printFailure hr (resetBuffering h)
  | .exit .evalstring hr, h => printFailure hr h
  | .stopvm, h => { h with ctx := { h.ctx with startVMEnabled := false } }
  | .unloadExtension, h => releaseDbgEngIfaces h.forgetProviders

/-- What a command has left to do when it runs no script any more: to unload providers, one
    after the other, and then the rest. -/
structure Teardown where
  providers : List ProviderPtr
  rest : Rest
  deriving DecidableEq

/-- Nothing is left to do. -/
def Teardown.nothing : Teardown := ⟨[], .returns⟩

/-- The teardown as a whole, with `during p` being done while `p` is cleaned up. -/
def Teardown.completeWith (during : ProviderPtr → Host → Host) (t : Teardown) (h : Host) : Host :=
  t.rest.run (t.providers.foldl (unloadScriptProviderWith during) h)

def Teardown.complete (t : Teardown) (h : Host) : Host := t.completeWith nothingDuring h

/-- `if (!startVMEnabled && initializedProvider) unloadScriptProvider(scriptProv)`;
    `initialized` is the provider if `initializedProvider` is set. -/
def exitProviders (startVMEnabled : Bool) (initialized : Option ProviderPtr) : List ProviderPtr :=
  if startVMEnabled then [] else initialized.toList

/-- The exit of `runscript` (src/dllmain.cpp:1030-1064) or `evalstring` (1152-1164). -/
def ScriptCommand.exitTeardown (command : ScriptCommand) (startVMEnabled : Bool)
    (initialized : Option ProviderPtr) (hr : HRESULT) : Teardown × HRESULT :=
  (⟨exitProviders startVMEnabled initialized, .exit command hr⟩, hr)

/-- A command that has called `Run` or `RunString`: its locals, and the instance that
    is running. -/
structure ScriptFrame where
  command : ScriptCommand
  startVMEnabled : Bool
  scriptProv : ProviderPtr
  inst : Option Instance
  timeRun : Bool
  startTime : BitVec 32
  deriving DecidableEq

/-- Either the script is running, or the command is at its exit and will return a code. -/
abbrev Begun := Host × (ScriptFrame ⊕ Teardown × HRESULT)

/-- Either the script is running, or the command has returned. -/
abbrev Started := Host × (ScriptFrame ⊕ HRESULT)

def Begun.completeWith (during : ProviderPtr → Host → Host) : Begun → Started
  | (h, .inl f) => (h, .inl f)
  | (h, .inr (t, hr)) => (t.completeWith during h, .inr hr)

def Begun.complete (b : Begun) : Started := b.completeWith nothingDuring

/-- A command that has nothing to unload. -/
def returned (r : Host × HRESULT) : Begun := (r.1, .inr (.nothing, r.2))

def runscriptRequires : String := "Error: !runscript requires at least one argument.\n"
def evalstringRequires : String := "Error: !evalstring requires at least one argument.\n"

def ScriptCommand.requires : ScriptCommand → String
  | .runscript => runscriptRequires
  | .evalstring => evalstringRequires

/-- `runscript` up to `Run` (src/dllmain.cpp:932-1017) or to the exit. -/
def beginRunscript (e : CommandEnv) (client : ClientId) (args : AnsiStr) (h : Host) : Begun :=
  let startVMEnabled := h.ctx.startVMEnabled
  match selectScript runscriptRequires e client args h with
  | (h, .error hr) => (h, .inr (ScriptCommand.runscript.exitTeardown startVMEnabled none hr))
  | (h, .ok (parsed, scriptProv)) =>
    let (h, hr) := loadScriptProviderIfNeeded e.load scriptProv h
    if FAILED hr then (h, .inr (ScriptCommand.runscript.exitTeardown startVMEnabled none hr))
    else
      match makeArgList e parsed.remainingArgs h with
      | (h, .error hr) =>
        (h, .inr (ScriptCommand.runscript.exitTeardown startVMEnabled (some scriptProv) hr))
      | (h, .ok argList) =>
        let inst := (h.info scriptProv).scriptProvider
        (h.emit (.prov (.run scriptProv inst argList)),
          .inl ⟨.runscript, startVMEnabled, scriptProv, inst, parsed.timeRun, e.startTime⟩)

/-- `evalstring` up to `RunString` (src/dllmain.cpp:1086-1148) or to the exit. -/
def beginEvalstring (e : CommandEnv) (client : ClientId) (args : AnsiStr) (h : Host) : Begun :=
  let startVMEnabled := h.ctx.startVMEnabled
  match selectScript evalstringRequires e client args h with
  | (h, .error hr) => (h, .inr (ScriptCommand.evalstring.exitTeardown startVMEnabled none hr))
  | (h, .ok (parsed, scriptProv)) =>
    if parsed.remainingArgs = [] then
      (h, .inr (ScriptCommand.evalstring.exitTeardown startVMEnabled none S_OK))
    else
      let (h, hr) := loadScriptProviderIfNeeded e.load scriptProv h
      if FAILED hr then (h, .inr (ScriptCommand.evalstring.exitTeardown startVMEnabled none hr))
      else
        let h := h.output DEBUG_OUTPUT_VERBOSE "Evaluating string '%s'.\n"
          [.str parsed.remainingArgs]
        let inst := (h.info scriptProv).scriptProvider
        (h.emit (.prov (.runString scriptProv inst parsed.remainingArgs)),
          .inl ⟨.evalstring, startVMEnabled, scriptProv, inst, parsed.timeRun, e.startTime⟩)

/-- The command once the script has returned `hr`, up to the exit; `endTime` is the second
    `GetTickCount`. -/
def ScriptFrame.leave (f : ScriptFrame) (hr : HRESULT) (endTime : BitVec 32) (h : Host) :
    Host × Teardown :=
  let h :=
    match f.command with
    | .runscript =>
      if !FAILED hr && f.timeRun then
        h.output DEBUG_OUTPUT_NORMAL "\nExecution time: %.2f s\n" [.millis (endTime - f.startTime)]
      else h
    | .evalstring => h
  (h, (f.command.exitTeardown f.startVMEnabled (some f.scriptProv) hr).1)

/-- The rest of the command once the script has returned `hr`. -/
def ScriptFrame.finishWith (during : ProviderPtr → Host → Host) (f : ScriptFrame) (hr : HRESULT)
    (endTime : BitVec 32) (h : Host) : Host × HRESULT :=
  let (h, t) := f.leave hr endTime h
  (t.completeWith during h, hr)

def ScriptFrame.finish (f : ScriptFrame) (hr : HRESULT) (endTime : BitVec 32) (h : Host) :
    Host × HRESULT :=
  f.finishWith nothingDuring hr endTime h

/-- The loop that prints the script path, from its `k`-th element on
    (src/dllmain.cpp:822-835). -/
def printScriptPath (output : ℕ → HRESULT) :
    List (List CHAR) → ℕ → HRESULT → Host → Host × HRESULT
  | [], _, hr, h => (h, hr)
  | path :: paths, k, _, h =>
    let h := h.output DEBUG_OUTPUT_NORMAL "Script path: '%s'\n" [.str path]
    if FAILED (output k) then (h, output k) else printScriptPath output paths (k + 1) (output k) h

/-- `scriptpath` (src/dllmain.cpp:744-838). Each element of the comma-separated list is
    cut to the room of its `Path` array. -/
def scriptpath (e : CommandEnv) (client : ClientId) (args : AnsiStr) (h : Host) :
    Host × HRESULT :=
  let (h, hr) := reAcquireIfacesIfNeeded e.qi client h
  if FAILED hr then (h, hr)
  else
    let h :=
      if args.chars = [] then h
      else
        let scriptPath := (args.chars.splitOn 44).map (List.take (MAX_PATH - 1))
        { h with ctx := { h.ctx with scriptPath := scriptPath } }
    printScriptPath e.output h.ctx.scriptPath 0 hr h

/-- `startvm` (src/dllmain.cpp:1186-1214). -/
def startvm (e : CommandEnv) (client : ClientId) (h : Host) : Host × HRESULT :=
  let (h, hr) := reAcquireIfacesIfNeeded e.qi client h
  if FAILED hr then (h, hr)
  else if h.ctx.startVMEnabled then
    (h.output DEBUG_OUTPUT_ERROR "Error: VM already started. Use !stopvm to end it.\n" [],
      E_INVALIDARG)
  else ({ h with ctx := { h.ctx with startVMEnabled := true } }, hr)

/-- `stopvm` (src/dllmain.cpp:1230-1260) up to `unloadAllScriptProviders` (353-362). -/
def beginStopvm (e : CommandEnv) (client : ClientId) (h : Host) : Host × Teardown × HRESULT :=
  let (h, hr) := reAcquireIfacesIfNeeded e.qi client h
  if FAILED hr then (h, .nothing, hr)
  else if !h.ctx.startVMEnabled then
    (h.output DEBUG_OUTPUT_ERROR "Error: VM not started. Use !startvm to start it.\n" [],
      .nothing, E_INVALIDARG)
  else (h, ⟨h.ctx.scriptProviders, .stopvm⟩, hr)

def stopvm (e : CommandEnv) (client : ClientId) (h : Host) : Host × HRESULT :=
  let (h, t, hr) := beginStopvm e client h
  (t.complete h, hr)

/-- The extension commands. -/
inductive Command where
  | script (command : ScriptCommand)
  | scriptpath
  | startvm
  | stopvm
  deriving DecidableEq

/-- A command up to the point where a script runs, or to its exit. -/
def Command.begin (command : Command) (e : CommandEnv) (client : ClientId) (args : AnsiStr)
    (h : Host) : Begun :=
  match command with
  | .script .runscript => beginRunscript e client args h
  | .script .evalstring => beginEvalstring e client args h
  | .scriptpath => returned (DbgScript.scriptpath e client args h)
  | .startvm => returned (DbgScript.startvm e client h)
  | .stopvm =>
    let (h, r) := beginStopvm e client h
    (h, .inr r)

/-- A command up to the point where a script runs, or to its end. -/
def Command.start (command : Command) (e : CommandEnv) (client : ClientId) (args : AnsiStr)
    (h : Host) : Started :=
  (command.begin e client args h).complete

/-- `runscript` (src/dllmain.cpp:932-1065) up to `Run`, or to its end. -/
def runscript (e : CommandEnv) (client : ClientId) (args : AnsiStr) (h : Host) : Started :=
  (beginRunscript e client args h).complete

/-- The results of the outside calls of `DebugExtensionInitialize`. -/
structure InitEnv where
  debugCreate : HRESULT
  client : ClientId
  qi : Iid → HRESULT
  registry : Registry

/-- `DebugExtensionInitialize` (src/dllmain.cpp:664-703); the version and the flags it
    reports are constants. -/
def debugExtensionInitialize (e : InitEnv) (h : Host) : Host × HRESULT :=
  if FAILED e.debugCreate then (h, e.debugCreate)
  else
    let h := h.emit (.com (.debugCreate e.client))
    let (h, hr) := acquireDbgEngIfaces e.qi e.client h
    if FAILED hr then (h, hr) else registerScriptProviders e.registry h

/-- `DebugExtensionUninitialize` (src/dllmain.cpp:718-724) with `cleanupScriptProviders`
    (377-396), which deletes each node once its provider has been unloaded. -/
def unloadTeardown (h : Host) : Teardown := ⟨h.ctx.scriptProviders, .unloadExtension⟩

def debugExtensionUninitialize (h : Host) : Host := (unloadTeardown h).complete h

/-- A completed command: what it is called with, and what the script does to the output
    and returns, if one is run. -/
structure Call where
  command : Command
  client : ClientId
  args : AnsiStr
  env : CommandEnv
  ops : List OutputOp
  result : HRESULT
  endTime : BitVec 32

def Call.start (c : Call) (h : Host) : Started := c.command.start c.env c.client c.args h

/-- A command from its call to its return. -/
def Call.exec (c : Call) (h : Host) : Host × HRESULT :=
  match c.start h with
  | (h, .inr hr) => (h, hr)
  | (h, .inl f) => f.finish c.result c.endTime (run outputStep h c.ops)

def callStep (h : Host) (c : Call) : Host := (c.exec h).1

/-- The outside calls all succeed, and the argument vector is the whole text. -/
def CommandEnv.succeeding : CommandEnv where
  qi := fun _ => S_OK
  load :=
    { setDllDirectory := none, loadLibrary := .ok 1, getProcAddress := fun _ => .ok 1,
      createFunc := true, init := S_OK }
  convertAnsiToWide := fun s => some (s.map widen)
  commandLineToArgv := fun s => .ok [s]
  startTime := 0
  output := fun _ => S_OK

/-- An extension that is loaded with the given client and registry values. -/
def InitEnv.succeeding (client : ClientId) (values : List ProviderValue) : InitEnv where
  debugCreate := S_OK
  client := client
  qi := fun _ => S_OK
  registry := ⟨none, values.map .ok⟩

/-- A command that is called from outside a script, in such an environment. -/
def Call.succeeding (command : Command) (client : ClientId) (args : AnsiStr) : Call :=
  ⟨command, client, args, CommandEnv.succeeding, [], S_OK, 0⟩

/-- The entry points of the extension: `DebugExtensionInitialize`, a command, and
    `DebugExtensionUninitialize`. -/
inductive Entry where
  | loadExtension (e : InitEnv)
  | command (c : Call)
  | unloadExtension

def entryStep (h : Host) : Entry → Host
  | .loadExtension e => (debugExtensionInitialize e h).1
  | .command c => callStep h c
  | .unloadExtension => debugExtensionUninitialize h

/-- A host with one registered provider, of the language `a`. -/
def Host.oneProvider : Host :=
  (debugExtensionInitialize
    (InitEnv.succeeding 0 [⟨⟨[97], by decide⟩, true, ⟨[92, 100], by decide⟩⟩])
    (Host.fresh fun _ => none)).1

/-! ## Before the load -/

variable {h : Host}

theorem quiet_find (langId : Option (List WCHAR)) (h : Host) :
    Quiet h (findScriptProvider langId h).1 := by
  unfold findScriptProvider
  dsimp only
  split
  · exact Quiet.refl h
  · split
    · exact Quiet.refl h
    · exact quiet_output h _ _ _

/-- A provider that is found is registered. -/
theorem mem_of_find {langId : List WCHAR}
    (hok : FAILED (findScriptProvider (some langId) h).2.1 = false) :
    (findScriptProvider (some langId) h).2.2 ∈ h.ctx.scriptProviders := by
  unfold findScriptProvider at hok ⊢
  dsimp only at hok ⊢
  split
  · next cur heq => exact List.mem_of_find?_eq_some heq
  · next heq =>
    rw [heq] at hok
    simp at hok

/-- What precedes the load: the interfaces are re-acquired, and the rest is quiet. A
    selected provider is registered. -/
theorem select_spec (requires : String) (e : CommandEnv) (client : ClientId) (args : AnsiStr)
    (h : Host) :
    Quiet (reAcquireIfacesIfNeeded e.qi client h).1 (selectScript requires e client args h).1 ∧
      ∀ parsed p, (selectScript requires e client args h).2 = .ok (parsed, p) →
        FAILED (reAcquireIfacesIfNeeded e.qi client h).2 = false ∧ p ∈ h.ctx.scriptProviders := by
  have hlist := (onlyCom_reAcquire e.qi client h).providers.scriptProviders
  unfold selectScript
  dsimp only
  generalize reAcquireIfacesIfNeeded e.qi client h = r at hlist
  have hparse := quiet_parseArgs args r.1
  have hfind := quiet_find (some (parseArgs args r.1).2.2.langId.str) (parseArgs args r.1).1
  split_ifs with h1 h2 h3 h4
  · exact ⟨Quiet.refl _, by simp⟩
  · exact ⟨quiet_output _ _ _ _, by simp⟩
  · exact ⟨hparse, by simp⟩
  · exact ⟨hparse.trans hfind, by simp⟩
  · refine ⟨hparse.trans hfind, ?_⟩
    rintro parsed p heq
    have hp := mem_of_find (by simpa using h4)
    rw [hparse.scriptProviders, hlist] at hp
    simp only [Except.ok.injEq, Prod.mk.injEq] at heq
    rw [← heq.2]
    exact ⟨by simpa using h1, hp⟩

/-! ## Provider instances -/

/-- Where a command calls `loadScriptProviderIfNeeded`, if it gets there: the host at
    that point, and the provider. -/
def loadPoint (command : Command) (e : CommandEnv) (client : ClientId) (args : AnsiStr)
    (h : Host) : Option (Host × ProviderPtr) :=
  match command with
  | .script .runscript =>
    match selectScript runscriptRequires e client args h with
    | (h, .ok (_, p)) => some (h, p)
    | (_, .error _) => none
  | .script .evalstring =>
    match selectScript evalstringRequires e client args h with
    | (h, .ok (parsed, p)) => if parsed.remainingArgs = [] then none else some (h, p)
    | (_, .error _) => none
  | _ => none

/-- The pool after the exit of a command that has set `initializedProvider`. -/
def exitPool (startVMEnabled : Bool) (s : Pool ProviderPtr) (p : ProviderPtr) :
    Pool ProviderPtr :=
  if startVMEnabled then s else s.step (.unload p)

/-- What `runscript` and `evalstring` do to the pool up to the call into the provider or to
    the exit, where `target` is the provider they try to load. -/
inductive BeginEffect (command : ScriptCommand) (startVMEnabled : Bool)
    (target : Option ProviderPtr) (s s' : Pool ProviderPtr) :
    ScriptFrame ⊕ Teardown × HRESULT → Prop
  | notReached (hr : HRESULT) (ht : target = none) (hs : s' = s) :
    BeginEffect command startVMEnabled target s s'
      (.inr (command.exitTeardown startVMEnabled none hr))
  | loadFailed (p : ProviderPtr) (hr : HRESULT) (ht : target = some p) (hf : FAILED hr = true)
    (hslot : s.slot p = none) (hs : s' = s ∨ s' = s.step (.load p false)) :
    BeginEffect command startVMEnabled target s s'
      (.inr (command.exitTeardown startVMEnabled none hr))
  | notRun (p : ProviderPtr) (hr : HRESULT) (ht : target = some p) (hf : FAILED hr = true)
    (hs : s' = s.step (.load p true)) :
    BeginEffect command startVMEnabled target s s'
      (.inr (command.exitTeardown startVMEnabled (some p) hr))
  | running (p : ProviderPtr) (f : ScriptFrame) (ht : target = some p)
    (hcommand : f.command = command) (hprov : f.scriptProv = p)
    (hvm : f.startVMEnabled = startVMEnabled) (hinst : f.inst = (s.step (.load p true)).slot p)
    (hs : s' = (s.step (.load p true)).step (.use p)) :
    BeginEffect command startVMEnabled target s s' (.inl f)

/-- The same with the exit, if the command gets there. -/
inductive ScriptEffect (startVMEnabled : Bool) (target : Option ProviderPtr)
    (s s' : Pool ProviderPtr) : ScriptFrame ⊕ HRESULT → Prop
  | notReached (hr : HRESULT) (ht : target = none) (hs : s' = s) :
    ScriptEffect startVMEnabled target s s' (.inr hr)
  | loadFailed (p : ProviderPtr) (hr : HRESULT) (ht : target = some p) (hf : FAILED hr = true)
    (hslot : s.slot p = none) (hs : s' = s ∨ s' = s.step (.load p false)) :
    ScriptEffect startVMEnabled target s s' (.inr hr)
  | notRun (p : ProviderPtr) (hr : HRESULT) (ht : target = some p) (hf : FAILED hr = true)
    (hs : s' = exitPool startVMEnabled (s.step (.load p true)) p) :
    ScriptEffect startVMEnabled target s s' (.inr hr)
  | running (p : ProviderPtr) (f : ScriptFrame) (ht : target = some p)
    (hprov : f.scriptProv = p) (hvm : f.startVMEnabled = startVMEnabled)
    (hinst : f.inst = (s.step (.load p true)).slot p)
    (hs : s' = (s.step (.load p true)).step (.use p)) :
    ScriptEffect startVMEnabled target s s' (.inl f)

/-- From `h` to `h'` the registered providers and the VM flag are unchanged. -/
structure SameList (h h' : Host) : Prop where
  scriptProviders : h'.ctx.scriptProviders = h.ctx.scriptProviders
  startVMEnabled : h'.ctx.startVMEnabled = h.ctx.startVMEnabled
  nextNode : h'.nextNode = h.nextNode

variable {h' h'' : Host}

theorem SameList.refl (h : Host) : SameList h h := ⟨rfl, rfl, rfl⟩

theorem SameList.trans (h1 : SameList h h') (h2 : SameList h' h'') : SameList h h'' :=
  ⟨h2.scriptProviders.trans h1.scriptProviders, h2.startVMEnabled.trans h1.startVMEnabled,
    h2.nextNode.trans h1.nextNode⟩

theorem OnlyProviders.sameList (h1 : OnlyProviders h h') : SameList h h' :=
  ⟨h1.scriptProviders, h1.startVMEnabled, h1.nextNode⟩

theorem SameProviders.sameList (h1 : SameProviders h h') : SameList h h' :=
  ⟨h1.scriptProviders, h1.startVMEnabled, h1.nextNode⟩

theorem quiet_printFailure (hr : HRESULT) (h : Host) : Quiet h (printFailure hr h) := by
  unfold printFailure
  split_ifs
  · exact quiet_output h _ _ _
  · exact Quiet.refl h

theorem quiet_makeArgList (e : CommandEnv) (remainingArgs : List CHAR) (h : Host) :
    Quiet h (makeArgList e remainingArgs h).1 ∧
      ∀ hr, (makeArgList e remainingArgs h).2 = .error hr → FAILED hr = true := by
  unfold makeArgList
  split
  · refine ⟨quiet_output h _ _ _, ?_⟩
    rintro hr ⟨⟩
    rfl
  · split
    · refine ⟨quiet_output h _ _ _, ?_⟩
      rintro hr ⟨⟩
      exact failed_hresultFromWin32 _
    · exact ⟨Quiet.refl h, by simp⟩

/-! ## Teardowns -/

/-- Unless it ends the extension, what follows the unloading is only output, or the VM flag. -/
theorem quiet_exitRest (command : ScriptCommand) (hr : HRESULT) (h : Host) :
    Quiet h (Rest.run (.exit command hr) h) := by
  cases command with
  | runscript => exact (quiet_bufferStep _ .cleanup).trans (quiet_printFailure hr _)
  | evalstring => exact quiet_printFailure hr _

/-- The exits: the unloading, and then only output. -/
theorem quiet_exit (command : ScriptCommand) (vm : Bool) (initialized : Option ProviderPtr)
    (hr : HRESULT) (h : Host) :
    Quiet ((exitProviders vm initialized).foldl unloadScriptProvider h)
      ((command.exitTeardown vm initialized hr).1.complete h) :=
  quiet_exitRest command hr _

theorem onlyProviders_exit (command : ScriptCommand) (vm : Bool)
    (initialized : Option ProviderPtr) (hr : HRESULT) (h : Host) :
    OnlyProviders h ((command.exitTeardown vm initialized hr).1.complete h) :=
  (onlyProviders_unloadAll _ h).trans (quiet_exit ..).onlyProviders

/-- Where no provider has been initialised, the exit unloads none. -/
@[simp] theorem exitProviders_none (vm : Bool) : exitProviders vm none = [] := by
  cases vm <;> rfl

theorem mem_exitProviders {vm : Bool} {initialized : Option ProviderPtr} {p : ProviderPtr} :
    p ∈ exitProviders vm initialized ↔ vm = false ∧ initialized = some p := by
  cases vm <;> simp [exitProviders, Option.mem_toList]

theorem pool_exit_none (command : ScriptCommand) (vm : Bool) (hr : HRESULT) (h : Host) :
    ((command.exitTeardown vm none hr).1.complete h).pool = h.pool := by
  have hquiet := quiet_exit command vm none hr h
  rw [exitProviders_none] at hquiet
  exact hquiet.sameProviders.pool

theorem pool_exit (command : ScriptCommand) (vm : Bool) (p : ProviderPtr) (hr : HRESULT)
    (h : Host) :
    ((command.exitTeardown vm (some p) hr).1.complete h).pool = exitPool vm h.pool p := by
  refine (quiet_exit ..).sameProviders.pool.trans ((pool_unloadAll _ h).trans ?_)
  cases vm <;> rfl

/-- Before the exit, a script that has returned is at most reported. -/
theorem leave_spec (f : ScriptFrame) (hr : HRESULT) (endTime : BitVec 32) (h : Host) :
    ((f.leave hr endTime h).1 = h ∨ ∃ args, (f.leave hr endTime h).1 =
        h.output DEBUG_OUTPUT_NORMAL "\nExecution time: %.2f s\n" args) ∧
      (f.leave hr endTime h).2 =
        (f.command.exitTeardown f.startVMEnabled (some f.scriptProv) hr).1 := by
  refine ⟨?_, rfl⟩
  unfold ScriptFrame.leave
  dsimp only
  split
  · split_ifs
    · exact Or.inr ⟨_, rfl⟩
    · exact Or.inl rfl
  · exact Or.inl rfl

theorem quiet_leave (f : ScriptFrame) (hr : HRESULT) (endTime : BitVec 32) (h : Host) :
    Quiet h (f.leave hr endTime h).1 := by
  rcases (leave_spec f hr endTime h).1 with heq | ⟨args, heq⟩
  · rw [heq]
    exact Quiet.refl h
  · rw [heq]
    exact quiet_output h _ _ _

/-- What the rest of a command does to the pool once the script has returned. -/
theorem finish_spec (f : ScriptFrame) (hr : HRESULT) (endTime : BitVec 32) (h : Host) :
    OnlyProviders h (f.finish hr endTime h).1 ∧
      (f.finish hr endTime h).1.pool = exitPool f.startVMEnabled h.pool f.scriptProv := by
  have hquiet := quiet_leave f hr endTime h
  have hfinish : (f.finish hr endTime h).1 = (f.command.exitTeardown f.startVMEnabled
      (some f.scriptProv) hr).1.complete (f.leave hr endTime h).1 := rfl
  rw [hfinish]
  refine ⟨hquiet.onlyProviders.trans (onlyProviders_exit ..), ?_⟩
  rw [pool_exit, hquiet.sameProviders.pool]

/-! ## Commands that run scripts -/

section Script

variable (command : ScriptCommand) (e : CommandEnv) (client : ClientId) (args : AnsiStr) (h : Host)

/-- The command tries to load `p` at `g`; this leads to `b` and returns `hr`. -/
structure ScriptLoads (g b : Host) (p : ProviderPtr) (hr : HRESULT) : Prop where
  select : (selectScript command.requires e client args h).1 = g
  point : loadPoint (.script command) e client args h = some (g, p)
  load : loadScriptProviderIfNeeded e.load p g = (b, hr)

/-- How far a script command gets, and what it calls or is at its exit with. -/
inductive ScriptStart : Prop
  | notReached (g : Host) (hr : HRESULT)
    (hsel : (selectScript command.requires e client args h).1 = g)
    (hpoint : loadPoint (.script command) e client args h = none)
    (hstart : (Command.script command).begin e client args h =
      (g, .inr (command.exitTeardown h.ctx.startVMEnabled none hr)))
  | notLoaded (g b : Host) (p : ProviderPtr) (hr : HRESULT)
    (hl : ScriptLoads command e client args h g b p hr) (hf : FAILED hr = true)
    (hstart : (Command.script command).begin e client args h =
      (b, .inr (command.exitTeardown h.ctx.startVMEnabled none hr)))
  | notRun (g b b' : Host) (p : ProviderPtr) (hr hr' : HRESULT) (text : List CHAR)
    (hl : ScriptLoads command e client args h g b p hr) (hok : FAILED hr = false)
    (hargs : makeArgList e text b = (b', .error hr'))
    (hstart : (Command.script command).begin e client args h =
      (b', .inr (command.exitTeardown h.ctx.startVMEnabled (some p) hr')))
  | run (g b b' : Host) (p : ProviderPtr) (hr : HRESULT) (text : List CHAR)
    (argList : List (List WCHAR)) (timeRun : Bool)
    (hl : ScriptLoads command e client args h g b p hr) (hok : FAILED hr = false)
    (hargs : makeArgList e text b = (b', .ok argList))
    (hstart : (Command.script command).begin e client args h =
      (b'.emit (.prov (.run p (b'.info p).scriptProvider argList)),
        .inl ⟨command, h.ctx.startVMEnabled, p, (b'.info p).scriptProvider, timeRun,
          e.startTime⟩))
  | runString (g b b' : Host) (p : ProviderPtr) (hr : HRESULT) (text : List CHAR)
    (timeRun : Bool) (hl : ScriptLoads command e client args h g b p hr)
    (hok : FAILED hr = false)
    (hout : b' = b.output DEBUG_OUTPUT_VERBOSE "Evaluating string '%s'.\n" [.str text])
    (hstart : (Command.script command).begin e client args h =
      (b'.emit (.prov (.runString p (b'.info p).scriptProvider text)),
        .inl ⟨command, h.ctx.startVMEnabled, p, (b'.info p).scriptProvider, timeRun,
          e.startTime⟩))

/-- Without a provider, the command is at its exit at once. -/
theorem start_of_error {g : Host} {hr : HRESULT}
    (hsel : selectScript command.requires e client args h = (g, .error hr)) :
    (Command.script command).begin e client args h =
      (g, .inr (command.exitTeardown h.ctx.startVMEnabled none hr)) := by
  cases command with
  | runscript =>
    have heq : selectScript runscriptRequires e client args h = (g, .error hr) := hsel
    simp only [Command.begin, beginRunscript, heq]
  | evalstring =>
    have heq : selectScript evalstringRequires e client args h = (g, .error hr) := hsel
    simp only [Command.begin, beginEvalstring, heq]

theorem start_runscript : ScriptStart .runscript e client args h := by
  rcases heq : selectScript runscriptRequires e client args h with ⟨g, hr | ⟨parsed, p⟩⟩
  · have hpoint : loadPoint (.script .runscript) e client args h = none := by
      simp only [loadPoint, heq]
    exact .notReached g hr (congrArg Prod.fst heq) hpoint
      (start_of_error .runscript e client args h heq)
  · rcases hload : loadScriptProviderIfNeeded e.load p g with ⟨b, hr⟩
    have hl : ScriptLoads .runscript e client args h g b p hr :=
      ⟨congrArg Prod.fst heq, by simp only [loadPoint, heq], hload⟩
    by_cases hf : FAILED hr = true
    · refine .notLoaded g b p hr hl hf ?_
      simp only [Command.begin, beginRunscript, heq, hload, if_pos hf]
    · have hok : FAILED hr = false := by simpa using hf
      rcases hargs : makeArgList e parsed.remainingArgs b with ⟨b', hr' | argList⟩
      · refine .notRun g b b' p hr hr' _ hl hok hargs ?_
        simp only [Command.begin, beginRunscript, heq, hload, if_neg hf, hargs]
      · refine .run g b b' p hr _ argList parsed.timeRun hl hok hargs ?_
        simp only [Command.begin, beginRunscript, heq, hload, if_neg hf, hargs]

theorem start_evalstring : ScriptStart .evalstring e client args h := by
  rcases heq : selectScript evalstringRequires e client args h with ⟨g, hr | ⟨parsed, p⟩⟩
  · have hpoint : loadPoint (.script .evalstring) e client args h = none := by
      simp only [loadPoint, heq]
    exact .notReached g hr (congrArg Prod.fst heq) hpoint
      (start_of_error .evalstring e client args h heq)
  · by_cases hempty : parsed.remainingArgs = []
    · refine .notReached g S_OK (congrArg Prod.fst heq) ?_ ?_
      · simp only [loadPoint, heq, if_pos hempty]
      · simp only [Command.begin, beginEvalstring, heq, if_pos hempty]
    · rcases hload : loadScriptProviderIfNeeded e.load p g with ⟨b, hr⟩
      have hl : ScriptLoads .evalstring e client args h g b p hr :=
        ⟨congrArg Prod.fst heq, by simp only [loadPoint, heq, if_neg hempty], hload⟩
      by_cases hf : FAILED hr = true
      · refine .notLoaded g b p hr hl hf ?_
        simp only [Command.begin, beginEvalstring, heq, if_neg hempty, hload, if_pos hf]
      · refine .runString g b _ p hr parsed.remainingArgs parsed.timeRun hl (by simpa using hf)
          rfl ?_
        simp only [Command.begin, beginEvalstring, heq, if_neg hempty, hload, if_neg hf]

/-- Every script command is one of these. -/
theorem start_cases : ScriptStart command e client args h := by
  cases command with
  | runscript => exact start_runscript e client args h
  | evalstring => exact start_evalstring e client args h

variable {command e client args h} {g b b' : Host} {p : ProviderPtr} {hr : HRESULT}

/-- Up to the load, only the interfaces are re-acquired. -/
theorem quiet_select (hsel : (selectScript command.requires e client args h).1 = g) :
    Quiet (reAcquireIfacesIfNeeded e.qi client h).1 g := by
  rw [← hsel]
  exact (select_spec command.requires e client args h).1

theorem pool_select (hsel : (selectScript command.requires e client args h).1 = g) :
    g.pool = h.pool :=
  (quiet_select hsel).sameProviders.pool.trans (onlyCom_reAcquire e.qi client h).providers.pool

theorem ScriptLoads.onlyProviders (hl : ScriptLoads command e client args h g b p hr) :
    OnlyProviders (reAcquireIfacesIfNeeded e.qi client h).1 b := by
  have hcases := (load_cases e.load p g).1
  rw [hl.load] at hcases
  exact (quiet_select hl.select).onlyProviders.trans hcases

theorem ScriptLoads.pool_failed (hl : ScriptLoads command e client args h g b p hr)
    (hf : FAILED hr = true) :
    h.pool.slot p = none ∧ (b.pool = h.pool ∨ b.pool = h.pool.step (.load p false)) := by
  have heffect := (load_effect e.load p g).1
  rw [hl.load, pool_select hl.select] at heffect
  exact heffect hf

theorem ScriptLoads.pool_loaded (hl : ScriptLoads command e client args h g b p hr)
    (hok : FAILED hr = false) : b.pool = h.pool.step (.load p true) := by
  have heffect := (load_effect e.load p g).2
  rw [hl.load, pool_select hl.select] at heffect
  exact heffect hok

theorem quiet_args {text : List CHAR} {r : Except HRESULT (List (List WCHAR))}
    (hargs : makeArgList e text b = (b', r)) : Quiet b b' := by
  have hquiet := (quiet_makeArgList e text b).1
  rwa [hargs] at hquiet

/-- After the interfaces have been re-acquired, a script command only deals with
    instances. -/
theorem onlyProviders_begin (command : ScriptCommand) (e : CommandEnv) (client : ClientId)
    (args : AnsiStr) (h : Host) :
    OnlyProviders (reAcquireIfacesIfNeeded e.qi client h).1
      ((Command.script command).begin e client args h).1 := by
  cases start_cases command e client args h with
  | notReached g hr hsel hpoint hstart =>
    rw [hstart]
    exact (quiet_select hsel).onlyProviders
  | notLoaded g b p hr hl hf hstart =>
    rw [hstart]
    exact hl.onlyProviders
  | notRun g b b' p hr hr' text hl hok hargs hstart =>
    rw [hstart]
    exact hl.onlyProviders.trans (quiet_args hargs).onlyProviders
  | run g b b' p hr text argList timeRun hl hok hargs hstart =>
    rw [hstart]
    exact (hl.onlyProviders.trans (quiet_args hargs).onlyProviders).trans (onlyProviders_prov _ _)
  | runString g b b' p hr text timeRun hl hok hout hstart =>
    rw [hstart, hout]
    exact (hl.onlyProviders.trans (quiet_output _ _ _ _).onlyProviders).trans
      (onlyProviders_prov _ _)

/-- A call into the provider that has been loaded. -/
theorem effect_running {c : ProvCall} {f : ScriptFrame} {vm : Bool} {target : Option ProviderPtr}
    (hpool : b'.pool = h.pool.step (.load p true)) (ht : target = some p)
    (hc : c.event? = some (.use p (b'.info p).scriptProvider)) (hcommand : f.command = command)
    (hprov : f.scriptProv = p) (hvm : f.startVMEnabled = vm)
    (hinst : f.inst = (b'.info p).scriptProvider) :
    BeginEffect command vm target h.pool (b'.emit (.prov c)).pool (.inl f) := by
  refine .running p f ht hcommand hprov hvm ?_ ?_
  · rw [hinst, ← hpool]
    rfl
  · rw [← hpool]
    exact pool_event _ hc

/-- What the two script commands do up to the call into the provider or to the exit. -/
theorem begin_effect (command : ScriptCommand) (e : CommandEnv) (client : ClientId)
    (args : AnsiStr) (h : Host) :
    SameList h ((Command.script command).begin e client args h).1 ∧
      BeginEffect command h.ctx.startVMEnabled
        ((loadPoint (.script command) e client args h).map Prod.snd) h.pool
        ((Command.script command).begin e client args h).1.pool
        ((Command.script command).begin e client args h).2 := by
  have hcom := (onlyCom_reAcquire e.qi client h).providers.sameList
  refine ⟨hcom.trans (onlyProviders_begin command e client args h).sameList, ?_⟩
  cases start_cases command e client args h with
  | notReached g hr hsel hpoint hstart =>
    rw [hstart, hpoint]
    exact .notReached hr rfl (pool_select hsel)
  | notLoaded g b p hr hl hf hstart =>
    obtain ⟨hslot, hpool⟩ := hl.pool_failed hf
    rw [hstart, hl.point]
    exact .loadFailed p hr rfl hf hslot hpool
  | notRun g b b' p hr hr' text hl hok hargs hstart =>
    have hfailed := (quiet_makeArgList e text b).2
    rw [hargs] at hfailed
    rw [hstart, hl.point]
    exact .notRun p hr' rfl (hfailed hr' rfl)
      ((quiet_args hargs).sameProviders.pool.trans (hl.pool_loaded hok))
  | run g b b' p hr text argList timeRun hl hok hargs hstart =>
    rw [hstart, hl.point]
    have hpool := (quiet_args hargs).sameProviders.pool.trans (hl.pool_loaded hok)
    exact effect_running hpool rfl rfl rfl rfl rfl rfl
  | runString g b b' p hr text timeRun hl hok hout hstart =>
    have hquiet : Quiet b b' := hout ▸ quiet_output _ _ _ _
    rw [hstart, hl.point]
    exact effect_running (hquiet.sameProviders.pool.trans (hl.pool_loaded hok)) rfl rfl rfl rfl
      rfl rfl

/-- The same with the exit. -/
theorem script_effect (command : ScriptCommand) (e : CommandEnv) (client : ClientId)
    (args : AnsiStr) (h : Host) :
    SameList h ((Command.script command).start e client args h).1 ∧
      ScriptEffect h.ctx.startVMEnabled
        ((loadPoint (.script command) e client args h).map Prod.snd) h.pool
        ((Command.script command).start e client args h).1.pool
        ((Command.script command).start e client args h).2 := by
  obtain ⟨hlist, heffect⟩ := begin_effect command e client args h
  unfold Command.start
  generalize (Command.script command).begin e client args h = r at hlist heffect ⊢
  obtain ⟨b, f | ⟨t, hr⟩⟩ := r
  · refine ⟨hlist, ?_⟩
    cases heffect with
    | running p f ht hcommand hprov hvm hinst hs => exact .running p f ht hprov hvm hinst hs
  · cases heffect with
    | notReached hr ht hs =>
      exact ⟨hlist.trans (onlyProviders_exit ..).sameList,
        .notReached hr ht ((pool_exit_none ..).trans hs)⟩
    | loadFailed p hr ht hf hslot hs =>
      have hexit := pool_exit_none command h.ctx.startVMEnabled hr b
      exact ⟨hlist.trans (onlyProviders_exit ..).sameList,
        .loadFailed p hr ht hf hslot (hs.imp hexit.trans hexit.trans)⟩
    | notRun p hr ht hf hs =>
      refine ⟨hlist.trans (onlyProviders_exit ..).sameList, .notRun p hr ht hf ?_⟩
      exact (pool_exit ..).trans (congrArg (exitPool _ · p) hs)

/-- With its exit, it still only deals with instances. -/
theorem onlyProviders_script (command : ScriptCommand) (e : CommandEnv) (client : ClientId)
    (args : AnsiStr) (h : Host) :
    OnlyProviders (reAcquireIfacesIfNeeded e.qi client h).1
      ((Command.script command).start e client args h).1 := by
  have hbegin := onlyProviders_begin command e client args h
  have heffect := (begin_effect command e client args h).2
  unfold Command.start
  generalize (Command.script command).begin e client args h = r at hbegin heffect ⊢
  obtain ⟨b, f | ⟨t, hr⟩⟩ := r
  · exact hbegin
  · cases heffect with
    | notReached hr ht hs => exact hbegin.trans (onlyProviders_exit ..)
    | loadFailed p hr ht hf hslot hs => exact hbegin.trans (onlyProviders_exit ..)
    | notRun p hr ht hf hs => exact hbegin.trans (onlyProviders_exit ..)

end Script

/-- A provider that a command tries to load is registered. -/
theorem loadPoint_spec {command : Command} {e : CommandEnv} {client : ClientId} {args : AnsiStr}
    {g : Host} {p : ProviderPtr} (hp : loadPoint command e client args h = some (g, p)) :
    p ∈ h.ctx.scriptProviders ∧ g.pool = h.pool := by
  have hsel : ∀ requires parsed, selectScript requires e client args h = (g, .ok (parsed, p)) →
      p ∈ h.ctx.scriptProviders ∧ g.pool = h.pool := by
    intro requires parsed heq
    obtain ⟨hquiet, hok⟩ := select_spec requires e client args h
    have hsame := (onlyCom_reAcquire e.qi client h).providers.trans hquiet.sameProviders
    rw [heq] at hok hsame
    exact ⟨(hok parsed p rfl).2, hsame.pool⟩
  unfold loadPoint at hp
  split at hp
  · split at hp
    · next heq =>
      cases hp
      exact hsel _ _ heq
    · cases hp
  · split at hp
    · next heq =>
      split_ifs at hp
      cases hp
      exact hsel _ _ heq
    · cases hp
  · cases hp

/-! ## The other entry points -/

theorem quiet_printScriptPath (output : ℕ → HRESULT) (paths : List (List CHAR)) (k : ℕ)
    (hr : HRESULT) (h : Host) : Quiet h (printScriptPath output paths k hr h).1 := by
  induction paths generalizing k hr h with
  | nil => exact Quiet.refl h
  | cons path paths ih =>
    have h1 := quiet_output h DEBUG_OUTPUT_NORMAL "Script path: '%s'\n" [.str path]
    rw [printScriptPath]
    split_ifs
    · exact h1
    · exact h1.trans (ih _ _ _)

theorem scriptpath_spec (e : CommandEnv) (client : ClientId) (args : AnsiStr) (h : Host) :
    Quiet (reAcquireIfacesIfNeeded e.qi client h).1 (scriptpath e client args h).1 := by
  unfold scriptpath
  dsimp only
  generalize reAcquireIfacesIfNeeded e.qi client h = r
  split_ifs
  · exact Quiet.refl _
  · exact quiet_printScriptPath _ _ _ _ _
  · exact (quiet_set r.1 r.1.ctx.toOutputBuffer _ r.1.capture r.1.routing).trans
      (quiet_printScriptPath _ _ _ _ _)

theorem sameProviders_scriptpath (e : CommandEnv) (client : ClientId) (args : AnsiStr)
    (h : Host) : SameProviders h (scriptpath e client args h).1 :=
  (onlyCom_reAcquire e.qi client h).providers.trans (scriptpath_spec e client args h).sameProviders

/-- A VM command is rejected without any change to the providers, or it is accepted. -/
theorem startvm_cases (e : CommandEnv) (client : ClientId) (h : Host) :
    FAILED (startvm e client h).2 = true ∧ SameProviders h (startvm e client h).1 ∨
      FAILED (startvm e client h).2 = false ∧ h.ctx.startVMEnabled = false ∧
        (startvm e client h).1.ctx.startVMEnabled = true ∧
        (startvm e client h).1.pool = h.pool ∧
        (startvm e client h).1.ctx.scriptProviders = h.ctx.scriptProviders ∧
        (startvm e client h).1.nextNode = h.nextNode := by
  have hsame := (onlyCom_reAcquire e.qi client h).providers
  unfold startvm
  dsimp only
  generalize reAcquireIfacesIfNeeded e.qi client h = r at hsame
  split_ifs with h1 h2
  · exact Or.inl ⟨h1, hsame⟩
  · exact Or.inl ⟨failed_E_INVALIDARG, hsame.trans (quiet_output _ _ _ _).sameProviders⟩
  · refine Or.inr ⟨by simpa using h1, ?_, rfl, hsame.pool, hsame.scriptProviders, hsame.nextNode⟩
    rw [← hsame.startVMEnabled]
    simpa using h2

/-- A `stopvm` is rejected without any change to the providers, or it is accepted, and then
    it unloads all of them. -/
theorem beginStopvm_cases (e : CommandEnv) (client : ClientId) (h : Host) :
    SameProviders h (beginStopvm e client h).1 ∧
      (FAILED (beginStopvm e client h).2.2 = true ∧ (beginStopvm e client h).2.1 = .nothing ∨
        FAILED (beginStopvm e client h).2.2 = false ∧ h.ctx.startVMEnabled = true ∧
          (beginStopvm e client h).2.1 = ⟨h.ctx.scriptProviders, .stopvm⟩) := by
  have hsame := (onlyCom_reAcquire e.qi client h).providers
  unfold beginStopvm
  dsimp only
  generalize reAcquireIfacesIfNeeded e.qi client h = r at hsame
  split_ifs with h1 h2
  · exact ⟨hsame, Or.inl ⟨h1, rfl⟩⟩
  · exact ⟨hsame.trans (quiet_output _ _ _ _).sameProviders, Or.inl ⟨failed_E_INVALIDARG, rfl⟩⟩
  · refine ⟨hsame, Or.inr ⟨by simpa using h1, ?_, ?_⟩⟩
    · rw [← hsame.startVMEnabled]
      simpa using h2
    · rw [hsame.scriptProviders]

/-- A `stopvm` is accepted iff the interfaces can be acquired and the VM is on. -/
theorem stopvm_ok_iff {e : CommandEnv} {client : ClientId} {h : Host} :
    FAILED (stopvm e client h).2 = false ↔
      FAILED (reAcquireIfacesIfNeeded e.qi client h).2 = false ∧ h.ctx.startVMEnabled = true := by
  have hvm := (onlyCom_reAcquire e.qi client h).providers.startVMEnabled
  rw [← hvm]
  unfold stopvm beginStopvm
  dsimp only
  split_ifs with h1 h2
  · simp [h1]
  · rw [Bool.not_eq_true'] at h2
    simp [h2]
  · rw [Bool.not_eq_true', Bool.not_eq_false] at h2
    simp [h1, h2]

theorem stopvm_cases (e : CommandEnv) (client : ClientId) (h : Host) :
    FAILED (stopvm e client h).2 = true ∧ SameProviders h (stopvm e client h).1 ∨
      FAILED (stopvm e client h).2 = false ∧ h.ctx.startVMEnabled = true ∧
        (stopvm e client h).1.ctx.startVMEnabled = false ∧
        (stopvm e client h).1.pool =
          run Pool.step h.pool (h.ctx.scriptProviders.map .unload) ∧
        (stopvm e client h).1.ctx.scriptProviders = h.ctx.scriptProviders ∧
        (stopvm e client h).1.nextNode = h.nextNode := by
  obtain ⟨hsame, hcases⟩ := beginStopvm_cases e client h
  unfold stopvm
  generalize beginStopvm e client h = r at hsame hcases ⊢
  obtain ⟨g, t, hr⟩ := r
  dsimp only at hsame hcases ⊢
  rcases hcases with ⟨hf, rfl⟩ | ⟨hok, hvm, rfl⟩
  · exact Or.inl ⟨hf, hsame⟩
  · have hall := onlyProviders_unloadAll h.ctx.scriptProviders g
    refine Or.inr ⟨hok, hvm, rfl, ?_, hall.scriptProviders.trans hsame.scriptProviders,
      hall.nextNode.trans hsame.nextNode⟩
    rw [← hsame.pool]
    exact pool_unloadAll _ g

theorem loadExtension_spec (e : InitEnv) (h : Host) :
    ∃ g, OnlyCom h g ∧ OnlyRegisters g (debugExtensionInitialize e h).1 := by
  have hacquire := onlyCom_acquire e.qi e.client (h.emit (.com (.debugCreate e.client)))
  unfold debugExtensionInitialize
  dsimp only
  split_ifs
  · exact ⟨h, OnlyCom.refl h, (Quiet.refl h).onlyRegisters⟩
  · exact ⟨_, (onlyCom_emit h _).trans hacquire, (Quiet.refl _).onlyRegisters⟩
  · exact ⟨_, (onlyCom_emit h _).trans hacquire, register_spec _ _⟩

end DbgScript
