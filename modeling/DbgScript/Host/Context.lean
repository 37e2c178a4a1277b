import DbgScript.Common
import DbgScript.Lib.Slots

/-!
# The state of the host

The globals of the host DLL (`g_HostCtxt` of `include/hostcontext.h`, the
`ScriptProviderInfo` nodes of `src/dllmain.cpp`, the static output callbacks
object) and the log of everything the host does to the outside world: calls on
the debugger's interfaces, COM reference counting, calls into script providers.

A null interface pointer is `none`. Calling a method through it is logged like any
other call, with `none` as the object: that entry is where the process crashes.

The crash-dump snapshots of `ScriptProviderInfo` (`_CrtMemState`) and
`g_HostCtxt.HModule` are left out, as nothing but the debug CRT reads them.
-/

namespace DbgScript

open CharBuf (CStr Buf FixedStr)
open Slots (Pool)

/-! ## Objects of the debugger engine -/

/-- An `IDebugClient` object. -/
abbrev ClientId := ℕ

/-- The interfaces the host asks a client for. -/
inductive Iid where
  | IDebugControl
  | IDebugSystemObjects
  | IDebugSymbols3
  | IDebugAdvanced2
  | IDebugDataSpaces4
  deriving DecidableEq

/-- An interface pointer, with the client object it was queried from. -/
structure Iface where
  iid : Iid
  client : ClientId
  deriving DecidableEq

/-- An `IDebugOutputCallbacks` object: the host's own static one, or another. -/
inductive OutputCb where
  | dbgScript
  | other (id : ℕ)
  deriving DecidableEq

/-! ## Script providers -/

/-- The address of a `ScriptProviderInfo` node; `0` is the null pointer. -/
abbrev ProviderPtr := ℕ

/-- A module handle. -/
abbrev HMODULE := ℕ

/-- A non-null function pointer. -/
abbrev ProcAddr := ℕ

/-- An object made by a provider's factory: the node it was made for is its owner. -/
abbrev Instance := Slots.Instance ProviderPtr

/-- `ScriptProviderInfo` (src/dllmain.cpp:51-92), less the next pointer. -/
structure ScriptProviderInfo where
  dllFileName : FixedStr WCHAR (MAX_PATH + 1)
  module : Option HMODULE
  initFunc : Option ProcAddr
  cleanupFunc : Option ProcAddr
  createFunc : Option ProcAddr
  scriptProvider : Option Instance
  langId : FixedStr WCHAR MAX_LANG_ID

/-- `memset(this, 0, sizeof(*this))`. -/
def ScriptProviderInfo.zero : ScriptProviderInfo :=
  ⟨FixedStr.empty WCHAR (by decide), none, none, none, none, none, FixedStr.empty WCHAR (by decide)⟩

/-! ## `DbgScriptHostContext` -/

/-- The DbgEng interfaces of `g_HostCtxt`. -/
structure DbgEngIfaces where
  debugClient : Option ClientId
  debugControl : Option Iface
  debugSysObj : Option Iface
  debugSymbols : Option Iface
  debugAdvanced : Option Iface
  debugDataSpaces : Option Iface

/-- The buffering fields of `g_HostCtxt`: the refcount (a `LONG`), the buffer and
    the position in it. -/
structure OutputBuffer where
  isBuffering : ℤ
  messageBuf : Buf CHAR 8192
  bufPosition : ℕ

/-- `DbgScriptHostContext` (include/hostcontext.h:21-62). The linked lists are
    lists: of node addresses for `ScriptProviders`, of paths for `ScriptPath`. -/
structure DbgScriptHostContext extends DbgEngIfaces, OutputBuffer where
  scriptProviders : List ProviderPtr
  scriptPath : List (List CHAR)
  startVMEnabled : Bool

/-! ## The log -/

/-- Calls that create or drop references to a client object. -/
inductive ComCall where
  | debugCreate (client : ClientId)
  | queryInterface (client : ClientId) (iid : Iid) (hr : HRESULT)
  | releaseIface (iface : Iface)
  | releaseClient (client : ClientId)
  deriving DecidableEq

/-- Calls that load, use or unload a script provider. -/
inductive ProvCall where
  | setDllDirectory (path : List WCHAR)
  | loadLibrary (p : ProviderPtr) (module : HMODULE)
  | freeLibrary (p : ProviderPtr) (module : Option HMODULE)
  | initFunc (p : ProviderPtr) (f : Option ProcAddr)
  | cleanupFunc (p : ProviderPtr) (f : Option ProcAddr)
  | create (inst : Instance)
  | init (inst : Instance) (hr : HRESULT)
  | run (p : ProviderPtr) (inst : Option Instance) (argv : List (List WCHAR))
  | runString (p : ProviderPtr) (inst : Option Instance) (scriptString : List CHAR)
  | cleanup (inst : Instance)
  deriving DecidableEq

/-- What the host does to the outside world. -/
inductive HostCall where
  | output (control : Option Iface) (mask : ULONG) (format : String) (args : List FmtArg)
  | getOutputCallbacks (client : Option ClientId)
  | setOutputCallbacks (client : Option ClientId) (cb : Option OutputCb)
  | execute (control : Option Iface) (command : List CHAR)
  | com (call : ComCall)
  | prov (call : ProvCall)
  deriving DecidableEq

/-- The provider call of a log entry. -/
def HostCall.prov? : HostCall → Option ProvCall
  | .prov c => some c
  | _ => none

/-- The reference-counting call of a log entry. -/
def HostCall.com? : HostCall → Option ComCall
  | .com c => some c
  | _ => none

/-- The call goes through a null interface of `g_HostCtxt`. -/
def HostCall.viaNull : HostCall → Bool
  | .output control _ _ _ => control = none
  | .getOutputCallbacks client => client = none
  | .setOutputCallbacks client _ => client = none
  | .execute control _ => control = none
  | _ => false

/-- What a provider call does to instances. -/
def ProvCall.event? : ProvCall → Option (Slots.Event ProviderPtr)
  | .create inst => some (.create inst)
  | .init inst hr => some (.init inst !FAILED hr)
  | .run p inst _ => some (.use p inst)
  | .runString p inst _ => some (.use p inst)
  | .cleanup inst => some (.cleanup inst)
  | .freeLibrary p _ => some (.free p)
  | _ => none

/-! ## The host -/

/-- The host: `g_HostCtxt`, the provider nodes, the text captured by the static
    `DbgScriptOutputCallbacks` object, the callbacks the engine has installed for
    each client, and the log. `nextNode` and `nextSerial` make new nodes and
    instances distinct from old ones. -/
structure Host where
  ctx : DbgScriptHostContext
  info : ProviderPtr → ScriptProviderInfo
  capture : Buf CHAR 4096
  routing : ClientId → Option OutputCb
  log : List HostCall
  nextNode : ℕ
  nextSerial : ℕ

/-- The globals right after the DLL has been loaded, for a given routing of the
    clients' output. -/
def Host.fresh (routing : ClientId → Option OutputCb) : Host where
  ctx :=
    { debugClient := none, debugControl := none, debugSysObj := none, debugSymbols := none,
      debugAdvanced := none, debugDataSpaces := none, isBuffering := 0,
      messageBuf := Buf.zero CHAR 8192, bufPosition := 0, scriptProviders := [], scriptPath := [],
      startVMEnabled := false }
  info := fun _ => ScriptProviderInfo.zero
  capture := Buf.zero CHAR 4096
  routing := routing
  log := []
  nextNode := 1
  nextSerial := 0

/-- The provider calls, the reference-counting calls and the calls through null
    interfaces made so far. -/
def Host.provCalls (h : Host) : List ProvCall := h.log.filterMap HostCall.prov?
def Host.comCalls (h : Host) : List ComCall := h.log.filterMap HostCall.com?
def Host.nullCalls (h : Host) : List HostCall := h.log.filter HostCall.viaNull

/-- The provider instances: the slot of a node is its `ScriptProvider`. -/
def Host.pool (h : Host) : Pool ProviderPtr where
  slot p := (h.info p).scriptProvider
  next := h.nextSerial
  trace := h.provCalls.filterMap ProvCall.event?

/-- Log a call. -/
def Host.emit (h : Host) (c : HostCall) : Host := { h with log := h.log ++ [c] }

/-- `DebugControl->Output(mask, format, args...)`. -/
def Host.output (h : Host) (mask : ULONG) (format : String) (args : List FmtArg) : Host :=
  h.emit (.output h.ctx.debugControl mask format args)

/-- Write the node `p`. -/
def Host.setInfo (h : Host) (p : ProviderPtr) (i : ScriptProviderInfo) : Host :=
  { h with info := Function.update h.info p i }

@[simp] theorem emit_info (h : Host) (c : HostCall) : (h.emit c).info = h.info := rfl
@[simp] theorem emit_log (h : Host) (c : HostCall) : (h.emit c).log = h.log ++ [c] := rfl
@[simp] theorem emit_nextSerial (h : Host) (c : HostCall) :
    (h.emit c).nextSerial = h.nextSerial := rfl

@[simp] theorem setInfo_info (h : Host) (p : ProviderPtr) (i : ScriptProviderInfo) :
    (h.setInfo p i).info = Function.update h.info p i := rfl

end DbgScript
