import DbgScript.Host.Frames

/-!
# Script providers

Registration, loading and unloading of script providers (src/dllmain.cpp:173-494).
`ScriptProvider` being non-null is the only sign that a provider is loaded. It is set
before the instance's `Init` is called, and stays set when `Init` fails.

* `load_cases`: the outcomes of `loadScriptProviderIfNeeded`.
* `pool_unload`, `pool_unloadAll`: unloading empties the slots.
* `register_spec`: registration only prepends new nodes with empty slots.
-/

namespace DbgScript

open CharBuf (CStr FixedStr)
open Slots (Pool)
open Runs (run)

/-! ## Model -/

/-- The exports of a provider DLL, in the order of `x_CallbackBindings`. -/
inductive CallbackExport where
  | SCRIPT_PROV_INIT
  | SCRIPT_PROV_CLEANUP
  | SCRIPT_PROV_CREATE

def x_CallbackBindings : List CallbackExport :=
  [.SCRIPT_PROV_INIT, .SCRIPT_PROV_CLEANUP, .SCRIPT_PROV_CREATE]

/-- `*storeLoc = f` for the field that a callback is bound to. -/
def ScriptProviderInfo.setCallback (info : ScriptProviderInfo) (f : Option ProcAddr) :
    CallbackExport → ScriptProviderInfo
  | .SCRIPT_PROV_INIT => { info with initFunc := f }
  | .SCRIPT_PROV_CLEANUP => { info with cleanupFunc := f }
  | .SCRIPT_PROV_CREATE => { info with createFunc := f }

/-- The results of the outside calls made while a provider is loaded: whether
    `SetDllDirectory` fails, the module or the error of `LoadLibrary`, the addresses
    of the exports, whether the factory returns an object, and the result of `Init`. -/
structure LoadEnv where
  setDllDirectory : Option Win32Error
  loadLibrary : Except Win32Error HMODULE
  getProcAddress : CallbackExport → Except Win32Error ProcAddr
  createFunc : Bool
  init : HRESULT

/-- The part of a path before its last backslash. -/
def dllDirectory (path : List WCHAR) : Option (List WCHAR) :=
  match path.reverse.dropWhile (· ≠ 92) with
  | [] => none
  | _ :: dir => some dir.reverse

/-- The loop that binds the callbacks (src/dllmain.cpp:281-291). -/
def bindCallbacks (e : LoadEnv) (p : ProviderPtr) :
    List CallbackExport → Host → Host × Option Win32Error
  | [], h => (h, none)
  | f :: fs, h =>
    match e.getProcAddress f with
    | .error err => (h.setInfo p ((h.info p).setCallback none f), some err)
    | .ok addr => bindCallbacks e p fs (h.setInfo p ((h.info p).setCallback (some addr) f))

/-- `info->ScriptProvider = info->CreateFunc()` with a new object, and its `Init`. -/
def createInstance (e : LoadEnv) (p : ProviderPtr) (h : Host) : Host :=
  let inst : Instance := ⟨p, h.nextSerial⟩
  let h := { h.emit (.prov (.create inst)) with nextSerial := h.nextSerial + 1 }
  let h := h.setInfo p { h.info p with scriptProvider := some inst }
  h.emit (.prov (.init inst e.init))

/-- `loadAndCreateScriptProvider` (src/dllmain.cpp:234-314). -/
def loadAndCreateScriptProvider (e : LoadEnv) (p : ProviderPtr) (h : Host) : Host × HRESULT :=
  let info := h.info p
  match dllDirectory (info.dllFileName.chars.take (MAX_PATH - 1)) with
  | none =>
    (h.output DEBUG_OUTPUT_ERROR "Error: Invalid DLL Path '%ls' for provider '%ls'\n"
      [.wstr info.dllFileName.chars, .wstr info.langId.chars], E_INVALIDARG)
  | some dllPath =>
    let h := h.emit (.prov (.setDllDirectory dllPath))
    match e.setDllDirectory with
    | some err => (h, hresultFromWin32 err.code)
    | none =>
      match e.loadLibrary with
      | .error err => (h.setInfo p { info with module := none }, hresultFromWin32 err.code)
      | .ok m =>
        let h := (h.emit (.prov (.loadLibrary p m))).setInfo p { info with module := some m }
        match bindCallbacks e p x_CallbackBindings h with
        | (h, some err) => (h, hresultFromWin32 err.code)
        | (h, none) =>
          let h := h.emit (.prov (.initFunc p (h.info p).initFunc))
          if e.createFunc then (createInstance e p h, e.init)
          else (h.setInfo p { h.info p with scriptProvider := none }, E_FAIL)

/-- `loadScriptProviderIfNeeded` (src/dllmain.cpp:329-338). -/
def loadScriptProviderIfNeeded (e : LoadEnv) (p : ProviderPtr) (h : Host) : Host × HRESULT :=
  match (h.info p).scriptProvider with
  | none => loadAndCreateScriptProvider e p h
  | some _ => (h, S_OK)

/-- `unloadScriptProvider` from the return of the instance's `Cleanup` on
    (src/dllmain.cpp:182-218). -/
def endUnload (h : Host) (p : ProviderPtr) : Host :=
  let h := h.emit (.prov (.cleanupFunc p (h.info p).cleanupFunc))
  let h := h.emit (.prov (.freeLibrary p (h.info p).module))
  h.setInfo p { h.info p with
    scriptProvider := none
    module := none
    createFunc := none
    cleanupFunc := none
    initFunc := none }

/-- `unloadScriptProvider` (src/dllmain.cpp:173-219). The provider's `Cleanup` runs script
    code, and `during p` is what that does to the host. -/
def unloadScriptProviderWith (during : ProviderPtr → Host → Host) (h : Host) (p : ProviderPtr) :
    Host :=
  match (h.info p).scriptProvider with
  | none => h
  | some inst => endUnload (during p (h.emit (.prov (.cleanup inst)))) p

/-- Nothing happens while `Cleanup` runs. -/
def nothingDuring : ProviderPtr → Host → Host := fun _ h => h

def unloadScriptProvider (h : Host) (p : ProviderPtr) : Host :=
  unloadScriptProviderWith nothingDuring h p

/-- A value that `RegEnumValue` returns. -/
structure ProviderValue where
  valName : CStr WCHAR
  isString : Bool
  data : CStr WCHAR

/-- The registry: whether `RegOpenKey` fails, and the results of the `RegEnumValue`
    calls up to `ERROR_NO_MORE_ITEMS`. -/
structure Registry where
  openKey : Option Win32Error
  values : List (Except Win32Error ProviderValue)

/-- A wide string literal. -/
def wide (s : String) : List WCHAR := s.toList.map fun c => c.toNat.toUInt16

def ERROR_FILE_NOT_FOUND : BitVec 32 := 2#32

def x_ProviderKey : List WCHAR := wide "Software\\Microsoft\\DbgScript\\Providers"

/-- Prepend a node for a registry value (src/dllmain.cpp:466-475). -/
def addProvider (v : ProviderValue) (h : Host) : Host :=
  let info := { ScriptProviderInfo.zero with
    langId := FixedStr.cchCopy (Nat.succ_pos 63) v.valName
    dllFileName := FixedStr.cchCopy (Nat.succ_pos MAX_PATH) v.data }
  { h.setInfo h.nextNode info with
    ctx := { h.ctx with scriptProviders := h.nextNode :: h.ctx.scriptProviders }
    nextNode := h.nextNode + 1 }

/-- The enumeration loop of `registerScriptProviders` (src/dllmain.cpp:436-477). -/
def registerValues : List (Except Win32Error ProviderValue) → Host → Host × HRESULT
  | [], h => (h, S_OK)
  | .error err :: _, h => (h, hresultFromWin32 err.code)
  | .ok v :: values, h =>
    if v.isString then registerValues values (addProvider v h)
    else
      (h.output DEBUG_OUTPUT_ERROR "Error: Provider value '%ls' not REG_SZ.\n"
        [.wstr v.valName.chars], E_INVALIDARG)

/-- `registerScriptProviders` (src/dllmain.cpp:412-494). -/
def registerScriptProviders (r : Registry) (h : Host) : Host × HRESULT :=
  match r.openKey with
  | some err =>
    let h :=
      if err.code = ERROR_FILE_NOT_FOUND then
        h.output DEBUG_OUTPUT_ERROR
          "Error: Registry key 'HKCU\\%ls' not found. Did you install the providers?\n"
          [.wstr x_ProviderKey]
      else h
    (h, hresultFromWin32 err.code)
  | none =>
    let (h, hr) := registerValues r.values h
    if FAILED hr then (h, hr)
    else if h.ctx.scriptProviders = [] then
      (h.output DEBUG_OUTPUT_ERROR "Error: No script providers found!\n" [], E_INVALIDARG)
    else (h, S_OK)

/-! ## The pool of instances -/

/-- From `h` to `h'` the host has only dealt with instances of registered providers. -/
structure OnlyProviders (h h' : Host) : Prop where
  ifaces : SameIfaces h h'
  scriptProviders : h'.ctx.scriptProviders = h.ctx.scriptProviders
  startVMEnabled : h'.ctx.startVMEnabled = h.ctx.startVMEnabled
  nextNode : h'.nextNode = h.nextNode

variable {h h' h'' : Host}

theorem OnlyProviders.refl (h : Host) : OnlyProviders h h := ⟨SameIfaces.refl h, rfl, rfl, rfl⟩

theorem OnlyProviders.trans (h1 : OnlyProviders h h') (h2 : OnlyProviders h' h'') :
    OnlyProviders h h'' :=
  ⟨h1.ifaces.trans h2.ifaces, h2.scriptProviders.trans h1.scriptProviders,
    h2.startVMEnabled.trans h1.startVMEnabled, h2.nextNode.trans h1.nextNode⟩

theorem Quiet.onlyProviders (hq : Quiet h h') : OnlyProviders h h' :=
  ⟨hq.sameIfaces, hq.scriptProviders, hq.startVMEnabled, hq.nextNode⟩

theorem sameIfaces_prov (h : Host) (c : ProvCall) : SameIfaces h (h.emit (.prov c)) := by
  refine ⟨rfl, ?_, fun _ _ => ?_⟩
  · simp [Host.comCalls, HostCall.com?]
  · simp [Host.nullCalls, HostCall.viaNull]

theorem onlyProviders_prov (h : Host) (c : ProvCall) : OnlyProviders h (h.emit (.prov c)) :=
  ⟨sameIfaces_prov h c, rfl, rfl, rfl⟩

theorem onlyProviders_setInfo (h : Host) (p : ProviderPtr) (i : ScriptProviderInfo) :
    OnlyProviders h (h.setInfo p i) :=
  ⟨⟨rfl, rfl, fun _ _ => rfl⟩, rfl, rfl, rfl⟩

/-- A provider call that does nothing to instances. -/
theorem pool_prov (h : Host) {c : ProvCall} (hc : c.event? = none) :
    (h.emit (.prov c)).pool = h.pool := by
  simp [Host.pool, Host.provCalls, HostCall.prov?, hc]

theorem pool_event (h : Host) {c : ProvCall} {ev : Slots.Event ProviderPtr}
    (hc : c.event? = some ev) :
    (h.emit (.prov c)).pool = { h.pool with trace := h.pool.trace ++ [ev] } := by
  simp [Host.pool, Host.provCalls, HostCall.prov?, hc]

theorem pool_setInfo (h : Host) (p : ProviderPtr) (i : ScriptProviderInfo) :
    (h.setInfo p i).pool =
      { h.pool with slot := Function.update h.pool.slot p i.scriptProvider } := by
  unfold Host.pool
  congr 1
  funext q
  by_cases hq : q = p
  · rw [hq]
    simp
  · simp [hq]

/-- Writing a node without touching its slot. -/
theorem pool_setInfo_same (h : Host) {p : ProviderPtr} {i : ScriptProviderInfo}
    (hi : i.scriptProvider = (h.info p).scriptProvider) : (h.setInfo p i).pool = h.pool := by
  rw [pool_setInfo, hi]
  show { h.pool with slot := Function.update h.pool.slot p (h.pool.slot p) } = h.pool
  rw [Function.update_eq_self]

/-! ## Loading -/

theorem setCallback_slot (i : ScriptProviderInfo) (f : Option ProcAddr) (c : CallbackExport) :
    (i.setCallback f c).scriptProvider = i.scriptProvider := by
  cases c <;> rfl

theorem bindCallbacks_spec (e : LoadEnv) (p : ProviderPtr) (fs : List CallbackExport) (h : Host) :
    OnlyProviders h (bindCallbacks e p fs h).1 ∧ (bindCallbacks e p fs h).1.pool = h.pool := by
  induction fs generalizing h with
  | nil => exact ⟨OnlyProviders.refl h, rfl⟩
  | cons f fs ih =>
    simp only [bindCallbacks]
    split
    · exact ⟨onlyProviders_setInfo _ _ _, pool_setInfo_same h (setCallback_slot _ _ _)⟩
    · obtain ⟨h1, h2⟩ := ih _
      exact ⟨(onlyProviders_setInfo _ _ _).trans h1,
        h2.trans (pool_setInfo_same h (setCallback_slot _ _ _))⟩

theorem createInstance_spec (e : LoadEnv) (p : ProviderPtr) (h : Host) :
    OnlyProviders h (createInstance e p h) ∧
      (h.pool.slot p = none →
        (createInstance e p h).pool = h.pool.step (.load p !FAILED e.init)) := by
  constructor
  · have h1 : OnlyProviders h
        { h.emit (.prov (.create ⟨p, h.nextSerial⟩)) with nextSerial := h.nextSerial + 1 } := by
      obtain ⟨hi, hl, hv, hn⟩ := onlyProviders_prov h (.create ⟨p, h.nextSerial⟩)
      exact ⟨⟨hi.ifaces, hi.comCalls, hi.nullCalls⟩, hl, hv, hn⟩
    exact (h1.trans (onlyProviders_setInfo _ _ _)).trans (onlyProviders_prov _ _)
  · intro hslot
    unfold createInstance
    dsimp only
    rw [Slots.step_load_none hslot, pool_event _ rfl, pool_setInfo]
    simp [Host.pool, Host.provCalls, HostCall.prov?, ProvCall.event?]

/-- The outcomes of loading an unloaded provider: no instance, or an instance whose
    `Init` decides the result. -/
theorem loadAndCreate_cases (e : LoadEnv) (p : ProviderPtr) (h : Host)
    (hslot : h.pool.slot p = none) :
    OnlyProviders h (loadAndCreateScriptProvider e p h).1 ∧
      (FAILED (loadAndCreateScriptProvider e p h).2 = true ∧
          (loadAndCreateScriptProvider e p h).1.pool = h.pool ∨
        (loadAndCreateScriptProvider e p h).2 = e.init ∧
          (loadAndCreateScriptProvider e p h).1.pool = h.pool.step (.load p !FAILED e.init)) := by
  unfold loadAndCreateScriptProvider
  dsimp only
  split
  · have hq := quiet_output h DEBUG_OUTPUT_ERROR
      "Error: Invalid DLL Path '%ls' for provider '%ls'\n"
      [.wstr (h.info p).dllFileName.chars, .wstr (h.info p).langId.chars]
    exact ⟨hq.onlyProviders, Or.inl ⟨failed_E_INVALIDARG, hq.sameProviders.pool⟩⟩
  · next dllPath _ =>
    have h1 := onlyProviders_prov h (.setDllDirectory dllPath)
    have p1 : (h.emit (.prov (.setDllDirectory dllPath))).pool = h.pool := pool_prov h rfl
    split
    · exact ⟨h1, Or.inl ⟨failed_hresultFromWin32 _, p1⟩⟩
    · split
      · refine ⟨h1.trans (onlyProviders_setInfo _ _ _), Or.inl ⟨failed_hresultFromWin32 _, ?_⟩⟩
        exact (pool_setInfo_same _ (by rfl)).trans p1
      · next m _ =>
        set g := ((h.emit (.prov (.setDllDirectory dllPath))).emit
          (.prov (.loadLibrary p m))).setInfo p { h.info p with module := some m } with hg
        have h2 : OnlyProviders h g :=
          (h1.trans (onlyProviders_prov _ _)).trans (onlyProviders_setInfo _ _ _)
        have p2 : g.pool = h.pool := by
          rw [hg]
          exact (pool_setInfo_same _ (by rfl)).trans ((pool_prov _ (by rfl)).trans p1)
        obtain ⟨hb1, hb2⟩ := bindCallbacks_spec e p x_CallbackBindings g
        split
        · next heq =>
          rw [heq] at hb1 hb2
          exact ⟨h2.trans hb1, Or.inl ⟨failed_hresultFromWin32 _, hb2.trans p2⟩⟩
        · next b heq =>
          rw [heq] at hb1 hb2
          have h3 := (h2.trans hb1).trans (onlyProviders_prov b (.initFunc p (b.info p).initFunc))
          have p3 : (b.emit (.prov (.initFunc p (b.info p).initFunc))).pool = h.pool :=
            (pool_prov b rfl).trans (hb2.trans p2)
          have hslot3 : (b.emit (.prov (.initFunc p (b.info p).initFunc))).pool.slot p = none := by
            rw [p3, hslot]
          split_ifs
          · obtain ⟨hc1, hc2⟩ := createInstance_spec e p
              (b.emit (.prov (.initFunc p (b.info p).initFunc)))
            exact ⟨h3.trans hc1, Or.inr ⟨rfl, (hc2 hslot3).trans (by rw [p3])⟩⟩
          · refine ⟨h3.trans (onlyProviders_setInfo _ _ _), Or.inl ⟨failed_E_FAIL, ?_⟩⟩
            exact (pool_setInfo_same _ (by exact hslot3.symm)).trans p3

/-- The outcomes of `loadScriptProviderIfNeeded`: the provider is loaded already; there
    is no instance; or there is a new one, with the result of its `Init`. -/
theorem load_cases (e : LoadEnv) (p : ProviderPtr) (h : Host) :
    OnlyProviders h (loadScriptProviderIfNeeded e p h).1 ∧
      (h.pool.slot p ≠ none ∧ loadScriptProviderIfNeeded e p h = (h, S_OK) ∨
        h.pool.slot p = none ∧ FAILED (loadScriptProviderIfNeeded e p h).2 = true ∧
          (loadScriptProviderIfNeeded e p h).1.pool = h.pool ∨
        h.pool.slot p = none ∧ (loadScriptProviderIfNeeded e p h).2 = e.init ∧
          (loadScriptProviderIfNeeded e p h).1.pool = h.pool.step (.load p !FAILED e.init)) := by
  cases hslot : (h.info p).scriptProvider with
  | some i =>
    have heq : loadScriptProviderIfNeeded e p h = (h, S_OK) := by
      rw [loadScriptProviderIfNeeded, hslot]
    have hne : h.pool.slot p ≠ none := by
      show (h.info p).scriptProvider ≠ none
      rw [hslot]
      exact Option.some_ne_none i
    rw [heq]
    exact ⟨OnlyProviders.refl h, Or.inl ⟨hne, rfl⟩⟩
  | none =>
    have heq : loadScriptProviderIfNeeded e p h = loadAndCreateScriptProvider e p h := by
      rw [loadScriptProviderIfNeeded, hslot]
    obtain ⟨h1, h2⟩ := loadAndCreate_cases e p h hslot
    rw [heq]
    refine ⟨h1, Or.inr ?_⟩
    rcases h2 with ⟨hf, hp⟩ | ⟨hr, hp⟩
    · exact Or.inl ⟨hslot, hf, hp⟩
    · exact Or.inr ⟨hslot, hr, hp⟩

/-- What a load does to the pool, by its result. -/
theorem load_effect (e : LoadEnv) (p : ProviderPtr) (h : Host) :
    (FAILED (loadScriptProviderIfNeeded e p h).2 = true →
      h.pool.slot p = none ∧ ((loadScriptProviderIfNeeded e p h).1.pool = h.pool ∨
        (loadScriptProviderIfNeeded e p h).1.pool = h.pool.step (.load p false))) ∧
      (FAILED (loadScriptProviderIfNeeded e p h).2 = false →
        (loadScriptProviderIfNeeded e p h).1.pool = h.pool.step (.load p true)) := by
  obtain ⟨-, hcases⟩ := load_cases e p h
  rcases hcases with ⟨hslot, heq⟩ | ⟨hslot, hf, hp⟩ | ⟨hslot, hr, hp⟩
  · obtain ⟨i, hi⟩ := Option.ne_none_iff_exists'.mp hslot
    rw [heq]
    exact ⟨fun hf => by simp at hf, fun _ => (Slots.step_load_some hi true).symm⟩
  · exact ⟨fun _ => ⟨hslot, Or.inl hp⟩, fun hok => by simp [hf] at hok⟩
  · refine ⟨fun hf => ⟨hslot, Or.inr ?_⟩, fun hok => ?_⟩
    · rw [hp, ← hr, hf]
      rfl
    · rw [hp, ← hr, hok]
      rfl

/-! ## Unloading -/

theorem onlyProviders_endUnload (h : Host) (p : ProviderPtr) : OnlyProviders h (endUnload h p) :=
  ((onlyProviders_prov h _).trans (onlyProviders_prov _ _)).trans (onlyProviders_setInfo _ _ _)

theorem pool_cleanup (h : Host) {p : ProviderPtr} {i : Instance} (hslot : h.pool.slot p = some i) :
    (h.emit (.prov (.cleanup i))).pool = h.pool.step (.cleanup p) := by
  rw [Slots.step_cleanup_some hslot]
  exact pool_event h rfl

theorem pool_endUnload (h : Host) (p : ProviderPtr) :
    (endUnload h p).pool = h.pool.step (.free p) := by
  unfold endUnload
  dsimp only
  rw [pool_setInfo, pool_event _ rfl, pool_prov _ rfl]
  rfl

theorem onlyProviders_unload (h : Host) (p : ProviderPtr) :
    OnlyProviders h (unloadScriptProvider h p) := by
  unfold unloadScriptProvider unloadScriptProviderWith
  split
  · exact OnlyProviders.refl h
  · exact (onlyProviders_prov h _).trans (onlyProviders_endUnload _ p)

theorem pool_unload (h : Host) (p : ProviderPtr) :
    (unloadScriptProvider h p).pool = h.pool.step (.unload p) := by
  unfold unloadScriptProvider unloadScriptProviderWith
  split
  · next hslot => exact (Slots.step_unload_none hslot).symm
  · next inst hslot =>
    have hpool : h.pool.slot p = some inst := hslot
    rw [Slots.step_unload_eq hpool, pool_endUnload]
    exact congrArg (fun s : Pool ProviderPtr => s.step (.free p)) (pool_cleanup h hpool)

theorem onlyProviders_unloadAll (ps : List ProviderPtr) (h : Host) :
    OnlyProviders h (ps.foldl unloadScriptProvider h) := by
  induction ps generalizing h with
  | nil => exact OnlyProviders.refl h
  | cons p ps ih => exact (onlyProviders_unload h p).trans (ih _)

theorem pool_unloadAll (ps : List ProviderPtr) (h : Host) :
    (ps.foldl unloadScriptProvider h).pool = run Pool.step h.pool (ps.map .unload) := by
  induction ps generalizing h with
  | nil => rfl
  | cons p ps ih => rw [List.foldl_cons, ih, pool_unload, List.map_cons, Runs.run_cons]

/-! ## Registration -/

/-- From `h` to `h'` the host has only registered providers: nodes numbered from
    `h.nextNode` on, with empty slots. -/
structure OnlyRegisters (h h' : Host) : Prop where
  ifaces : SameIfaces h h'
  startVMEnabled : h'.ctx.startVMEnabled = h.ctx.startVMEnabled
  provCalls : h'.provCalls = h.provCalls
  nextSerial : h'.nextSerial = h.nextSerial
  scriptProviders : ∃ ps, h'.ctx.scriptProviders = ps ++ h.ctx.scriptProviders ∧
    ∀ p ∈ ps, p < h'.nextNode
  slot : ∀ p, h'.pool.slot p = h.pool.slot p ∨ h.nextNode ≤ p ∧ h'.pool.slot p = none
  nextNode : h.nextNode ≤ h'.nextNode

theorem Quiet.onlyRegisters (hq : Quiet h h') : OnlyRegisters h h' :=
  ⟨hq.sameIfaces, hq.startVMEnabled, hq.sameProviders.provCalls, hq.nextSerial,
    ⟨[], hq.scriptProviders, by simp⟩, fun p => Or.inl (by rw [hq.sameProviders.pool]),
    hq.nextNode.ge⟩

theorem OnlyRegisters.trans (h1 : OnlyRegisters h h') (h2 : OnlyRegisters h' h'') :
    OnlyRegisters h h'' := by
  obtain ⟨ps1, hps1, hlt1⟩ := h1.scriptProviders
  obtain ⟨ps2, hps2, hlt2⟩ := h2.scriptProviders
  refine ⟨h1.ifaces.trans h2.ifaces, h2.startVMEnabled.trans h1.startVMEnabled,
    h2.provCalls.trans h1.provCalls, h2.nextSerial.trans h1.nextSerial, ⟨ps2 ++ ps1, ?_, ?_⟩,
    fun p => ?_, h1.nextNode.trans h2.nextNode⟩
  · rw [hps2, hps1, List.append_assoc]
  · intro p hp
    rcases List.mem_append.mp hp with hp | hp
    · exact hlt2 p hp
    · exact (hlt1 p hp).trans_le h2.nextNode
  · rcases h2.slot p with hp2 | ⟨hle, hp2⟩
    · rw [hp2]
      exact h1.slot p
    · exact Or.inr ⟨h1.nextNode.trans hle, hp2⟩

theorem onlyRegisters_add (v : ProviderValue) (h : Host) : OnlyRegisters h (addProvider v h) := by
  refine ⟨⟨rfl, rfl, fun _ _ => rfl⟩, rfl, rfl, rfl,
    ⟨[h.nextNode], rfl, by simp [addProvider]⟩, fun p => ?_, Nat.le_succ _⟩
  by_cases hp : p = h.nextNode
  · right
    rw [hp]
    refine ⟨le_rfl, ?_⟩
    simp [addProvider, Host.pool, Host.setInfo, ScriptProviderInfo.zero]
  · left
    simp [addProvider, Host.pool, Host.setInfo, hp]

theorem onlyRegisters_values (values : List (Except Win32Error ProviderValue)) (h : Host) :
    OnlyRegisters h (registerValues values h).1 := by
  induction values generalizing h with
  | nil => exact (Quiet.refl h).onlyRegisters
  | cons v values ih =>
    cases v with
    | error err => exact (Quiet.refl h).onlyRegisters
    | ok v =>
      rw [registerValues]
      split_ifs
      · exact (onlyRegisters_add v h).trans (ih _)
      · exact (quiet_output h _ _ _).onlyRegisters

/-- Registration only prepends new nodes. -/
theorem register_spec (r : Registry) (h : Host) :
    OnlyRegisters h (registerScriptProviders r h).1 := by
  unfold registerScriptProviders
  split
  · dsimp only
    split_ifs
    · exact (quiet_output h _ _ _).onlyRegisters
    · exact (Quiet.refl h).onlyRegisters
  · have h1 := onlyRegisters_values r.values h
    dsimp only
    split_ifs
    · exact h1
    · exact h1.trans (quiet_output _ _ _ _).onlyRegisters
    · exact h1

end DbgScript
