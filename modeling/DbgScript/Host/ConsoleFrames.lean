import DbgScript.Host.Commands
import DbgScript.Support.ScriptOutput

/-!
# What the host prints itself

The commands of the host talk to the debugger, but none of what they print is a script's
text, and only the exit of `runscript` touches the output buffer.

* `sameConsole_reAcquire`, `sameConsole_select`, `sameConsole_load`, `sameConsole_endUnload`:
  the functions that the commands are made of leave the console alone.
-/

namespace DbgScript

variable {h h' : Host}

/-! ## Interfaces -/

theorem sameConsole_setIfaces (h : Host) (i : DbgEngIfaces) : SameConsole h (h.setIfaces i) :=
  ⟨rfl, rfl, rfl⟩

theorem sameConsole_queryInterfaces (qi : Iid → HRESULT) (client : ClientId) (iids : List Iid)
    (hr : HRESULT) (h : Host) : SameConsole h (queryInterfaces qi client iids hr h).1 := by
  induction iids generalizing hr h with
  | nil => exact SameConsole.refl h
  | cons iid iids ih =>
    have hone : SameConsole h (queryInterface qi client iid h) :=
      (sameConsole_emit h rfl).trans (sameConsole_setIfaces _ _)
    rw [queryInterfaces]
    split_ifs
    · exact hone
    · exact hone.trans (ih _ _)

theorem sameConsole_acquire (qi : Iid → HRESULT) (client : ClientId) (h : Host) :
    SameConsole h (acquireDbgEngIfaces qi client h).1 :=
  (sameConsole_setIfaces h _).trans (sameConsole_queryInterfaces ..)

theorem sameConsole_releaseIfaces (iids : List Iid) (h : Host) :
    SameConsole h (iids.foldl releaseIface h) := by
  induction iids generalizing h with
  | nil => exact SameConsole.refl h
  | cons iid iids ih =>
    have hone : SameConsole h (releaseIface h iid) := by
      unfold releaseIface
      split
      · exact (sameConsole_emit h rfl).trans (sameConsole_setIfaces _ _)
      · exact SameConsole.refl h
    exact hone.trans (ih _)

theorem sameConsole_release (h : Host) : SameConsole h (releaseDbgEngIfaces h) := by
  have hall := sameConsole_releaseIfaces acquireOrder.reverse h
  unfold releaseDbgEngIfaces
  dsimp only
  split
  · exact (hall.trans (sameConsole_emit _ rfl)).trans (sameConsole_setIfaces _ _)
  · exact hall

theorem sameConsole_reAcquire (qi : Iid → HRESULT) (client : ClientId) (h : Host) :
    SameConsole h (reAcquireIfacesIfNeeded qi client h).1 := by
  unfold reAcquireIfacesIfNeeded
  split_ifs
  · exact (sameConsole_release h).trans (sameConsole_acquire ..)
  · exact SameConsole.refl h

/-! ## Arguments -/

theorem sameConsole_parseLoop (mem : List CHAR) (str : ℕ) (parsed : ParsedArgs) (h : Host) :
    SameConsole h (parseLoop mem str parsed h).1 := by
  fun_induction parseLoop mem str parsed h <;>
    first
    | exact SameConsole.refl _
    | exact sameConsole_output _ _ _ (by decide)
    | assumption

theorem sameConsole_parseArgs (args : AnsiStr) (h : Host) :
    SameConsole h (parseArgs args h).1 :=
  sameConsole_parseLoop ..

theorem sameConsole_find (langId : Option (List WCHAR)) (h : Host) :
    SameConsole h (findScriptProvider langId h).1 := by
  unfold findScriptProvider
  dsimp only
  split
  · exact SameConsole.refl h
  · split
    · exact SameConsole.refl h
    · exact sameConsole_output h _ _ (by decide)

theorem sameConsole_select {requires : String} (hr : requires ≠ "%s") (e : CommandEnv)
    (client : ClientId) (args : AnsiStr) (h : Host) :
    SameConsole h (selectScript requires e client args h).1 := by
  have hacquire := sameConsole_reAcquire e.qi client h
  unfold selectScript
  dsimp only
  generalize reAcquireIfacesIfNeeded e.qi client h = r at hacquire
  have hparse := hacquire.trans (sameConsole_parseArgs args r.1)
  have hfind := hparse.trans
    (sameConsole_find (some (parseArgs args r.1).2.2.langId.str) (parseArgs args r.1).1)
  split_ifs
  · exact hacquire
  · exact hacquire.trans (sameConsole_output _ _ _ hr)
  · exact hparse
  · exact hfind
  · exact hfind

theorem sameConsole_makeArgList (e : CommandEnv) (remainingArgs : List CHAR) (h : Host) :
    SameConsole h (makeArgList e remainingArgs h).1 := by
  unfold makeArgList
  split
  · exact sameConsole_output h _ _ (by decide)
  · split
    · exact sameConsole_output h _ _ (by decide)
    · exact SameConsole.refl h

/-! ## Providers -/

theorem sameConsole_prov (h : Host) (c : ProvCall) : SameConsole h (h.emit (.prov c)) :=
  sameConsole_emit h rfl

theorem sameConsole_setInfo (h : Host) (p : ProviderPtr) (i : ScriptProviderInfo) :
    SameConsole h (h.setInfo p i) :=
  ⟨rfl, rfl, rfl⟩

theorem sameConsole_bindCallbacks (e : LoadEnv) (p : ProviderPtr) (fs : List CallbackExport)
    (h : Host) : SameConsole h (bindCallbacks e p fs h).1 := by
  induction fs generalizing h with
  | nil => exact SameConsole.refl h
  | cons f fs ih =>
    simp only [bindCallbacks]
    split
    · exact sameConsole_setInfo ..
    · exact (sameConsole_setInfo ..).trans (ih _)

theorem sameConsole_createInstance (e : LoadEnv) (p : ProviderPtr) (h : Host) :
    SameConsole h (createInstance e p h) := by
  have hcreate : SameConsole h
      { h.emit (.prov (.create ⟨p, h.nextSerial⟩)) with nextSerial := h.nextSerial + 1 } :=
    (sameConsole_prov h _).trans ⟨rfl, rfl, rfl⟩
  exact (hcreate.trans (sameConsole_setInfo ..)).trans (sameConsole_prov ..)

theorem sameConsole_loadAndCreate (e : LoadEnv) (p : ProviderPtr) (h : Host) :
    SameConsole h (loadAndCreateScriptProvider e p h).1 := by
  unfold loadAndCreateScriptProvider
  dsimp only
  split
  · exact sameConsole_output h _ _ (by decide)
  · next dllPath _ =>
    have hset := sameConsole_prov h (.setDllDirectory dllPath)
    split
    · exact hset
    · split
      · exact hset.trans (sameConsole_setInfo ..)
      · next m _ =>
        have hlib := (hset.trans (sameConsole_prov _ (.loadLibrary p m))).trans
          (sameConsole_setInfo _ p { h.info p with module := some m })
        have hbind := hlib.trans (sameConsole_bindCallbacks e p x_CallbackBindings _)
        split
        · next heq =>
          rw [heq] at hbind
          exact hbind
        · next b heq =>
          rw [heq] at hbind
          have hinit := hbind.trans (sameConsole_prov b (.initFunc p (b.info p).initFunc))
          split_ifs
          · exact hinit.trans (sameConsole_createInstance ..)
          · exact hinit.trans (sameConsole_setInfo ..)

theorem sameConsole_load (e : LoadEnv) (p : ProviderPtr) (h : Host) :
    SameConsole h (loadScriptProviderIfNeeded e p h).1 := by
  unfold loadScriptProviderIfNeeded
  split
  · exact sameConsole_loadAndCreate ..
  · exact SameConsole.refl h

theorem sameConsole_endUnload (h : Host) (p : ProviderPtr) : SameConsole h (endUnload h p) :=
  ((sameConsole_prov h _).trans (sameConsole_prov _ _)).trans (sameConsole_setInfo ..)

/-! ## Registration -/

theorem sameConsole_registerValues (values : List (Except Win32Error ProviderValue)) (h : Host) :
    SameConsole h (registerValues values h).1 := by
  induction values generalizing h with
  | nil => exact SameConsole.refl h
  | cons v values ih =>
    cases v with
    | error err => exact SameConsole.refl h
    | ok v =>
      have hadd : SameConsole h (addProvider v h) := ⟨rfl, rfl, rfl⟩
      rw [registerValues]
      split_ifs
      · exact hadd.trans (ih _)
      · exact sameConsole_output h _ _ (by decide)

theorem sameConsole_register (r : Registry) (h : Host) :
    SameConsole h (registerScriptProviders r h).1 := by
  unfold registerScriptProviders
  split
  · dsimp only
    split_ifs
    · exact sameConsole_output h _ _ (by decide)
    · exact SameConsole.refl h
  · have hvalues := sameConsole_registerValues r.values h
    dsimp only
    split_ifs
    · exact hvalues
    · exact hvalues.trans (sameConsole_output _ _ _ (by decide))
    · exact hvalues

theorem sameConsole_loadExtension (e : InitEnv) (h : Host) :
    SameConsole h (debugExtensionInitialize e h).1 := by
  have hacquire : SameConsole h
      (acquireDbgEngIfaces e.qi e.client (h.emit (.com (.debugCreate e.client)))).1 :=
    (sameConsole_emit h rfl).trans (sameConsole_acquire ..)
  unfold debugExtensionInitialize
  dsimp only
  split_ifs
  · exact SameConsole.refl h
  · exact hacquire
  · exact hacquire.trans (sameConsole_register _ _)

/-! ## Scripts -/

theorem ScriptLoads.sameConsole {command : ScriptCommand} {e : CommandEnv} {client : ClientId}
    {args : AnsiStr} {h g b : Host} {p : ProviderPtr} {hr : HRESULT}
    (hl : ScriptLoads command e client args h g b p hr) : SameConsole h b := by
  have hload := sameConsole_load e.load p g
  rw [hl.load] at hload
  have hreq : command.requires ≠ "%s" := by cases command <;> decide
  exact (hl.select ▸ sameConsole_select hreq e client args h).trans hload

theorem sameConsole_args {e : CommandEnv} {text : List CHAR} {b b' : Host}
    {r : Except HRESULT (List (List WCHAR))} (hargs : makeArgList e text b = (b', r)) :
    SameConsole b b' := by
  have hsame := sameConsole_makeArgList e text b
  rwa [hargs] at hsame

/-- Up to the call into the provider, or to the exit, a script command leaves the console
    alone. -/
theorem sameConsole_begin (command : ScriptCommand) (e : CommandEnv) (client : ClientId)
    (args : AnsiStr) (h : Host) :
    SameConsole h ((Command.script command).begin e client args h).1 := by
  cases start_cases command e client args h with
  | notReached g hr hsel hpoint hstart =>
    have hreq : command.requires ≠ "%s" := by cases command <;> decide
    rw [hstart, ← hsel]
    exact sameConsole_select hreq e client args h
  | notLoaded g b p hr hl hf hstart =>
    rw [hstart]
    exact hl.sameConsole
  | notRun g b b' p hr hr' text hl hok hargs hstart =>
    rw [hstart]
    exact hl.sameConsole.trans (sameConsole_args hargs)
  | run g b b' p hr text argList timeRun hl hok hargs hstart =>
    rw [hstart]
    exact (hl.sameConsole.trans (sameConsole_args hargs)).trans (sameConsole_prov _ _)
  | runString g b b' p hr text timeRun hl hok hout hstart =>
    have hverbose : SameConsole b b' := hout ▸ sameConsole_output b _ _ (by decide)
    rw [hstart]
    exact (hl.sameConsole.trans hverbose).trans (sameConsole_prov _ _)

theorem sameConsole_leave (f : ScriptFrame) (hr : HRESULT) (endTime : BitVec 32) (h : Host) :
    SameConsole h (f.leave hr endTime h).1 := by
  rcases (leave_spec f hr endTime h).1 with heq | ⟨args, heq⟩
  · rw [heq]
    exact SameConsole.refl h
  · rw [heq]
    exact sameConsole_output h _ _ (by decide)

/-! ## The ends of commands -/

theorem sameConsole_printFailure (hr : HRESULT) (h : Host) : SameConsole h (printFailure hr h) := by
  unfold printFailure
  split_ifs
  · exact sameConsole_output h _ _ (by decide)
  · exact SameConsole.refl h

theorem sameConsole_printScriptPath (output : ℕ → HRESULT) (paths : List (List CHAR)) (k : ℕ)
    (hr : HRESULT) (h : Host) : SameConsole h (printScriptPath output paths k hr h).1 := by
  induction paths generalizing k hr h with
  | nil => exact SameConsole.refl h
  | cons path paths ih =>
    have hone : SameConsole h
        (h.output DEBUG_OUTPUT_NORMAL "Script path: '%s'\n" [.str path]) :=
      sameConsole_output h _ _ (by decide)
    rw [printScriptPath]
    split_ifs
    · exact hone
    · exact hone.trans (ih _ _ _)

theorem sameConsole_scriptpath (e : CommandEnv) (client : ClientId) (args : AnsiStr) (h : Host) :
    SameConsole h (scriptpath e client args h).1 := by
  have hacquire := sameConsole_reAcquire e.qi client h
  unfold scriptpath
  dsimp only
  generalize reAcquireIfacesIfNeeded e.qi client h = r at hacquire
  split_ifs
  · exact hacquire
  · exact hacquire.trans (sameConsole_printScriptPath ..)
  · have hpath : SameConsole r.1 { r.1 with ctx := { r.1.ctx with
        scriptPath := (args.chars.splitOn 44).map (List.take (MAX_PATH - 1)) } } := ⟨rfl, rfl, rfl⟩
    exact (hacquire.trans hpath).trans (sameConsole_printScriptPath ..)

theorem sameConsole_beginStopvm (e : CommandEnv) (client : ClientId) (h : Host) :
    SameConsole h (beginStopvm e client h).1 := by
  have hacquire := sameConsole_reAcquire e.qi client h
  unfold beginStopvm
  dsimp only
  generalize reAcquireIfacesIfNeeded e.qi client h = r at hacquire
  split_ifs
  · exact hacquire
  · exact hacquire.trans (sameConsole_output _ _ _ (by decide))
  · exact hacquire

theorem sameConsole_startvm (e : CommandEnv) (client : ClientId) (h : Host) :
    SameConsole h (startvm e client h).1 := by
  have hacquire := sameConsole_reAcquire e.qi client h
  unfold startvm
  dsimp only
  generalize reAcquireIfacesIfNeeded e.qi client h = r at hacquire
  split_ifs
  · exact hacquire
  · exact hacquire.trans (sameConsole_output _ _ _ (by decide))
  · exact hacquire.trans ⟨rfl, rfl, rfl⟩

end DbgScript
