import DbgScript.Support.OutputCapture

/-!
# What scripts do to the output, counted

A script prints, buffers and executes commands, and when it ends in an error its provider
reports it: Lua and Ruby flush the buffer first, Python prints through `sys.stderr`, which
is the script's own output. None of them stops buffering.

A tally follows this without the buffer: it keeps the refcount, whether any text is
waiting, what an executed command has left in the callbacks object, and the texts that
have been printed.

* `tallied_step`: every operation of a script keeps the tally in step with the host.
* `Tallied.unbuffered_iff`, `Tallied.sent_of_unbuffered`: the tally says when nothing is
  buffered, and then every text has been sent, each of them once.
-/

namespace DbgScript

open CharBuf
open Runs (run)

/-! ## Model -/

/-- What is done to the output while a provider runs a script, or is torn down: the
    operations of the script, and the reports of the Lua provider
    (src/luaprov/luascriptprovider.cpp:391-408, 447-464) and of the Ruby provider
    (src/rubyprov/rubyscriptprovider.cpp:140-192). An `int` argument of a report is its 32
    bits. -/
inductive ScriptAct where
  | output (op : OutputOp)
  | luaError (err : BitVec 32) (message : List CHAR)
  | rubyNoMessage (status : BitVec 32)
  | rubyException (className message : List CHAR)
  | rubyStackTrace (frames : List (List CHAR))

def scriptStep (h : Host) : ScriptAct → Host
  | .output op => outputStep h op
  | .luaError err message =>
    (utilFlushMessageBuffer h).output DEBUG_OUTPUT_ERROR "Lua runtime error %d: %s\n"
      [.hex err, .str message]
  | .rubyNoMessage status =>
    h.output DEBUG_OUTPUT_ERROR
      "Exception occurred while trying to obtain message for unhandled exception! %d\n"
      [.hex status]
  | .rubyException className message =>
    (utilFlushMessageBuffer h).output DEBUG_OUTPUT_ERROR "Unhandled exception: %s: %s\n"
      [.str className, .str message]
  | .rubyStackTrace frames =>
    frames.foldl (fun h frame => h.output DEBUG_OUTPUT_ERROR "  %s\n" [.str frame])
      (h.output DEBUG_OUTPUT_ERROR "Stack trace:\n" [])

/-! ## The tally -/

/-- The refcount, whether a text is waiting, the text left in the callbacks object, and
    the texts printed. -/
structure Tally where
  refcount : ℤ
  waiting : Bool
  left : List CHAR
  texts : List (List CHAR)

/-- A text is buffered: it is cut to the room of the buffer. -/
def Tally.put (t : Tally) (text : List CHAR) : Tally :=
  { t with
    waiting := t.waiting || decide (text ≠ [])
    texts := t.texts ++ [text.take messageRoom] }

def Tally.stepOutput (t : Tally) : OutputOp → Tally
  | .buffer .start => { t with refcount := wrapLong (t.refcount + 1) }
  | .buffer .stop =>
    let refcount := wrapLong (t.refcount - 1)
    if refcount < 0 then { t with refcount := 0 }
    else if refcount = 0 then { t with refcount := 0, waiting := false }
    else { t with refcount := refcount }
  | .buffer (.write _ text) =>
    if 0 < t.refcount then t.put text.chars else { t with texts := t.texts ++ [text.chars] }
  | .buffer .cleanup => { t with refcount := 0, waiting := false }
  | .execute e _ =>
    if 0 < t.refcount ∧ e.Installs then
      let t := { t with left := lastText t.left (normalTexts e.callbacks) }
      if FAILED e.execute then t else t.put t.left
    else t

def Tally.step (t : Tally) : ScriptAct → Tally
  | .output op => t.stepOutput op
  | .luaError _ _ => { t with waiting := false }
  | .rubyNoMessage _ => t
  | .rubyException _ _ => { t with waiting := false }
  | .rubyStackTrace _ => t

/-- The tally of a host that is not buffering and has nothing in the buffer. -/
def Host.tally (h : Host) : Tally := ⟨0, false, h.capture.str, []⟩

/-- The host and the tally agree: every text printed since the host had sent `base` has
    been sent or is in the buffer, each of them once. -/
structure Tallied (base : List CHAR) (h : Host) (t : Tally) : Prop where
  ok : BufferOk h
  refcount : h.ctx.isBuffering = t.refcount
  waiting : t.waiting = decide (0 < h.ctx.bufPosition)
  left : h.capture.str = t.left
  texts : ∃ sent waiting : List (List CHAR), (sent ++ waiting).Perm t.texts ∧
    h.sent = base ++ sent.flatten ∧ h.buffered = waiting.flatten

/-- From `h` to `h'` the buffer, the captured text and what scripts have sent are
    unchanged. -/
structure SameConsole (h h' : Host) : Prop where
  buffer : h'.ctx.toOutputBuffer = h.ctx.toOutputBuffer
  capture : h'.capture = h.capture
  sent : h'.sent = h.sent

variable {h h' h'' : Host} {base : List CHAR} {t : Tally}

theorem SameConsole.refl (h : Host) : SameConsole h h := ⟨rfl, rfl, rfl⟩

theorem SameConsole.trans (h1 : SameConsole h h') (h2 : SameConsole h' h'') : SameConsole h h'' :=
  ⟨h2.buffer.trans h1.buffer, h2.capture.trans h1.capture, h2.sent.trans h1.sent⟩

/-- A call that sends no text of a script. -/
theorem sameConsole_emit (h : Host) {c : HostCall} (hc : HostCall.text c = []) :
    SameConsole h (h.emit c) :=
  ⟨rfl, rfl, sent_emit h hc⟩

/-- A message of the host: its format is more than `%s`. -/
theorem sameConsole_output (h : Host) (mask : ULONG) {format : String} (args : List FmtArg)
    (hf : format ≠ "%s") : SameConsole h (h.output mask format args) := by
  apply sameConsole_emit
  unfold HostCall.text
  split
  · next heq =>
    cases heq
    rw [if_neg hf]
  · rfl

/-! ## The buffer and the tally -/

theorem SameConsole.buffered (hs : SameConsole h h') : h'.buffered = h.buffered := by
  show h'.ctx.toOutputBuffer.messageBuf.cells.take h'.ctx.toOutputBuffer.bufPosition = _
  rw [hs.buffer]
  rfl

theorem Tallied.same (ht : Tallied base h t) (hs : SameConsole h h') : Tallied base h' t := by
  have hbuf := hs.buffered
  have hpos : h'.ctx.bufPosition = h.ctx.bufPosition := congrArg OutputBuffer.bufPosition hs.buffer
  refine ⟨⟨?_, ?_, ?_⟩, ?_, ?_, ?_, ?_⟩
  · rw [hpos]
    exact ht.ok.position
  · exact (congrArg (fun b => b.messageBuf.overrun) hs.buffer).trans ht.ok.inBounds
  · rw [hbuf]
    exact ht.ok.nulFree
  · exact (congrArg OutputBuffer.isBuffering hs.buffer).trans ht.refcount
  · rw [hpos]
    exact ht.waiting
  · rw [hs.capture]
    exact ht.left
  · rw [hs.sent, hbuf]
    exact ht.texts

/-- Setting the refcount. -/
theorem Tallied.setDepth (ht : Tallied base h t) (depth : ℤ) :
    Tallied base { h with ctx := { h.ctx with isBuffering := depth } }
      { t with refcount := depth } :=
  ⟨ht.ok.setDepth depth, rfl, ht.waiting, ht.left, ht.texts⟩

/-- A flush sends what is waiting. -/
theorem Tallied.flush (ht : Tallied base h t) :
    Tallied base (utilFlushMessageBuffer h) { t with waiting := false } := by
  obtain ⟨hok, hpos, hnil, hsent, hdepth⟩ := flush_spec ht.ok
  obtain ⟨sent, waiting, hperm, hs, hw⟩ := ht.texts
  refine ⟨hok, hdepth.trans ht.refcount, ?_, ?_, sent ++ waiting, [], ?_, ?_, hnil⟩
  · simp [hpos]
  · rw [flush_capture]
    exact ht.left
  · rw [List.append_nil]
    exact hperm
  · rw [hsent, hs, hw, List.flatten_append, List.append_assoc]

/-- A text that fits is appended to what is waiting. -/
theorem Tallied.append (ht : Tallied base h t) {text : List CHAR} (h0 : (0 : CHAR) ∉ text)
    (hfit : h.ctx.bufPosition + text.length ≤ messageRoom) :
    Tallied base (appendMessage h text) (t.put text) := by
  obtain ⟨hok, hbuf, hsent, hdepth⟩ := append_spec ht.ok h0 hfit
  obtain ⟨sent, waiting, hperm, hs, hw⟩ := ht.texts
  have hcut : text.take messageRoom = text := List.take_of_length_le (by omega)
  refine ⟨hok, hdepth.trans ht.refcount, ?_, ht.left, sent, waiting ++ [text], ?_, ?_, ?_⟩
  · show (t.waiting || decide (text ≠ [])) = decide (0 < h.ctx.bufPosition + text.length)
    rw [ht.waiting, ← Bool.decide_or]
    congr 1
    rw [← List.length_pos_iff]
    exact propext ⟨fun h => by omega, fun h => by omega⟩
  · show (sent ++ (waiting ++ [text])).Perm (t.texts ++ [text.take messageRoom])
    rw [hcut, ← List.append_assoc]
    exact hperm.append_right [text]
  · rw [hsent]
    exact hs
  · rw [hbuf, hw]
    simp

/-- `UtilBufferOutput` makes room first if the text does not fit. -/
theorem Tallied.bufferOutput (ht : Tallied base h t) {text : List CHAR} (h0 : (0 : CHAR) ∉ text) :
    Tallied base (utilBufferOutput h text) (t.put text) := by
  by_cases hfit : h.ctx.bufPosition + text.length ≤ messageRoom
  · rw [utilBufferOutput_of_fits hfit]
    exact ht.append h0 hfit
  · rw [utilBufferOutput_of_full (not_le.mp hfit)]
    have hne : text ≠ [] := by
      rintro rfl
      exact hfit ht.ok.position
    have hput : Tally.put { t with waiting := false } (text.take messageRoom) = t.put text := by
      simp [Tally.put, List.take_take, hne, messageRoom]
    rw [← hput]
    exact ht.flush.append (not_mem_take h0 messageRoom) (fits_after_flush ht.ok text)

/-- A text that is not buffered is sent at once. -/
theorem Tallied.send (ht : Tallied base h t) (mask : ULONG) (text : List CHAR) :
    Tallied base (h.output mask "%s" [.str text]) { t with texts := t.texts ++ [text] } := by
  obtain ⟨sent, waiting, hperm, hs, hw⟩ := ht.texts
  refine ⟨⟨ht.ok.position, ht.ok.inBounds, ht.ok.nulFree⟩, ht.refcount, ht.waiting, ht.left,
    sent ++ [text], waiting, ?_, ?_, hw⟩
  · have hswap : (sent ++ [text] ++ waiting).Perm (sent ++ waiting ++ [text]) := by
      rw [List.append_assoc, List.append_assoc]
      exact List.perm_append_comm.append_left sent
    exact hswap.trans (hperm.append_right [text])
  · rw [sent_output, hs, List.flatten_append, List.flatten_singleton, List.append_assoc]

/-! ## The operations of a script -/

theorem tallied_stop (ht : Tallied base h t) :
    Tallied base (stopBuffering h).1 (t.stepOutput (.buffer .stop)) := by
  unfold stopBuffering Tally.stepOutput
  dsimp only
  rw [ht.refcount]
  split_ifs with hneg hzero
  · exact ht.setDepth 0
  · have hflush := (ht.setDepth (wrapLong (t.refcount - 1))).flush
    rwa [hzero] at hflush ⊢
  · exact ht.setDepth _

theorem tallied_write (ht : Tallied base h t) (mask : ULONG) (text : AnsiStr) :
    Tallied base (outputCb mask text h) (t.stepOutput (.buffer (.write mask text))) := by
  unfold outputCb Tally.stepOutput
  rw [ht.refcount]
  split_ifs
  · exact ht.bufferOutput text.nulFree
  · exact ht.send mask text.chars

theorem sameConsole_execBegin (e : ExecEnv) (command : AnsiStr) (h : Host) :
    SameConsole h (execBegin e command h).1 := by
  obtain ⟨hctx, hsent, hcap, -⟩ := execBegin_frame e command h
  exact ⟨congrArg DbgScriptHostContext.toOutputBuffer hctx, hcap, hsent⟩

theorem sameConsole_setOutputCallbacks (hr : HRESULT) (cb : Option OutputCb) (h : Host) :
    SameConsole h (setOutputCallbacks hr cb h) := by
  obtain ⟨hctx, hsent, hcap⟩ := setOutputCallbacks_frame hr cb h
  exact ⟨congrArg DbgScriptHostContext.toOutputBuffer hctx, hcap, hsent⟩

/-- The end of a captured command: its text is buffered, if it has succeeded. -/
theorem tallied_execEnd (ht : Tallied base h t) (e : ExecEnv) (command : AnsiStr)
    (prev : Option OutputCb) :
    Tallied base (execEnd e command (.buffered prev) h).1
      (if FAILED e.execute then t else t.put t.left) := by
  simp only [execEnd]
  split_ifs
  · refine ht.same (SameConsole.trans ?_ (sameConsole_setOutputCallbacks _ _ _))
    exact sameConsole_output h _ _ (by decide)
  · have hset := ht.same (sameConsole_setOutputCallbacks e.restoreCallbacks prev h)
    have hleft := hset.left
    rw [← hleft]
    exact hset.bufferOutput (nulFree_cstr _)

theorem tallied_execute (ht : Tallied base h t) (e : ExecEnv) (command : AnsiStr) :
    Tallied base (utilExecuteCommand e command h).1 (t.stepOutput (.execute e command)) := by
  obtain ⟨-, -, -, hscope⟩ := execBegin_frame e command h
  have hbegin := ht.same (sameConsole_execBegin e command h)
  rw [ht.refcount] at hscope
  simp only [Tally.stepOutput]
  unfold utilExecuteCommand
  split
  · next g hr heq =>
    rw [heq] at hbegin hscope
    rw [if_neg fun hc => by simpa using hscope.mpr hc]
    exact hbegin
  · next g prev heq =>
    rw [heq] at hbegin hscope
    obtain ⟨b, hdel, hstr⟩ := deliver_eq e.callbacks g
    rw [if_pos (hscope.mp ⟨prev, rfl⟩), hdel]
    refine tallied_execEnd ?_ e command prev
    refine ⟨⟨hbegin.ok.position, hbegin.ok.inBounds, hbegin.ok.nulFree⟩, hbegin.refcount,
      hbegin.waiting, ?_, hbegin.texts⟩
    rw [← hbegin.left]
    exact hstr
  · next g heq =>
    rw [heq] at hbegin hscope
    rw [if_neg fun hc => by simpa using hscope.mpr hc]
    simp only [execEnd]
    split_ifs
    · exact hbegin.same (sameConsole_output g _ _ (by decide))
    · exact hbegin

/-- Every operation of a script keeps the tally. -/
theorem tallied_output (ht : Tallied base h t) (op : OutputOp) :
    Tallied base (outputStep h op) (t.stepOutput op) := by
  match op with
  | .buffer .start =>
    have hset := ht.setDepth (wrapLong (h.ctx.isBuffering + 1))
    rw [ht.refcount] at hset
    show Tallied base (startBuffering h) _
    unfold startBuffering
    rw [ht.refcount]
    exact hset
  | .buffer .stop => exact tallied_stop ht
  | .buffer (.write mask text) => exact tallied_write ht mask text
  | .buffer .cleanup => exact (ht.setDepth 0).flush
  | .execute e command => exact tallied_execute ht e command

theorem sameConsole_stackTrace (frames : List (List CHAR)) (h : Host) :
    SameConsole h
      (frames.foldl (fun h frame => h.output DEBUG_OUTPUT_ERROR "  %s\n" [.str frame]) h) := by
  induction frames generalizing h with
  | nil => exact SameConsole.refl h
  | cons frame frames ih => exact (sameConsole_output h _ _ (by decide)).trans (ih _)

theorem tallied_step (ht : Tallied base h t) (a : ScriptAct) :
    Tallied base (scriptStep h a) (t.step a) := by
  match a with
  | .output op => exact tallied_output ht op
  | .luaError err message => exact ht.flush.same (sameConsole_output _ _ _ (by decide))
  | .rubyNoMessage status => exact ht.same (sameConsole_output _ _ _ (by decide))
  | .rubyException className message =>
    exact ht.flush.same (sameConsole_output _ _ _ (by decide))
  | .rubyStackTrace frames =>
    have hhead : SameConsole h (h.output DEBUG_OUTPUT_ERROR "Stack trace:\n" []) :=
      sameConsole_output h _ _ (by decide)
    exact ht.same (hhead.trans (sameConsole_stackTrace frames _))

theorem tallied_run (ht : Tallied base h t) (acts : List ScriptAct) :
    Tallied base (run scriptStep h acts) (run Tally.step t acts) := by
  induction acts generalizing h t with
  | nil => exact ht
  | cons a acts ih => exact ih (tallied_step ht a)

/-! ## Hosts without buffered text -/

/-- Not buffering, and nothing is in the buffer. -/
structure Host.Unbuffered (h : Host) : Prop where
  isBuffering : h.ctx.isBuffering = 0
  bufPosition : h.ctx.bufPosition = 0

theorem tallied_tally (hok : BufferOk h) (hun : h.Unbuffered) : Tallied h.sent h h.tally := by
  refine ⟨hok, hun.isBuffering, ?_, rfl, [], [], ?_, ?_, ?_⟩
  · simp [Host.tally, hun.bufPosition]
  · simp [Host.tally]
  · simp
  · simp [Host.buffered, hun.bufPosition]

/-- The tally says when nothing is buffered. -/
theorem Tallied.unbuffered_iff (ht : Tallied base h t) :
    h.Unbuffered ↔ t.refcount = 0 ∧ t.waiting = false := by
  rw [ht.waiting, ← ht.refcount]
  constructor
  · rintro ⟨hdepth, hpos⟩
    exact ⟨hdepth, by simp [hpos]⟩
  · rintro ⟨hdepth, hpos⟩
    exact ⟨hdepth, by simpa using hpos⟩

/-- With an empty buffer, all texts have been sent, each of them once. -/
theorem Tallied.sent_of_unbuffered (ht : Tallied base h t) (hun : h.Unbuffered) :
    ∃ texts : List (List CHAR), texts.Perm t.texts ∧ h.sent = base ++ texts.flatten := by
  obtain ⟨sent, waiting, hperm, hs, hw⟩ := ht.texts
  have hnil : waiting.flatten = [] := by
    rw [← hw]
    simp [Host.buffered, hun.bufPosition]
  refine ⟨sent ++ waiting, hperm, ?_⟩
  rw [hs, List.flatten_append, hnil, List.append_nil]

end DbgScript
