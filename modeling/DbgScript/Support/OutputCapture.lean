import DbgScript.Support.MessageBuffer

/-!
# Capturing the output of a command

`DbgScriptOutputCallbacks::Output` (src/support/outputcallback.cpp:37-55), the scope
guard `CAutoSetOutputCallback` and `UtilExecuteCommand` (src/support/util.cpp:564-636,
841-903). While a script is buffering, `UtilExecuteCommand` installs the host's own
output callbacks, lets the engine run the command, and appends the captured text to
the message buffer.

* `executeCommand_stream`: what a buffered command adds to the stream is the last
  `DEBUG_OUTPUT_NORMAL` text of the command, or, when it has none, the text an
  earlier command has left in the callbacks object.
* `executeCommand_captures_iff`: that is the command's whole normal output iff every
  text but the last is empty and, when there is none, the earlier text is empty too.

`Output` copies each text over the previous one instead of appending it, and nothing
clears the object between commands.
-/

namespace DbgScript

open CharBuf
open Runs (run Along)

/-! ## Model -/

/-- `DbgScriptOutputCallbacks::Output(mask, text)`. -/
def captureOutput (mask : ULONG) (text : AnsiStr) (h : Host) : Host :=
  if mask ≠ DEBUG_OUTPUT_NORMAL then h
  else { h with capture := h.capture.cchCopy text.chars }

/-- The `Output` calls the engine makes on the host's callbacks. -/
def deliver (callbacks : List (ULONG × AnsiStr)) (h : Host) : Host :=
  callbacks.foldl (fun h c => captureOutput c.1 c.2 h) h

/-- What the engine answers during one `UtilExecuteCommand`: the results of
    `GetOutputCallbacks`, of the two `SetOutputCallbacks` calls and of `Execute`, and
    the `Output` calls it makes on the host's callbacks while they are installed. -/
structure ExecEnv where
  getCallbacks : HRESULT
  setCallbacks : HRESULT
  callbacks : List (ULONG × AnsiStr)
  execute : HRESULT
  restoreCallbacks : HRESULT

/-- `client->SetOutputCallbacks(cb)`. -/
def setOutputCallbacks (hr : HRESULT) (cb : Option OutputCb) (h : Host) : Host :=
  let h := h.emit (.setOutputCallbacks h.ctx.debugClient cb)
  match h.ctx.debugClient with
  | some client =>
    if FAILED hr then h else { h with routing := Function.update h.routing client cb }
  | none => h

/-- `CAutoSetOutputCallback::Install` (src/support/util.cpp:866-882): `m_Prev` and the
    result. -/
def installCallbacks (e : ExecEnv) (h : Host) : Host × Option OutputCb × HRESULT :=
  let h := h.emit (.getOutputCallbacks h.ctx.debugClient)
  if FAILED e.getCallbacks then (h, none, e.getCallbacks)
  else
    let prev := h.ctx.debugClient.bind h.routing
    (setOutputCallbacks e.setCallbacks (some .dbgScript) h, prev, e.setCallbacks)

/-- Where `UtilExecuteCommand` is while the engine executes the command: inside the
    scope of the guard with its `m_Prev`, or in the unbuffered branch. -/
inductive ExecScope where
  | buffered (prev : Option OutputCb)
  | unbuffered

/-- `UtilExecuteCommand` up to `Execute`: the scope it is in, or the failure code it
    returns because the callbacks cannot be installed. -/
def execBegin (e : ExecEnv) (command : AnsiStr) (h : Host) : Host × (ExecScope ⊕ HRESULT) :=
  if 0 < h.ctx.isBuffering then
    let (h, prev, hr) := installCallbacks e h
    if FAILED hr then
      let h := h.output DEBUG_OUTPUT_ERROR
        "Error: Failed to install output callback. Error 0x%08x.\n" [.hex hr]
      (setOutputCallbacks e.restoreCallbacks prev h, .inr hr)
    else (h.emit (.execute h.ctx.debugControl command.chars), .inl (.buffered prev))
  else (h.emit (.execute h.ctx.debugControl command.chars), .inl .unbuffered)

/-- `UtilExecuteCommand` after `Execute` has returned `e.execute`. -/
def execEnd (e : ExecEnv) (command : AnsiStr) (scope : ExecScope) (h : Host) : Host × HRESULT :=
  let failed (h : Host) := h.output DEBUG_OUTPUT_ERROR
    "Error: Failed to execute command '%s'. Error 0x%08x.\n" [.str command.chars, .hex e.execute]
  match scope with
  | .buffered prev =>
    if FAILED e.execute then (setOutputCallbacks e.restoreCallbacks prev (failed h), e.execute)
    else
      let h := setOutputCallbacks e.restoreCallbacks prev h
      (utilBufferOutput h h.capture.str, e.execute)
  | .unbuffered => if FAILED e.execute then (failed h, e.execute) else (h, e.execute)

/-- `UtilExecuteCommand` (src/support/util.cpp:564-636). -/
def utilExecuteCommand (e : ExecEnv) (command : AnsiStr) (h : Host) : Host × HRESULT :=
  match execBegin e command h with
  | (h, .inr hr) => (h, hr)
  | (h, .inl (.buffered prev)) => execEnd e command (.buffered prev) (deliver e.callbacks h)
  | (h, .inl .unbuffered) => execEnd e command .unbuffered h

/-- The operations of a script on the output: buffer operations and commands. -/
inductive OutputOp where
  | buffer (op : BufferOp)
  | execute (e : ExecEnv) (command : AnsiStr)

def outputStep (h : Host) : OutputOp → Host
  | .buffer op => bufferStep h op
  | .execute e command => (utilExecuteCommand e command h).1

/-! ## What a command outputs -/

/-- The `DEBUG_OUTPUT_NORMAL` texts of a command, in order. -/
def normalTexts (callbacks : List (ULONG × AnsiStr)) : List (List CHAR) :=
  (callbacks.filter fun c => c.1 = DEBUG_OUTPUT_NORMAL).map fun c => c.2.chars

/-- The callbacks object after the texts `ts`, if it held `old` before them: the last
    of them, cut to the 4095 characters it has room for. -/
def lastText (old : List CHAR) (ts : List (List CHAR)) : List CHAR :=
  (ts.getLast?.map (List.take 4095)).getD old

/-- The command's output is captured: the callbacks are installed and `Execute` runs. -/
def ExecEnv.Installs (e : ExecEnv) : Prop :=
  FAILED e.getCallbacks = false ∧ FAILED e.setCallbacks = false

instance (e : ExecEnv) : Decidable e.Installs :=
  inferInstanceAs (Decidable (_ ∧ _))

/-- What the history has left in the callbacks object, if it held `old` before: the
    last normal text of a command executed while buffering. -/
def residue : List CHAR → Host → List OutputOp → List CHAR
  | old, _, [] => old
  | old, h, .buffer op :: ops => residue old (bufferStep h op) ops
  | old, h, .execute e command :: ops =>
    residue (if 0 < h.ctx.isBuffering ∧ e.Installs then lastText old (normalTexts e.callbacks)
      else old) (utilExecuteCommand e command h).1 ops

/-! ## The callbacks object -/

theorem lastText_snoc (old : List CHAR) (ts : List (List CHAR)) (t : List CHAR) :
    lastText old (ts ++ [t]) = t.take 4095 := by
  simp [lastText]

theorem lastText_cons (old : List CHAR) (t : List CHAR) (ts : List (List CHAR)) :
    lastText old (t :: ts) = lastText (t.take 4095) ts := by
  cases ts with
  | nil => rfl
  | cons t' ts => simp [lastText, List.getLast?_cons]

/-- Only the captured text changes while the engine makes its `Output` calls. -/
theorem deliver_eq (callbacks : List (ULONG × AnsiStr)) (h : Host) :
    ∃ b, deliver callbacks h = { h with capture := b } ∧
      b.str = lastText h.capture.str (normalTexts callbacks) := by
  induction callbacks generalizing h with
  | nil => exact ⟨h.capture, rfl, rfl⟩
  | cons c callbacks ih =>
    by_cases hm : c.1 = DEBUG_OUTPUT_NORMAL
    · have hstep : captureOutput c.1 c.2 h = { h with capture := h.capture.cchCopy c.2.chars } := by
        rw [captureOutput, if_neg (not_not.mpr hm)]
      have htexts : normalTexts (c :: callbacks) = c.2.chars :: normalTexts callbacks := by
        simp [normalTexts, hm]
      obtain ⟨b, hb, hstr⟩ := ih { h with capture := h.capture.cchCopy c.2.chars }
      refine ⟨b, ?_, ?_⟩
      · rw [deliver, List.foldl_cons, hstep]
        exact hb
      · rw [htexts, lastText_cons, hstr, str_cchCopy _ (by omega) c.2.nulFree]
    · have hstep : captureOutput c.1 c.2 h = h := by rw [captureOutput, if_pos hm]
      have htexts : normalTexts (c :: callbacks) = normalTexts callbacks := by
        simp [normalTexts, hm]
      obtain ⟨b, hb, hstr⟩ := ih h
      refine ⟨b, ?_, by rw [htexts, hstr]⟩
      rw [deliver, List.foldl_cons, hstep]
      exact hb

/-! ## The stream is only touched by the final append -/

/-- What has been sent, followed by what is still buffered. -/
def Host.stream (h : Host) : List CHAR := h.sent ++ h.buffered

theorem BufferOk.congr {h g : Host} (hb : BufferOk h) (hctx : g.ctx = h.ctx) : BufferOk g := by
  refine ⟨hctx ▸ hb.position, hctx ▸ hb.inBounds, ?_⟩
  rw [Host.buffered, hctx]
  exact hb.nulFree

theorem BufferOk.setDepth {h : Host} (hb : BufferOk h) (depth : ℤ) :
    BufferOk { h with ctx := { h.ctx with isBuffering := depth } } :=
  ⟨hb.position, hb.inBounds, hb.nulFree⟩

theorem capture_bufferOutput (h : Host) (text : List CHAR) :
    (utilBufferOutput h text).capture = h.capture := by
  unfold utilBufferOutput utilFlushMessageBuffer
  split_ifs <;> rfl

theorem sent_emit (h : Host) {c : HostCall} (hc : HostCall.text c = []) :
    (h.emit c).sent = h.sent := by
  simp [Host.sent, hc]

theorem setOutputCallbacks_frame (hr : HRESULT) (cb : Option OutputCb) (h : Host) :
    (setOutputCallbacks hr cb h).ctx = h.ctx ∧ (setOutputCallbacks hr cb h).sent = h.sent ∧
      (setOutputCallbacks hr cb h).capture = h.capture := by
  unfold setOutputCallbacks
  have hs := sent_emit h (c := .setOutputCallbacks h.ctx.debugClient cb) rfl
  dsimp only
  split
  · split_ifs
    · exact ⟨rfl, hs, rfl⟩
    · exact ⟨rfl, hs, rfl⟩
  · exact ⟨rfl, hs, rfl⟩

theorem installCallbacks_frame (e : ExecEnv) (h : Host) :
    (installCallbacks e h).1.ctx = h.ctx ∧ (installCallbacks e h).1.sent = h.sent ∧
      (installCallbacks e h).1.capture = h.capture := by
  unfold installCallbacks
  have hs := sent_emit h (c := .getOutputCallbacks h.ctx.debugClient) rfl
  dsimp only
  split_ifs
  · exact ⟨rfl, hs, rfl⟩
  · obtain ⟨h1, h2, h3⟩ := setOutputCallbacks_frame e.setCallbacks (some .dbgScript)
      (h.emit (.getOutputCallbacks h.ctx.debugClient))
    exact ⟨h1, h2.trans hs, h3⟩

theorem failed_installCallbacks (e : ExecEnv) (h : Host) :
    FAILED (installCallbacks e h).2.2 = false ↔ e.Installs := by
  unfold installCallbacks ExecEnv.Installs
  dsimp only
  split_ifs with hg <;> simp [hg]

/-- `UtilExecuteCommand` up to `Execute` touches neither the stream nor the captured
    text, and runs the command inside the guard iff the callbacks are installed. -/
theorem execBegin_frame (e : ExecEnv) (command : AnsiStr) (h : Host) :
    (execBegin e command h).1.ctx = h.ctx ∧ (execBegin e command h).1.sent = h.sent ∧
      (execBegin e command h).1.capture = h.capture ∧
      ((∃ prev, (execBegin e command h).2 = .inl (.buffered prev)) ↔
        0 < h.ctx.isBuffering ∧ e.Installs) := by
  obtain ⟨h1, h2, h3⟩ := installCallbacks_frame e h
  have hf := failed_installCallbacks e h
  unfold execBegin
  by_cases hb : 0 < h.ctx.isBuffering
  · simp only [if_pos hb]
    by_cases hi : e.Installs
    · rw [if_neg (by simp [hf.mpr hi])]
      exact ⟨h1, (sent_emit _ rfl).trans h2, h3, ⟨fun _ => ⟨hb, hi⟩, fun _ => ⟨_, rfl⟩⟩⟩
    · have hbad : FAILED (installCallbacks e h).2.2 = true := by
        cases hfail : FAILED (installCallbacks e h).2.2 with
        | false => exact absurd (hf.mp hfail) hi
        | true => rfl
      rw [if_pos hbad]
      obtain ⟨g1, g2, g3⟩ := setOutputCallbacks_frame e.restoreCallbacks
        (installCallbacks e h).2.1 ((installCallbacks e h).1.output DEBUG_OUTPUT_ERROR
          "Error: Failed to install output callback. Error 0x%08x.\n"
          [.hex (installCallbacks e h).2.2])
      refine ⟨g1.trans h1, g2.trans ((sent_emit _ rfl).trans h2), g3.trans h3, ?_⟩
      simp [hi]
  · simp only [if_neg hb]
    exact ⟨rfl, sent_emit _ rfl, rfl, by simp [hb]⟩

/-- What the rest of `UtilExecuteCommand` does: in the scope of the guard, and after
    a successful `Execute`, the captured text is appended to the stream. -/
theorem execEnd_spec (e : ExecEnv) (command : AnsiStr) (scope : ExecScope) {h : Host}
    (hb : BufferOk h) :
    BufferOk (execEnd e command scope h).1 ∧
      (execEnd e command scope h).1.capture = h.capture ∧
      (execEnd e command scope h).1.stream = h.stream ++
        match scope with
        | .buffered _ => if FAILED e.execute then [] else h.capture.str.take messageRoom
        | .unbuffered => [] := by
  have hout := sent_emit h (c := .output h.ctx.debugControl DEBUG_OUTPUT_ERROR
    "Error: Failed to execute command '%s'. Error 0x%08x.\n"
    [.str command.chars, .hex e.execute]) rfl
  cases scope with
  | unbuffered =>
    simp only [execEnd]
    split_ifs
    · refine ⟨⟨hb.position, hb.inBounds, hb.nulFree⟩, rfl, ?_⟩
      rw [List.append_nil]
      exact congrArg (· ++ h.buffered) hout
    · exact ⟨hb, rfl, (List.append_nil _).symm⟩
  | buffered prev =>
    simp only [execEnd]
    split_ifs
    · obtain ⟨h1, h2, h3⟩ := setOutputCallbacks_frame e.restoreCallbacks prev
        (h.output DEBUG_OUTPUT_ERROR "Error: Failed to execute command '%s'. Error 0x%08x.\n"
          [.str command.chars, .hex e.execute])
      refine ⟨hb.congr h1, h3, ?_⟩
      rw [List.append_nil, Host.stream, Host.buffered, h1, h2]
      exact congrArg (· ++ h.buffered) hout
    · obtain ⟨h1, h2, h3⟩ := setOutputCallbacks_frame e.restoreCallbacks prev h
      obtain ⟨hok, hstream, -⟩ := bufferOutput_spec (hb.congr h1)
        (nulFree_cstr (setOutputCallbacks e.restoreCallbacks prev h).capture.cells)
      refine ⟨hok, (capture_bufferOutput _ _).trans h3, ?_⟩
      refine hstream.trans ?_
      rw [Host.stream, Host.buffered, h1, h2, Buf.str, h3]
      rfl

/-- `UtilExecuteCommand` keeps the buffer well formed and leaves in the callbacks
    object the last normal text of the command, if it was captured. -/
theorem executeCommand_inv (e : ExecEnv) (command : AnsiStr) {h : Host} (hb : BufferOk h) :
    BufferOk (utilExecuteCommand e command h).1 ∧
      (utilExecuteCommand e command h).1.capture.str =
        if 0 < h.ctx.isBuffering ∧ e.Installs
        then lastText h.capture.str (normalTexts e.callbacks) else h.capture.str := by
  obtain ⟨h1, -, h3, hscope⟩ := execBegin_frame e command h
  unfold utilExecuteCommand
  split
  · next g hr heq =>
    rw [heq] at h1 h3 hscope
    rw [if_neg fun hc => by simpa using hscope.mpr hc]
    exact ⟨hb.congr h1, congrArg Buf.str h3⟩
  · next g prev heq =>
    rw [heq] at h1 h3 hscope
    obtain ⟨b, hdel, hstr⟩ := deliver_eq e.callbacks g
    obtain ⟨hok, hcap, -⟩ := execEnd_spec e command (.buffered prev)
      (h := { g with capture := b }) (hb.congr h1)
    rw [if_pos (hscope.mp ⟨prev, rfl⟩), hdel]
    refine ⟨hok, ?_⟩
    rw [hcap, hstr, h3]
  · next g heq =>
    rw [heq] at h1 h3 hscope
    obtain ⟨hok, hcap, -⟩ := execEnd_spec e command .unbuffered (hb.congr h1)
    rw [if_neg fun hc => by simpa using hscope.mpr hc]
    exact ⟨hok, congrArg Buf.str (hcap.trans h3)⟩

/-- What a successful captured command adds to the stream. -/
theorem executeCommand_stream (e : ExecEnv) (command : AnsiStr) {h : Host} (hb : BufferOk h)
    (hbuf : 0 < h.ctx.isBuffering) (hins : e.Installs) (hex : FAILED e.execute = false) :
    (utilExecuteCommand e command h).1.stream = h.stream ++
      (lastText h.capture.str (normalTexts e.callbacks)).take messageRoom := by
  obtain ⟨h1, h2, h3, hscope⟩ := execBegin_frame e command h
  obtain ⟨prev, hprev⟩ := hscope.mpr ⟨hbuf, hins⟩
  unfold utilExecuteCommand
  split
  · next g hr heq => rw [heq] at hprev; cases hprev
  · next g prev heq =>
    rw [heq] at h1 h2 h3
    obtain ⟨b, hdel, hstr⟩ := deliver_eq e.callbacks g
    obtain ⟨-, -, hstream⟩ := execEnd_spec e command (.buffered prev)
      (h := { g with capture := b }) (hb.congr h1)
    rw [hdel, hstream]
    dsimp only
    rw [if_neg (by simp [hex]), hstr, h3]
    show g.sent ++ g.buffered ++ _ = _
    rw [Host.buffered, h1, h2]
    rfl
  · next g heq => rw [heq] at hprev; cases hprev

/-! ## Histories -/

theorem flush_capture (h : Host) : (utilFlushMessageBuffer h).capture = h.capture := by
  unfold utilFlushMessageBuffer
  split_ifs <;> rfl

/-- Buffer operations keep the buffer well formed, whatever the refcount is, and
    leave the callbacks object alone. -/
theorem bufferStep_inv (op : BufferOp) {h : Host} (hb : BufferOk h) :
    BufferOk (bufferStep h op) ∧ (bufferStep h op).capture = h.capture := by
  cases op with
  | start => exact ⟨hb.setDepth _, rfl⟩
  | stop =>
    simp only [bufferStep, stopBuffering]
    split_ifs
    · exact ⟨hb.setDepth 0, rfl⟩
    · exact ⟨(flush_spec (hb.setDepth _)).1, flush_capture _⟩
    · exact ⟨hb.setDepth _, rfl⟩
  | write mask text =>
    simp only [bufferStep, outputCb]
    split_ifs
    · exact ⟨(bufferOutput_spec hb text.nulFree).1, capture_bufferOutput _ _⟩
    · exact ⟨⟨hb.position, hb.inBounds, hb.nulFree⟩, rfl⟩
  | cleanup => exact ⟨(flush_spec (hb.setDepth 0)).1, flush_capture _⟩

/-- After any history the buffer is well formed, and the callbacks object holds the
    history's residue. -/
theorem history_inv (history : List OutputOp) {h : Host} (hb : BufferOk h) :
    BufferOk (run outputStep h history) ∧
      (run outputStep h history).capture.str = residue h.capture.str h history := by
  induction history generalizing h with
  | nil => exact ⟨hb, rfl⟩
  | cons op history ih =>
    cases op with
    | buffer op =>
      obtain ⟨hb', hcap⟩ := bufferStep_inv op hb
      have := ih hb'
      rwa [hcap] at this
    | execute e command =>
      obtain ⟨hb', hcap⟩ := executeCommand_inv e command hb
      have := ih hb'
      rwa [hcap] at this

/-! ## Which commands are captured without loss -/

/-- No text is overwritten, and none is left over: every normal text of the command
    but the last is empty, and if the command has none, nothing was left before. -/
def NothingLost (left : List CHAR) (ts : List (List CHAR)) : Prop :=
  if ts = [] then left = [] else ∀ t ∈ ts.dropLast, t = []

instance (left : List CHAR) (ts : List (List CHAR)) : Decidable (NothingLost left ts) := by
  unfold NothingLost; infer_instance

/-- The last text alone is the whole output iff the texts before it are empty. -/
theorem lastText_eq_flatten_iff (old : List CHAR) (ts : List (List CHAR))
    (hshort : ts.flatten.length < 4096) :
    lastText old ts = ts.flatten ↔ NothingLost old ts := by
  rcases List.eq_nil_or_concat ts with rfl | ⟨front, t, rfl⟩
  · simp [lastText, NothingLost]
  · rw [List.concat_eq_append] at hshort ⊢
    rw [List.flatten_append, List.flatten_singleton, List.length_append] at hshort
    have hne : front ++ [t] ≠ [] := by simp
    rw [lastText_snoc, List.take_of_length_le (by omega), NothingLost, if_neg hne,
      List.dropLast_concat, List.flatten_append, List.flatten_singleton]
    constructor
    · intro heq u hu
      have hlen := congrArg List.length heq
      rw [List.length_append] at hlen
      have h0 : front.flatten = [] := List.length_eq_zero_iff.mp (by omega)
      exact List.flatten_eq_nil_iff.mp h0 u hu
    · intro hall
      rw [List.flatten_eq_nil_iff.mpr hall, List.nil_append]

theorem length_lastText_le {old : List CHAR} (hold : old.length ≤ 4096) (ts : List (List CHAR)) :
    (lastText old ts).length ≤ 4096 := by
  unfold lastText
  cases ts.getLast? with
  | none => exact hold
  | some t =>
    rw [Option.map_some, Option.getD_some, List.length_take]
    omega

theorem length_str_le {n : ℕ} (b : Buf CHAR n) : b.str.length ≤ n := by
  conv_rhs => rw [← b.length_cells]
  exact (List.takeWhile_sublist _).length_le

/-- **Buffered command capture.** After any history, a successful command executed
    while buffering, with fewer than 4096 bytes of normal output, adds exactly its
    own normal output to the stream iff none of it is overwritten by a later text and
    nothing was left over by an earlier command. -/
theorem executeCommand_captures_iff (h0 : Host) (hb : BufferOk h0) (hcap : h0.capture.str = [])
    (history : List OutputOp) (e : ExecEnv) (command : AnsiStr)
    (hbuf : 0 < (run outputStep h0 history).ctx.isBuffering) (hins : e.Installs)
    (hex : FAILED e.execute = false) (hshort : (normalTexts e.callbacks).flatten.length < 4096) :
    (utilExecuteCommand e command (run outputStep h0 history)).1.stream =
        (run outputStep h0 history).stream ++ (normalTexts e.callbacks).flatten ↔
      NothingLost (residue [] h0 history) (normalTexts e.callbacks) := by
  obtain ⟨hb', hres⟩ := history_inv history hb
  rw [executeCommand_stream e command hb' hbuf hins hex, List.append_cancel_left_eq, hres, hcap,
    ← lastText_eq_flatten_iff _ _ hshort]
  have hle : (lastText (residue [] h0 history) (normalTexts e.callbacks)).length ≤ 4096 := by
    apply length_lastText_le
    rw [← hcap, ← hres]
    exact length_str_le _
  rw [List.take_of_length_le (hle.trans (by decide))]

theorem bufferOk_fresh (routing : ClientId → Option OutputCb) : BufferOk (Host.fresh routing) :=
  ⟨Nat.zero_le _, rfl, by simp [Host.buffered, Host.fresh]⟩

/-- A command that prints one text, in two flavours: normal and error output. -/
def printsOnce : ExecEnv where
  getCallbacks := S_OK
  setCallbacks := S_OK
  callbacks := [(DEBUG_OUTPUT_ERROR, ⟨[101], by decide⟩), (DEBUG_OUTPUT_NORMAL, ⟨[97], by decide⟩)]
  execute := S_OK
  restoreCallbacks := S_OK

/-- A command that prints `a` and then `b`. -/
def printsTwice : ExecEnv :=
  { printsOnce with
    callbacks := [(DEBUG_OUTPUT_NORMAL, ⟨[97], by decide⟩),
      (DEBUG_OUTPUT_NORMAL, ⟨[98], by decide⟩)] }

/-- Two commands that print one text each are both captured whole. -/
theorem executeCommand_captures_second :
    let h := run outputStep (Host.fresh fun _ => none)
      [.buffer .start, .execute printsOnce ⟨[107], by decide⟩]
    (utilExecuteCommand printsOnce ⟨[107], by decide⟩ h).1.stream = h.stream ++ [97] := by
  refine (executeCommand_captures_iff (Host.fresh fun _ => none) (bufferOk_fresh _) (str_zero _)
    [.buffer .start, .execute printsOnce ⟨[107], by decide⟩] printsOnce ⟨[107], by decide⟩
    ?_ ⟨rfl, rfl⟩ rfl (by decide)).mpr (by decide)
  decide

/-- Of a command that prints `a` and then `b`, only `b` reaches the stream. -/
theorem executeCommand_loses_first_text :
    let h := run outputStep (Host.fresh fun _ => none) [.buffer .start]
    (utilExecuteCommand printsTwice ⟨[107], by decide⟩ h).1.stream ≠ h.stream ++ [97, 98] := by
  intro h heq
  have hb : BufferOk h := (history_inv [.buffer .start] (bufferOk_fresh fun _ => none)).1
  rw [executeCommand_stream printsTwice _ hb (by decide) ⟨rfl, rfl⟩ rfl,
    List.append_cancel_left_eq] at heq
  revert heq
  decide

end DbgScript
