import DbgScript.Host.Context
import DbgScript.Lib.Runs
import Mathlib.Data.List.Infix

/-!
# Output buffering

`UtilFlushMessageBuffer` and `UtilBufferOutput` (src/support/util.cpp:469-549), the
buffering refcount behind `start_buffering`/`stop_buffering`, script writes, and
the clean-up at the end of `runscript`, against an abstract console that only
knows how deep the buffering is nested and what it has been told to print.

* `consoleRel_step`: each operation keeps the console relation, in particular the
  coupling "not buffering implies an empty buffer".
* `stream_law`: what has been handed to `DebugControl->Output`, followed by what is
  still in the buffer, is what the script wrote, in order; the buffer is never
  overrun.

The asserts are off, as in a release build. Positions and lengths are `size_t`
values of objects that share one address space, so their sums do not wrap and
they are modelled in `ℕ`.
-/

namespace DbgScript

open CharBuf
open Runs (run Along)

/-! ## Model -/

/-- `_countof(MessageBuf) - 1`: the last byte is reserved for the NUL. -/
def messageRoom : ℕ := 8191

/-- `UtilFlushMessageBuffer` (src/support/util.cpp:469-492). -/
def utilFlushMessageBuffer (h : Host) : Host :=
  if 0 < h.ctx.bufPosition then
    let messageBuf := h.ctx.messageBuf.setCell h.ctx.bufPosition 0
    let h := { h with ctx := { h.ctx with messageBuf := messageBuf } }
    let h := h.output DEBUG_OUTPUT_NORMAL "%s" [.str messageBuf.str]
    { h with ctx := { h.ctx with bufPosition := 0 } }
  else h

/-- The `memcpy` at the end of `UtilBufferOutput` (src/support/util.cpp:544-548). -/
def appendMessage (h : Host) (text : List CHAR) : Host :=
  { h with ctx := { h.ctx with
      messageBuf := h.ctx.messageBuf.memcpy h.ctx.bufPosition text
      bufPosition := h.ctx.bufPosition + text.length } }

/-- `UtilBufferOutput(hostCtxt, text, strlen(text))` (src/support/util.cpp:511-549). -/
def utilBufferOutput (h : Host) (text : List CHAR) : Host :=
  if h.ctx.bufPosition + text.length > messageRoom then
    let h := utilFlushMessageBuffer h
    appendMessage h (if text.length > messageRoom then text.take messageRoom else text)
  else appendMessage h text

/-- A `LONG` after an interlocked increment or decrement has wrapped it. -/
def wrapLong (x : ℤ) : ℤ := x.bmod (2 ^ 32)

/-- `start_buffering`, the same in the three providers
    (src/luaprov/dbgscript.cpp:173, src/pythonprov/dbgscript.cpp:738,
    src/rubyprov/dbgscript.cpp:546). -/
def startBuffering (h : Host) : Host :=
  { h with ctx := { h.ctx with isBuffering := wrapLong (h.ctx.isBuffering + 1) } }

/-- `stop_buffering` (src/luaprov/dbgscript.cpp:207, src/pythonprov/dbgscript.cpp:761,
    src/rubyprov/dbgscript.cpp:570). The flag says that the script error "can't stop
    buffering if it isn't started" is raised. -/
def stopBuffering (h : Host) : Host × Bool :=
  let newVal := wrapLong (h.ctx.isBuffering - 1)
  let h := { h with ctx := { h.ctx with isBuffering := newVal } }
  if newVal < 0 then ({ h with ctx := { h.ctx with isBuffering := 0 } }, true)
  else if newVal = 0 then (utilFlushMessageBuffer h, false)
  else (h, false)

/-- `luaOutputCb` (src/luaprov/luascriptprovider.cpp:74-95); the Python and Ruby
    `write` do the same with `DEBUG_OUTPUT_NORMAL`. -/
def outputCb (mask : ULONG) (text : AnsiStr) (h : Host) : Host :=
  if 0 < h.ctx.isBuffering then utilBufferOutput h text.chars
  else h.output mask "%s" [.str text.chars]

/-- The end-of-run clean-up of `runscript` (src/dllmain.cpp:1040-1047). -/
def resetBuffering (h : Host) : Host :=
  utilFlushMessageBuffer { h with ctx := { h.ctx with isBuffering := 0 } }

/-- The operations on the output buffer. -/
inductive BufferOp where
  | start
  | stop
  | write (mask : ULONG) (text : AnsiStr)
  | cleanup

def bufferStep (h : Host) : BufferOp → Host
  | .start => startBuffering h
  | .stop => (stopBuffering h).1
  | .write mask text => outputCb mask text h
  | .cleanup => resetBuffering h

/-! ## What was sent, and what is still buffered -/

/-- The text that an `Output("%s", text)` call hands over. -/
def HostCall.text : HostCall → List CHAR
  | .output _ _ format [.str t] => if format = "%s" then t else []
  | _ => []

/-- All texts handed to `DebugControl->Output` so far, concatenated. -/
def Host.sent (h : Host) : List CHAR := h.log.flatMap HostCall.text

/-- The bytes waiting in the buffer. -/
def Host.buffered (h : Host) : List CHAR := h.ctx.messageBuf.cells.take h.ctx.bufPosition

@[simp] theorem sent_output (h : Host) (mask : ULONG) (t : List CHAR) :
    (h.output mask "%s" [.str t]).sent = h.sent ++ t := by
  simp [Host.sent, Host.output, HostCall.text]

/-! ## The abstract console -/

/-- What the component is for: a nesting depth, and everything printed so far. -/
structure Console where
  depth : ℕ
  stream : List CHAR

/-- A text written while buffering is cut to the room of the buffer. -/
def Console.step (c : Console) : BufferOp → Console
  | .start => { c with depth := c.depth + 1 }
  | .stop => { c with depth := c.depth - 1 }
  | .write _ text =>
    { c with stream := c.stream ++
        if 0 < c.depth then text.chars.take messageRoom else text.chars }
  | .cleanup => { c with depth := 0 }

/-- The console after `ops`, started with nothing printed. -/
def consoleAfter (ops : List BufferOp) : Console := run Console.step ⟨0, []⟩ ops

/-- The number of starts that no later stop or clean-up has matched. -/
def unmatchedStarts (ops : List BufferOp) : ℕ := (consoleAfter ops).depth

/-- The contributions of all writes, in program order. -/
def written (ops : List BufferOp) : List CHAR := (consoleAfter ops).stream

/-- The host buffers as deep as the console, and has sent or buffered what the
    console has printed since the host had sent `base`. -/
structure ConsoleRel (base : List CHAR) (h : Host) (c : Console) : Prop where
  depth : h.ctx.isBuffering = c.depth
  position : h.ctx.bufPosition ≤ messageRoom
  inBounds : h.ctx.messageBuf.overrun = false
  nulFree : (0 : CHAR) ∉ h.buffered
  coupled : c.depth = 0 → h.ctx.bufPosition = 0
  stream : h.sent ++ h.buffered = base ++ c.stream

/-! ## The operations keep the console relation -/

theorem wrapLong_of_range {x : ℤ} (h1 : -1 ≤ x) (h2 : x < 2 ^ 31) : wrapLong x = x := by
  unfold wrapLong
  rw [Int.bmod_def]
  omega

/-- The buffer facts that do not mention the depth. -/
structure BufferOk (h : Host) : Prop where
  position : h.ctx.bufPosition ≤ messageRoom
  inBounds : h.ctx.messageBuf.overrun = false
  nulFree : (0 : CHAR) ∉ h.buffered

theorem ConsoleRel.ok {base : List CHAR} {h : Host} {c : Console} (hr : ConsoleRel base h c) :
    BufferOk h :=
  ⟨hr.position, hr.inBounds, hr.nulFree⟩

/-- What a flush does: the buffered text is sent, and the buffer is empty. -/
theorem flush_spec {h : Host} (hb : BufferOk h) :
    BufferOk (utilFlushMessageBuffer h) ∧
      (utilFlushMessageBuffer h).ctx.bufPosition = 0 ∧
      (utilFlushMessageBuffer h).buffered = [] ∧
      (utilFlushMessageBuffer h).sent = h.sent ++ h.buffered ∧
      (utilFlushMessageBuffer h).ctx.isBuffering = h.ctx.isBuffering := by
  unfold utilFlushMessageBuffer
  split_ifs with hp
  · have hlt : h.ctx.bufPosition < 8192 := Nat.lt_succ_of_le hb.position
    have hstr := str_setCell_zero h.ctx.messageBuf hlt hb.nulFree
    refine ⟨⟨Nat.zero_le _, ?_, by simp [Host.buffered]⟩, rfl, by simp [Host.buffered], ?_, rfl⟩
    · exact (overrun_setCell _ hlt _).trans hb.inBounds
    · exact (sent_output _ _ _).trans (congrArg (h.sent ++ ·) hstr)
  · have h0 : h.ctx.bufPosition = 0 := by omega
    have hnil : h.buffered = [] := by simp [Host.buffered, h0]
    exact ⟨hb, h0, hnil, by simp [hnil], rfl⟩

/-- What the final `memcpy` does when the text fits. -/
theorem append_spec {h : Host} (hb : BufferOk h) {text : List CHAR} (h0 : (0 : CHAR) ∉ text)
    (hfit : h.ctx.bufPosition + text.length ≤ messageRoom) :
    BufferOk (appendMessage h text) ∧
      (appendMessage h text).buffered = h.buffered ++ text ∧
      (appendMessage h text).sent = h.sent ∧
      (appendMessage h text).ctx.isBuffering = h.ctx.isBuffering := by
  have hin : h.ctx.bufPosition + text.length ≤ 8192 := Nat.le_succ_of_le hfit
  have hbuf : (appendMessage h text).buffered = h.buffered ++ text := take_memcpy _ hin
  refine ⟨⟨hfit, (overrun_memcpy _ hin).trans hb.inBounds, ?_⟩, hbuf, rfl, rfl⟩
  rw [hbuf, List.mem_append, not_or]
  exact ⟨hb.nulFree, h0⟩

/-- A text that does not fit is appended after a flush, cut to the room of the buffer. -/
theorem utilBufferOutput_of_full {h : Host} {text : List CHAR}
    (hfull : messageRoom < h.ctx.bufPosition + text.length) :
    utilBufferOutput h text = appendMessage (utilFlushMessageBuffer h) (text.take messageRoom) := by
  unfold utilBufferOutput
  rw [if_pos hfull]
  dsimp only
  split_ifs with hlong
  · rfl
  · rw [List.take_of_length_le (by omega)]

theorem utilBufferOutput_of_fits {h : Host} {text : List CHAR}
    (hfit : h.ctx.bufPosition + text.length ≤ messageRoom) :
    utilBufferOutput h text = appendMessage h text := by
  unfold utilBufferOutput
  rw [if_neg (by omega)]

/-- After a flush there is room for it. -/
theorem fits_after_flush {h : Host} (hb : BufferOk h) (text : List CHAR) :
    (utilFlushMessageBuffer h).ctx.bufPosition + (text.take messageRoom).length ≤ messageRoom := by
  rw [(flush_spec hb).2.1, List.length_take]
  omega

/-- What `UtilBufferOutput` does: the stream is extended by the text, cut to the
    room of the buffer. -/
theorem bufferOutput_spec {h : Host} (hb : BufferOk h) {text : List CHAR}
    (h0 : (0 : CHAR) ∉ text) :
    BufferOk (utilBufferOutput h text) ∧
      (utilBufferOutput h text).sent ++ (utilBufferOutput h text).buffered =
        h.sent ++ h.buffered ++ text.take messageRoom ∧
      (utilBufferOutput h text).ctx.isBuffering = h.ctx.isBuffering := by
  by_cases hfit : h.ctx.bufPosition + text.length ≤ messageRoom
  · rw [utilBufferOutput_of_fits hfit]
    obtain ⟨hok, hbuf, hs, hd⟩ := append_spec hb h0 hfit
    refine ⟨hok, ?_, hd⟩
    rw [hs, hbuf, List.take_of_length_le (by omega), List.append_assoc]
  · rw [utilBufferOutput_of_full (not_le.mp hfit)]
    obtain ⟨hb', -, hnil, hsent, hdepth⟩ := flush_spec hb
    obtain ⟨hok, hbuf, hs, hd⟩ :=
      append_spec hb' (not_mem_take h0 messageRoom) (fits_after_flush hb text)
    exact ⟨hok, by rw [hs, hbuf, hnil, hsent, List.nil_append], hd.trans hdepth⟩

theorem consoleRel_start {base : List CHAR} {h : Host} {c : Console} (hr : ConsoleRel base h c)
    (hdepth : c.depth + 1 < 2 ^ 31) :
    ConsoleRel base (startBuffering h) (c.step .start) := by
  refine ⟨?_, hr.position, hr.inBounds, hr.nulFree, fun h0 => ?_, hr.stream⟩
  · have hd := hr.depth
    show wrapLong (h.ctx.isBuffering + 1) = ((c.depth + 1 : ℕ) : ℤ)
    rw [wrapLong_of_range (by omega) (by omega)]
    omega
  · simp [Console.step] at h0

theorem consoleRel_stop {base : List CHAR} {h : Host} {c : Console} (hr : ConsoleRel base h c)
    (hdepth : c.depth < 2 ^ 31) :
    ConsoleRel base (stopBuffering h).1 (c.step .stop) := by
  have hd := hr.depth
  have hwrap : wrapLong (h.ctx.isBuffering - 1) = h.ctx.isBuffering - 1 :=
    wrapLong_of_range (by omega) (by omega)
  unfold stopBuffering
  simp only [hwrap]
  split_ifs with hneg hzero
  · -- underflow: the refcount was 0, and so the buffer was already empty
    have hc : c.depth = 0 := by omega
    exact ⟨by simp [Console.step, hc], hr.position, hr.inBounds, hr.nulFree,
      fun _ => hr.coupled hc, hr.stream⟩
  · -- the last stop flushes
    set g : Host := { h with ctx := { h.ctx with isBuffering := h.ctx.isBuffering - 1 } } with hg
    have hb : BufferOk g := ⟨hr.position, hr.inBounds, hr.nulFree⟩
    obtain ⟨hok, hpos, hnil, hsent, hdep⟩ := flush_spec hb
    refine ⟨?_, hok.position, hok.inBounds, hok.nulFree, fun _ => hpos, ?_⟩
    · rw [hdep]
      show h.ctx.isBuffering - 1 = ((c.depth - 1 : ℕ) : ℤ)
      omega
    · rw [hsent, hnil, List.append_nil]
      exact hr.stream
  · refine ⟨?_, hr.position, hr.inBounds, hr.nulFree, fun h0 => ?_, hr.stream⟩
    · show h.ctx.isBuffering - 1 = ((c.depth - 1 : ℕ) : ℤ)
      omega
    · simp only [Console.step] at h0
      omega

theorem consoleRel_write {base : List CHAR} {h : Host} {c : Console} (hr : ConsoleRel base h c)
    (mask : ULONG) (text : AnsiStr) :
    ConsoleRel base (outputCb mask text h) (c.step (.write mask text)) := by
  have hd := hr.depth
  unfold outputCb
  by_cases hbuf : 0 < h.ctx.isBuffering
  · rw [if_pos hbuf]
    have hc : 0 < c.depth := by omega
    obtain ⟨hok, hstream, hdep⟩ := bufferOutput_spec hr.ok text.nulFree
    refine ⟨hdep.trans hd, hok.position, hok.inBounds, hok.nulFree, fun h0 => ?_, ?_⟩
    · simp only [Console.step] at h0
      omega
    · rw [hstream, hr.stream]
      simp [Console.step, hc]
  · rw [if_neg hbuf]
    have hc : c.depth = 0 := by omega
    have hpos : h.ctx.bufPosition = 0 := hr.coupled hc
    have hnil : h.buffered = [] := by simp [Host.buffered, hpos]
    have hstream := hr.stream
    rw [hnil, List.append_nil] at hstream
    refine ⟨hd, hr.position, hr.inBounds, hr.nulFree, fun _ => hpos, ?_⟩
    -- the buffer is empty, so the text follows what was sent
    show _ ++ h.buffered = _
    rw [hnil, sent_output, hstream]
    simp [Console.step, hc]

theorem consoleRel_cleanup {base : List CHAR} {h : Host} {c : Console}
    (hr : ConsoleRel base h c) : ConsoleRel base (resetBuffering h) (c.step .cleanup) := by
  have hb : BufferOk { h with ctx := { h.ctx with isBuffering := 0 } } :=
    ⟨hr.position, hr.inBounds, hr.nulFree⟩
  obtain ⟨hok, hpos, hnil, hsent, hdep⟩ := flush_spec hb
  refine ⟨hdep, hok.position, hok.inBounds, hok.nulFree, fun _ => hpos, ?_⟩
  unfold resetBuffering
  rw [hsent, hnil, List.append_nil]
  exact hr.stream

/-- Every operation keeps the console relation, as long as the refcount does not
    overflow. -/
theorem consoleRel_step {base : List CHAR} {h : Host} {c : Console} (hr : ConsoleRel base h c)
    (op : BufferOp) (hdepth : c.depth < 2 ^ 31) (hstep : (c.step op).depth < 2 ^ 31) :
    ConsoleRel base (bufferStep h op) (c.step op) := by
  cases op with
  | start => exact consoleRel_start hr hstep
  | stop => exact consoleRel_stop hr hdepth
  | write mask text => exact consoleRel_write hr mask text
  | cleanup => exact consoleRel_cleanup hr

theorem consoleRel_run {base : List CHAR} {h : Host} {c : Console} (hr : ConsoleRel base h c)
    (ops : List BufferOp)
    (hops : ∀ pre, pre <+: ops → (run Console.step c pre).depth < 2 ^ 31) :
    ConsoleRel base (run bufferStep h ops) (run Console.step c ops) := by
  induction ops generalizing h c with
  | nil => exact hr
  | cons op ops ih =>
    refine ih (consoleRel_step hr op (hops [] (List.nil_prefix)) ?_) fun pre hpre => ?_
    · exact hops [op] (by simp)
    · exact hops (op :: pre) (by simpa using hpre)

/-! ## The stream law -/

/-- **Output-buffer stream law.** From a state that is not buffering and has an
    empty buffer, after any sequence of operations with fewer than `2^31` starts
    pending at a time: the position stays below the reserved byte and no write has
    left the buffer; not buffering means that the buffer is empty; and the texts
    sent, followed by the buffered bytes, are the texts written. -/
theorem stream_law (h : Host) (hdepth : h.ctx.isBuffering = 0) (hpos : h.ctx.bufPosition = 0)
    (hin : h.ctx.messageBuf.overrun = false) (ops : List BufferOp)
    (hops : ∀ pre, pre <+: ops → unmatchedStarts pre < 2 ^ 31) :
    let h' := run bufferStep h ops
    h'.ctx.bufPosition ≤ 8191 ∧ h'.ctx.messageBuf.overrun = false ∧
      (h'.ctx.isBuffering = 0 → h'.ctx.bufPosition = 0) ∧
      h'.sent ++ h'.buffered = h.sent ++ written ops := by
  have hnil : h.buffered = [] := by simp [Host.buffered, hpos]
  have hinit : ConsoleRel h.sent h ⟨0, []⟩ :=
    ⟨hdepth, by omega, hin, by simp [hnil], fun _ => hpos, by simp [hnil]⟩
  have hr := consoleRel_run hinit ops hops
  refine ⟨hr.position, hr.inBounds, fun h0 => hr.coupled ?_, hr.stream⟩
  have := hr.depth
  omega

/-- A script that prints `hi` while buffering and stops buffering once too often. -/
theorem stream_law_extra_stop :
    let ops : List BufferOp := [.start, .write DEBUG_OUTPUT_NORMAL ⟨[104, 105], by decide⟩,
      .stop, .stop, .cleanup]
    let h' := run bufferStep (Host.fresh fun _ => none) ops
    h'.ctx.bufPosition ≤ 8191 ∧ h'.ctx.messageBuf.overrun = false ∧
      (h'.ctx.isBuffering = 0 → h'.ctx.bufPosition = 0) ∧ h'.sent ++ h'.buffered = [104, 105] := by
  refine stream_law (Host.fresh fun _ => none) rfl rfl rfl _ fun pre hpre => ?_
  rw [← List.mem_inits] at hpre
  revert pre
  decide

end DbgScript
