import DbgScript.Lib.Runs
import DbgScript.Support.TargetMemory

/-!
# Standard input of Lua scripts

`luaInputCb` and `luaGetCCb` (src/luaprov/luascriptprovider.cpp:97-169) read lines from the
debugger: the first into an array of its caller, the second into `InputBuf`, from which it
serves the characters one by one.

Specification: the lines that `luaGetCCb` has read, each with a newline, are one stream of
bytes, and the calls return them as values from 0 to 255; a call returns `EOF` exactly if
it needs a line and there is none.

* `serves_getc`: whatever the bytes are, the buffer holds those of the stream that have not
  been served.
* `standardInput_iff`: the calls conform to this, and stay inside their arrays, iff no byte
  above 127 is served and every `luaInputCb` has room and gets its line.
-/

namespace DbgScript.Lua

open CharBuf (Buf)

/-! ## Model -/

/-- What `IDebugControl::Input` returns for an array of `size` characters: a line that fits
    with its NUL, or a failure, which reports 0 characters. -/
inductive InputResult (size : ULONG) where
  | line (s : AnsiStr) (fits : s.chars.length < size.toNat)
  | failed (hr : HRESULT) (h : FAILED hr = true)

/-- The line that has been read. -/
def InputResult.line? {size : ULONG} : InputResult size → Option (List CHAR)
  | .line s _ => some s.chars
  | .failed _ _ => none

/-- The fields of `LuaProvGlobals` (src/luaprov/common.h:30-44) for the input. -/
structure LuaProvGlobals where
  inputBuf : Buf CHAR 2048
  nextInputChar : CInt
  validInputChars : ULONG

/-- The size that `luaGetCCb` passes to `Input`. -/
def getcSize : ULONG := 2048#32 - 1#32

/-- A line in `InputBuf`: `Input` writes it with its NUL, and the newline replaces that. -/
def LuaProvGlobals.refill (line : List CHAR) (g : LuaProvGlobals) : LuaProvGlobals :=
  let charsRead : ULONG := BitVec.ofNat 32 (line.length + 1)
  let inputBuf := g.inputBuf.memcpy 0 (line ++ [0])
  let inputBuf := inputBuf.setCell (charsRead - 1).toNat 10
  let inputBuf := inputBuf.setCell charsRead.toNat 0
  ⟨inputBuf, 0, charsRead⟩

/-- The next character, a signed `char`; none if it is outside the array. -/
def LuaProvGlobals.serve (g : LuaProvGlobals) : LuaProvGlobals × Option CInt :=
  let ret := g.inputBuf.cells[g.nextInputChar.toNat]?.map fun c => c.toBitVec.signExtend 32
  ({ g with
    nextInputChar := g.nextInputChar + 1
    validInputChars := g.validInputChars - 1 }, ret)

/-- `EOF`. -/
def EOF : CInt := 0xffffffff#32

/-- `luaGetCCb()` (src/luaprov/luascriptprovider.cpp:118-169). -/
def luaGetCCb (r : InputResult getcSize) (g : LuaProvGlobals) : LuaProvGlobals × Option CInt :=
  if g.validInputChars = 0 then
    match r with
    | .failed _ _ => (g, some EOF)
    | .line s _ => (g.refill s.chars).serve
  else g.serve

/-- The size that `luaInputCb` passes to `Input`. -/
def inputCbSize (len : UINT64) : ULONG := len.setWidth 32 - 1

/-- `luaInputCb(buf, len)` (src/luaprov/luascriptprovider.cpp:97-114). -/
def luaInputCb (len : UINT64) (r : InputResult (inputCbSize len)) (buf : Buf CHAR len.toNat) :
    Buf CHAR len.toNat :=
  let (buf, cchRead) : Buf CHAR len.toNat × ULONG :=
    match r with
    | .line s _ => (buf.memcpy 0 (s.chars ++ [0]), BitVec.ofNat 32 (s.chars.length + 1))
    | .failed _ _ => (buf, 0)
  let buf := buf.setCell (cchRead - 1).toNat 10
  buf.setCell cchRead.toNat 0

/-- The calls of the two functions, in any order, with what `Input` returns if it is
    called. -/
inductive InputCall where
  | getc (r : InputResult getcSize)
  | input (len : UINT64) (r : InputResult (inputCbSize len)) (buf : Buf CHAR len.toNat)
    (inside : buf.overrun = false)

/-! ## Specification -/

/-- The lines read so far, and how many of their bytes have been served. -/
structure Stream where
  lines : List (List CHAR)
  served : ℕ

/-- The lines, each with its newline. -/
def Stream.bytes (st : Stream) : List CHAR := st.lines.flatMap fun line => line ++ [10]

/-- A line is read if there is no byte left. -/
def Stream.ready {size : ULONG} (r : InputResult size) (st : Stream) : Stream :=
  if st.served < st.bytes.length then st
  else { st with lines := st.lines ++ r.line?.toList }

/-- The byte that a call has to return. -/
def Stream.due {size : ULONG} (r : InputResult size) (st : Stream) : Option CHAR :=
  (st.ready r).bytes[st.served]?

/-- The stream after a call, and the value returned. -/
def Stream.getc {size : ULONG} (r : InputResult size) (st : Stream) : Stream × ℤ :=
  match st.due r with
  | some b => ({ st.ready r with served := st.served + 1 }, b.toNat)
  | none => (st.ready r, EOF.toInt)

/-- The globals beside the stream. -/
structure InputState where
  globals : LuaProvGlobals
  stream : Stream

/-- The globals when the DLL has been loaded. -/
def InputState.init : InputState := ⟨⟨Buf.zero CHAR 2048, 0, 0⟩, ⟨[], 0⟩⟩

def InputState.step (s : InputState) : InputCall → InputState
  | .getc r => ⟨(luaGetCCb r s.globals).1, (s.stream.getc r).1⟩
  | .input _ _ _ _ => s

/-- The call stays inside its array, and returns what the stream says. -/
def Conforms (s : InputState) : InputCall → Prop
  | .getc r => (luaGetCCb r s.globals).1.inputBuf.overrun = false ∧
      ∃ ret, (luaGetCCb r s.globals).2 = some ret ∧ ret.toInt = (s.stream.getc r).2
  | .input len r buf _ => (luaInputCb len r buf).overrun = false

/-- `luaGetCCb` has no byte above 127 to return. `luaInputCb` has an array that is not empty,
    and gets its line or has 2^32 characters. -/
def PlainInput (s : InputState) : InputCall → Prop
  | .getc r => ∀ b, s.stream.due r = some b → b.toNat < 128
  | .input len r _ _ => len ≠ 0 ∧ (r.line?.isSome ∨ 2 ^ 32 ≤ len.toNat)

/-! ## The buffer -/

/-- The buffer holds the bytes of the stream that have not been served. -/
structure Serves (g : LuaProvGlobals) (st : Stream) : Prop where
  inside : g.inputBuf.overrun = false
  room : g.nextInputChar.toNat + g.validInputChars.toNat ≤ 2047
  served : st.served ≤ st.bytes.length
  pending : (g.inputBuf.cells.drop g.nextInputChar.toNat).take g.validInputChars.toNat =
    st.bytes.drop st.served

variable {g : LuaProvGlobals} {st : Stream}

/-- The number of characters that are left. -/
theorem Serves.valid (hg : Serves g st) :
    g.validInputChars.toNat = st.bytes.length - st.served := by
  have hroom := hg.room
  have h := congrArg List.length hg.pending
  rw [List.length_take, List.length_drop, List.length_drop, g.inputBuf.length_cells] at h
  omega

/-- The first character that is left is served. -/
theorem serves_serve (hg : Serves g st) (hlt : st.served < st.bytes.length) :
    g.serve.2 = st.bytes[st.served]?.map (fun c => c.toBitVec.signExtend 32) ∧
      Serves g.serve.1 { st with served := st.served + 1 } := by
  have hvalid := hg.valid
  have hroom := hg.room
  have hpending := hg.pending
  have hnext : (g.nextInputChar + 1).toNat = g.nextInputChar.toNat + 1 := by
    rw [BitVec.toNat_add]
    simp only [BitVec.reduceToNat]
    omega
  have hleft : (g.validInputChars - 1).toNat + 1 = g.validInputChars.toNat := by
    rw [BitVec.toNat_sub]
    simp only [BitVec.reduceToNat]
    omega
  rw [← hleft, List.drop_eq_getElem_cons hlt] at hpending
  obtain ⟨rest, hcells⟩ : ∃ rest,
      g.inputBuf.cells.drop g.nextInputChar.toNat = st.bytes[st.served] :: rest := by
    cases hdrop : g.inputBuf.cells.drop g.nextInputChar.toNat with
    | nil =>
      rw [hdrop, List.take_nil] at hpending
      exact absurd hpending.symm (List.cons_ne_nil _ _)
    | cons c rest =>
      rw [hdrop, List.take_succ_cons] at hpending
      exact ⟨rest, by rw [(List.cons.inj hpending).1]⟩
  rw [hcells, List.take_succ_cons] at hpending
  have hrest : g.inputBuf.cells.drop (g.nextInputChar.toNat + 1) = rest := by
    rw [← List.drop_drop, hcells]
    rfl
  have hread : g.inputBuf.cells[g.nextInputChar.toNat]? = st.bytes[st.served]? := by
    rw [← List.head?_drop, hcells, List.getElem?_eq_getElem hlt]
    rfl
  refine ⟨by rw [LuaProvGlobals.serve, hread], ⟨hg.inside, ?_, hlt, ?_⟩⟩
  · simp only [LuaProvGlobals.serve]
    omega
  · simp only [LuaProvGlobals.serve]
    rw [hnext, hrest]
    exact (List.cons.inj hpending).2

/-- The number of characters read, and the index of the NUL. -/
theorem toNat_charsRead {k : ℕ} (hk : k + 1 < 2 ^ 32) :
    (BitVec.ofNat 32 (k + 1)).toNat = k + 1 ∧ (BitVec.ofNat 32 (k + 1) - 1).toNat = k := by
  have hread : (BitVec.ofNat 32 (k + 1)).toNat = k + 1 := by
    rw [BitVec.toNat_ofNat, Nat.mod_eq_of_lt hk]
  refine ⟨hread, ?_⟩
  rw [BitVec.toNat_sub, hread]
  simp only [BitVec.reduceToNat]
  omega

/-- The characters of a new line. -/
theorem take_refill {line : List CHAR} (hline : line.length < 2047) (g : LuaProvGlobals) :
    (g.refill line).inputBuf.cells.take (line.length + 1) = line ++ [10] := by
  obtain ⟨hread, hnul⟩ := toNat_charsRead (show line.length + 1 < 2 ^ 32 by omega)
  have hwrite : (g.inputBuf.memcpy 0 (line ++ [0])).cells.take (line.length + 1) = line ++ [0] := by
    have h := CharBuf.take_memcpy g.inputBuf (show 0 + (line ++ [(0 : CHAR)]).length ≤ 2048 by
      rw [List.length_append, List.length_singleton]
      omega)
    simpa using h
  have hkeep : (g.inputBuf.memcpy 0 (line ++ [0])).cells.take line.length = line := by
    have h := congrArg (List.take line.length) hwrite
    rwa [List.take_take, Nat.min_eq_left (Nat.le_succ _), List.take_left] at h
  simp only [LuaProvGlobals.refill, hread, hnul]
  rw [CharBuf.take_setCell _ (by omega), CharBuf.take_succ_setCell _ (by omega), hkeep]

theorem overrun_refill {line : List CHAR} (hline : line.length < 2047)
    (hg : g.inputBuf.overrun = false) : (g.refill line).inputBuf.overrun = false := by
  obtain ⟨hread, hnul⟩ := toNat_charsRead (show line.length + 1 < 2 ^ 32 by omega)
  simp only [LuaProvGlobals.refill, hread, hnul, CharBuf.overrun_setCell_eq_false,
    CharBuf.overrun_memcpy_eq_false, hg, List.length_append, List.length_singleton, true_and]
  omega

theorem Stream.bytes_snoc (st : Stream) (line : List CHAR) :
    Stream.bytes { st with lines := st.lines ++ [line] } = st.bytes ++ (line ++ [10]) := by
  simp [Stream.bytes]

/-- A line that is read when nothing is left is what is left. -/
theorem serves_refill (hg : Serves g st) (hend : st.served = st.bytes.length) {line : List CHAR}
    (hline : line.length < 2047) :
    Serves (g.refill line) { st with lines := st.lines ++ [line] } := by
  have hbytes := st.bytes_snoc line
  have hread : (g.refill line).validInputChars.toNat = line.length + 1 :=
    (toNat_charsRead (by omega)).1
  have hstart : (g.refill line).nextInputChar.toNat = 0 := rfl
  refine ⟨overrun_refill hline hg.inside, ?_, ?_, ?_⟩
  · omega
  · rw [hbytes, List.length_append]
    exact hend.le.trans (Nat.le_add_right _ _)
  · rw [hbytes, hread, hstart, List.drop_zero, take_refill hline, hend, List.drop_left]

/-! ## The calls -/

theorem Stream.ready_of_lt {size : ULONG} (r : InputResult size)
    (hlt : st.served < st.bytes.length) : st.ready r = st := if_pos hlt

theorem Stream.ready_of_line {size : ULONG} {s : AnsiStr} {fits : s.chars.length < size.toNat}
    (hend : st.served = st.bytes.length) :
    st.ready (.line s fits) = { st with lines := st.lines ++ [s.chars] } := if_neg (by omega)

theorem Stream.ready_of_failed {size : ULONG} {hr : HRESULT} {h : FAILED hr = true}
    (hend : st.served = st.bytes.length) :
    st.ready (.failed hr h : InputResult size) = st := by
  rw [Stream.ready, if_neg (by omega)]
  exact congrArg (fun lines => Stream.mk lines st.served) (List.append_nil _)

/-- A byte is due unless the stream has ended and no line follows. -/
theorem Stream.due_eq_none_iff {size : ULONG} (r : InputResult size)
    (hserved : st.served ≤ st.bytes.length) :
    st.due r = none ↔ st.served = st.bytes.length ∧ r.line? = none := by
  obtain hlt | hend := Nat.lt_or_eq_of_le hserved
  · rw [Stream.due, Stream.ready_of_lt r hlt, List.getElem?_eq_none_iff]
    omega
  · cases r with
    | line s fits =>
      rw [Stream.due, Stream.ready_of_line hend, List.getElem?_eq_none_iff]
      simp [Stream.bytes, InputResult.line?, hend]
    | failed hr h =>
      rw [Stream.due, Stream.ready_of_failed hend, List.getElem?_eq_none_iff]
      simp [InputResult.line?, hend]

theorem luaGetCCb_of_valid (r : InputResult getcSize) (h : g.validInputChars ≠ 0) :
    luaGetCCb r g = g.serve := if_neg h

theorem luaGetCCb_of_line {s : AnsiStr} {fits : s.chars.length < getcSize.toNat}
    (h : g.validInputChars = 0) : luaGetCCb (.line s fits) g = (g.refill s.chars).serve := if_pos h

theorem luaGetCCb_of_failed {hr : HRESULT} {hfailed : FAILED hr = true}
    (h : g.validInputChars = 0) : luaGetCCb (.failed hr hfailed) g = (g, some EOF) := if_pos h

/-- A call serves the byte that is due, as a signed character, or returns `EOF`. -/
theorem serves_getc (hg : Serves g st) (r : InputResult getcSize) :
    (luaGetCCb r g).2 = some (((st.due r).map fun c => c.toBitVec.signExtend 32).getD EOF) ∧
      Serves (luaGetCCb r g).1 (st.getc r).1 := by
  have hvalid := hg.valid
  obtain hlt | hend := Nat.lt_or_eq_of_le hg.served
  · have hne : g.validInputChars ≠ 0 := fun h => by
      have hzero : g.validInputChars.toNat = 0 := by rw [h]; rfl
      omega
    obtain ⟨hret, hserves⟩ := serves_serve hg hlt
    rw [List.getElem?_eq_getElem hlt] at hret
    rw [luaGetCCb_of_valid r hne, Stream.getc, Stream.due, Stream.ready_of_lt r hlt,
      List.getElem?_eq_getElem hlt]
    exact ⟨hret, hserves⟩
  · have hzero : g.validInputChars = 0 := BitVec.eq_of_toNat_eq (by simpa [hend] using hvalid)
    cases r with
    | line s fits =>
      have hrefill := serves_refill hg hend fits
      have hlt : st.served < (Stream.bytes { st with lines := st.lines ++ [s.chars] }).length := by
        rw [Stream.bytes_snoc, hend, List.length_append, List.length_append,
          List.length_singleton]
        omega
      obtain ⟨hret, hserves⟩ := serves_serve hrefill hlt
      rw [List.getElem?_eq_getElem hlt] at hret
      rw [luaGetCCb_of_line hzero, Stream.getc, Stream.due, Stream.ready_of_line hend,
        List.getElem?_eq_getElem hlt]
      exact ⟨hret, hserves⟩
    | failed hr h =>
      have hdue : st.due (.failed hr h : InputResult getcSize) = none :=
        (Stream.due_eq_none_iff _ hg.served).2 ⟨hend, rfl⟩
      rw [luaGetCCb_of_failed hzero, Stream.getc, hdue, Stream.ready_of_failed hend]
      exact ⟨rfl, hg⟩

/-- A signed character has the value of its byte only up to 127. -/
theorem toInt_char_iff (c : CHAR) : (c.toBitVec.signExtend 32).toInt = c.toNat ↔ c.toNat < 128 := by
  have hlt := c.toNat_lt
  have hnat : c.toBitVec.toNat = c.toNat := rfl
  rw [BitVec.toInt_signExtend_of_le (by omega), BitVec.toInt_eq_toNat_cond, hnat]
  split_ifs <;> omega

/-- One character less than the array has. -/
theorem inputCbSize_lt {len : UINT64} (h : len ≠ 0) : (inputCbSize len).toNat < len.toNat := by
  have hpos : len.toNat ≠ 0 := fun h0 => h (BitVec.eq_of_toNat_eq h0)
  rw [inputCbSize, BitVec.toNat_sub, BitVec.toNat_setWidth]
  simp only [BitVec.reduceToNat]
  omega

theorem overrun_luaInputCb {len : UINT64} (r : InputResult (inputCbSize len))
    {buf : Buf CHAR len.toNat} (hbuf : buf.overrun = false) :
    (luaInputCb len r buf).overrun = false ↔
      len ≠ 0 ∧ (r.line?.isSome ∨ 2 ^ 32 ≤ len.toNat) := by
  have hzero : len = 0 ↔ len.toNat = 0 := by
    rw [← BitVec.toNat_inj]
    rfl
  cases r with
  | line s fits =>
    obtain ⟨hread, hnul⟩ := toNat_charsRead (k := s.chars.length) (by omega)
    simp only [luaInputCb, hread, hnul, CharBuf.overrun_setCell_eq_false,
      CharBuf.overrun_memcpy_eq_false, hbuf, List.length_append, List.length_singleton, true_and,
      InputResult.line?, Option.isSome_some, true_or, and_true, ne_eq]
    constructor
    · rintro ⟨-, hlt⟩ h0
      rw [hzero] at h0
      omega
    · intro hne
      have hsize := inputCbSize_lt hne
      omega
  | failed hr h =>
    have hlast : (0 - 1 : ULONG).toNat = 2 ^ 32 - 1 := rfl
    have hfirst : (0 : ULONG).toNat = 0 := rfl
    simp only [luaInputCb, hlast, hfirst, CharBuf.overrun_setCell_eq_false, hbuf, true_and,
      InputResult.line?, Option.isSome_none, Bool.false_eq_true, false_or, ne_eq, hzero]
    omega

/-! ## Sequences of calls -/

/-- Every call keeps the buffer in step with the stream. -/
theorem serves_step {s : InputState} (hs : Serves s.globals s.stream) (c : InputCall) :
    Serves (s.step c).globals (s.step c).stream := by
  cases c with
  | getc r => exact (serves_getc hs r).2
  | input len r buf inside => exact hs

/-- One call. -/
theorem conforms_iff {s : InputState} (hs : Serves s.globals s.stream) (c : InputCall) :
    Conforms s c ↔ PlainInput s c := by
  cases c with
  | getc r =>
    obtain ⟨hret, hserves⟩ := serves_getc hs r
    have hvalue : Conforms s (.getc r) ↔
        (((s.stream.due r).map fun c => c.toBitVec.signExtend 32).getD EOF).toInt =
          (s.stream.getc r).2 := by
      constructor
      · rintro ⟨-, ret, hret', hval⟩
        rw [hret, Option.some.injEq] at hret'
        rwa [hret']
      · intro hval
        exact ⟨hserves.inside, _, hret, hval⟩
    rw [hvalue, PlainInput, Stream.getc]
    cases s.stream.due r with
    | none => simp
    | some b => simpa using toInt_char_iff b
  | input len r buf inside => exact overrun_luaInputCb r inside

theorem serves_init : Serves InputState.init.globals InputState.init.stream :=
  ⟨rfl, Nat.zero_le _, Nat.zero_le _, rfl⟩

/-- Every sequence of calls stays inside the arrays and returns the bytes of the lines in
    their order, and `EOF` for a line that is missing, exactly if each call is plain. -/
theorem standardInput_iff (calls : List InputCall) :
    Runs.Along InputState.step Conforms InputState.init calls ↔
      Runs.Along InputState.step PlainInput InputState.init calls :=
  Runs.along_congr (I := fun s => Serves s.globals s.stream) (fun _ c hs => serves_step hs c)
    (fun _ c hs => conforms_iff hs c) serves_init

/-- A line with the one byte 255, which `luaGetCCb` returns as `EOF`; and an `Input` that
    fails, after which `luaInputCb` writes far outside its 80 characters. -/
theorem standardInput_fails :
    let line : InputResult getcSize := .line ⟨[255], by decide⟩ (by decide)
    let failure : InputResult (inputCbSize 80) := .failed E_FAIL failed_E_FAIL
    ¬ Runs.Along InputState.step Conforms InputState.init [.getc line] ∧
      ¬ Runs.Along InputState.step Conforms InputState.init
        [.input 80 failure (Buf.zero CHAR 80) rfl] := by
  intro line failure
  rw [Runs.along_cons, Runs.along_cons, conforms_iff serves_init, conforms_iff serves_init]
  constructor
  · rintro ⟨hplain, -⟩
    exact absurd (hplain 255 rfl) (by decide)
  · rintro ⟨⟨-, hline | hlong⟩, -⟩
    · exact absurd hline (by decide)
    · exact absurd hlong (by decide)

end DbgScript.Lua
