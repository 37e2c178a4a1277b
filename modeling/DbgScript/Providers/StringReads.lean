import DbgScript.Providers.IntegerValues

/-!
# Counted string reads

`read_string` and `read_wide_string` of the three providers, with the readers of
src/support/util.cpp below them: a count is checked, the engine copies characters without
terminating them, and the copy is cut and terminated by hand.

* `run_utilReadAnsiString`, `run_utilReadWideString`: what the buffer holds.
* `counted_reads`: bad counts are rejected before anything is read, and otherwise the text
  that is converted to a string of the host language is the counted part of the target's.
-/

namespace DbgScript

open CharBuf (CStr Buf)
open Python (PyAnswer PyAnswers)

/-! ## Specification -/

/-- The part of a string that a count selects: all of it if the count is negative. -/
def counted {α : Type} (count : CInt) (s : List α) : List α :=
  if count.toInt < 0 then s else s.take count.toNat

section Readers

variable (a : DebuggerAnswers) (n : ℕ) (addr : UINT64)

/-- `ReadMultiByteStringVirtual` on the string `s` at `addr`: it fails if there is no NUL
    within `maxBytes`; otherwise it copies as much of the terminated string as there is
    room for, and reports its full size. -/
def ReadsAnsi (s : AnsiStr) : Prop :=
  ∀ maxBytes bufferSize, let r := a n (.readMultiByteString addr maxBytes bufferSize)
    if s.chars.length < maxBytes.toNat then
      FAILED r.hr = false ∧ r.copied = (s.chars ++ [0]).take bufferSize.toNat ∧
        r.cbActual.toNat = s.chars.length + 1
    else FAILED r.hr = true

/-- `ReadUnicodeStringVirtualWide`, which counts bytes but for the size of the buffer. -/
def ReadsWide (s : CStr WCHAR) : Prop :=
  ∀ maxBytes bufferSize, let r := a n (.readUnicodeString addr maxBytes bufferSize)
    if 2 * (s.chars.length + 1) ≤ maxBytes.toNat then
      FAILED r.hr = false ∧ r.copied = (s.chars ++ [0]).take bufferSize.toNat ∧
        r.cbActual.toNat = 2 * (s.chars.length + 1)
    else FAILED r.hr = true

end Readers

/-- What a function returns in each language. -/
@[reducible] def Language.Result : Language → Type
  | .lua => Except Lua.LuaError Lua.LuaValue
  | .python => Option Python.PyObj × Option Python.PyErr
  | .ruby => Except Ruby.RubyError Ruby.RubyValue

/-- An exception, raised as it is done in the language. -/
def Language.Raises : (l : Language) → l.Result → Prop
  | .lua, r => ∃ e, r = .error e
  | .python, r => r.1 = none ∧ r.2.isSome
  | .ruby, r => ∃ e, r = .error e

/-- `LuaReadString`, `PyReadString` and `RbReadString`. -/
def Language.readString (addr : UINT64) (count : CInt) : (l : Language) → Dialogue PyAnswer l.Result
  | .lua => (Lua.luaReadString addr count).attempt.inl
  | .python => (Python.pyReadString addr count).attempt none
  | .ruby => (Ruby.rbReadString addr count).attempt.inl

/-- `LuaReadWideString`, `PyReadWideString` and `RbReadWideString`. -/
def Language.readWideString (addr : UINT64) (count : CInt) :
    (l : Language) → Dialogue PyAnswer l.Result
  | .lua => (Lua.luaReadWideString addr count).attempt.inl
  | .python => (Python.pyReadWideString addr count).attempt none
  | .ruby => (Ruby.rbReadWideString addr count).attempt.inl

/-- The conversion of a text to a string: `lua_pushstring`, `PyUnicode_FromString` and
    `rb_str_new_cstr`. -/
def Language.convert (text : List CHAR) : (l : Language) → Dialogue PyAnswer l.Result
  | .lua => .done (.ok (.string text))
  | .python => (Python.newObject (.str text)).attempt none
  | .ruby => .done (.ok (.string text))

/-- `WideCharToMultiByte(CP_UTF8, ...)` and `lua_pushstring`, the end of
    `LuaReadWideString`. -/
def Lua.convertWide (text : List WCHAR) : Lua.LuaM Lua.LuaValue := do
  match ← Throws.lift (ask (.wideCharToMultiByte text UTF8BUF_LEN)) with
  | .error err => Lua.raise "WideCharToMultiByte failed. Error %d." [.num err.code.toNat]
  | .ok utf8buf => return .string utf8buf.chars

/-- `WideCharToMultiByte(CP_UTF8, ...)` and `rb_utf8_str_new_cstr`, the end of
    `RbReadWideString`. -/
def Ruby.convertWide (text : List WCHAR) : Ruby.RubyM Ruby.RubyValue := do
  match ← Throws.lift (ask (.wideCharToMultiByte text UTF8BUF_LEN)) with
  | .error err =>
    Ruby.rbRaise .RuntimeError "WideCharToMultiByte failed. Error %d." [.num err.code.toNat]
  | .ok utf8buf => return .string utf8buf.chars

/-- The conversion of a wide text; Python has `PyUnicode_FromWideChar`. -/
def Language.convertWide (text : List WCHAR) : (l : Language) → Dialogue PyAnswer l.Result
  | .lua => (Lua.convertWide text).attempt.inl
  | .python => (Python.newObject (.wstr text)).attempt none
  | .ruby => (Ruby.convertWide text).attempt.inl

/-! ## Counts -/

theorem badCount_iff (count : CInt) :
    badCount count = true ↔ count = 0 ∨ (MAX_READ_STRING_LEN : ℤ) - 1 < count.toInt := by
  simp [badCount]

/-- The characters that are asked for select the counted part. -/
theorem take_maxToRead {α : Type} {count : CInt} {s : List α}
    (hs : s.length < MAX_READ_STRING_LEN) : s.take (maxToRead count).toNat = counted count s := by
  rw [maxToRead, counted]
  split_ifs
  · exact List.take_of_length_le (by simpa [MAX_READ_STRING_LEN] using hs.le)
  · rfl

/-! ## The readers of the support library -/

variable {a : DebuggerAnswers} {n : ℕ} {addr : UINT64} {count : CInt}

theorem run_utilReadAnsiString (count : CInt) {s : AnsiStr}
    (hs : s.chars.length < MAX_READ_STRING_LEN)
    (h : ReadsAnsi a n addr s) :
    ∃ hr buf, (utilReadAnsiString addr count).run a n = ((hr, buf),
        [.readMultiByteString addr (BitVec.ofNat 32 MAX_READ_STRING_LEN) (maxToRead count)]) ∧
      FAILED hr = false ∧ buf.overrun = false ∧ buf.str = counted count s.chars := by
  have hmax : (BitVec.ofNat 32 MAX_READ_STRING_LEN).toNat = MAX_READ_STRING_LEN := rfl
  have hread := h (BitVec.ofNat 32 MAX_READ_STRING_LEN) (maxToRead count)
  simp only [hmax, if_pos hs] at hread
  obtain ⟨hok, hcopied, hactual⟩ := hread
  have hcut : maxToRead count < (a n (.readMultiByteString addr
      (BitVec.ofNat 32 MAX_READ_STRING_LEN) (maxToRead count))).cbActual ↔
        (maxToRead count).toNat < s.chars.length + 1 := by
    rw [BitVec.lt_def, hactual]
  have hbuf := CharBuf.str_copy_counted s.nulFree (k := (maxToRead count).toNat) hs
  rw [take_maxToRead hs] at hbuf
  refine ⟨_, _, rfl, hok, ?_⟩
  simpa only [hcopied, hcut] using hbuf

theorem run_utilReadWideString (count : CInt) {s : CStr WCHAR}
    (hs : s.chars.length < MAX_READ_STRING_LEN) (h : ReadsWide a n addr s) :
    ∃ hr buf, (utilReadWideString addr count).run a n = ((hr, buf),
        [.readUnicodeString addr (BitVec.ofNat 32 (MAX_READ_STRING_LEN * 2)) (maxToRead count)]) ∧
      FAILED hr = false ∧ buf.overrun = false ∧ buf.str = counted count s.chars := by
  have hmax : (BitVec.ofNat 32 (MAX_READ_STRING_LEN * 2)).toNat = MAX_READ_STRING_LEN * 2 := rfl
  have hread := h (BitVec.ofNat 32 (MAX_READ_STRING_LEN * 2)) (maxToRead count)
  simp only [hmax, if_pos (show 2 * (s.chars.length + 1) ≤ MAX_READ_STRING_LEN * 2 by omega)]
    at hread
  obtain ⟨hok, hcopied, hactual⟩ := hread
  have hcut : maxToRead count < (a n (.readUnicodeString addr
      (BitVec.ofNat 32 (MAX_READ_STRING_LEN * 2)) (maxToRead count))).cbActual / 2 ↔
        (maxToRead count).toNat < s.chars.length + 1 := by
    rw [BitVec.lt_def, BitVec.toNat_udiv, hactual]
    simp
  have hbuf := CharBuf.str_copy_counted s.nulFree (k := (maxToRead count).toNat) hs
  rw [take_maxToRead hs] at hbuf
  have hrun : (utilReadWideString addr count).run a n =
      let r := a n (.readUnicodeString addr (BitVec.ofNat 32 (MAX_READ_STRING_LEN * 2))
        (maxToRead count))
      let buf := (Buf.zero WCHAR MAX_READ_STRING_LEN).memcpy 0 r.copied
      ((r.hr, if maxToRead count < r.cbActual / 2 then buf.setCell (maxToRead count).toNat 0
          else buf),
        [.readUnicodeString addr (BitVec.ofNat 32 (MAX_READ_STRING_LEN * 2))
          (maxToRead count)]) := by
    simp only [utilReadWideString, ask, Dialogue.request, Dialogue.ask_bind, Dialogue.done_bind,
      Dialogue.run_ask]
    rw [if_neg (by simp [hok])]
    rfl
  refine ⟨_, _, hrun, hok, ?_⟩
  simpa only [hcopied, hcut] using hbuf

/-! ## The readers of the providers -/

/-- The run ends in an exception before anything has been asked. -/
def Language.Rejects (l : Language) (a : PyAnswers) (n : ℕ) (d : Dialogue PyAnswer l.Result) :
    Prop :=
  (d.run a n).2 = [] ∧ l.Raises (d.run a n).1

theorem readString_rejects (h : badCount count = true) (l : Language) (a : PyAnswers) :
    l.Rejects a n (l.readString addr count) ∧ l.Rejects a n (l.readWideString addr count) := by
  cases l with
  | lua =>
    simp [Language.Rejects, Language.readString, Language.readWideString, Lua.luaReadString,
      Lua.luaReadWideString, h, Lua.raise, Language.Raises]
  | python =>
    simp [Language.Rejects, Language.readString, Language.readWideString, Python.pyReadString,
      Python.pyReadWideString, h, Python.raise, Language.Raises]
  | ruby =>
    simp [Language.Rejects, Language.readString, Language.readWideString, Ruby.rbReadString,
      Ruby.rbReadWideString, h, Ruby.rbRaise, Language.Raises]

/-- A read that hands `text` over: it asks the question `q`, and goes on with the
    conversion of the text. -/
def HandsOver {ρ : Type} {ans : ρ → Type} {α : Type} (a : ℕ → (r : ρ) → ans r) (n : ℕ)
    (d : Dialogue ans α) (q : ρ) (convert : Dialogue ans α) : Prop :=
  d.run a n = ((convert.run a (n + 1)).1, q :: (convert.run a (n + 1)).2)

theorem readString_handsOver {a : PyAnswers} {hr : HRESULT} {buf : Buf CHAR MAX_READ_STRING_LEN}
    {q : Request} (hc : badCount count = false)
    (hrun : (utilReadAnsiString addr count).run (Dialogue.left a) n = ((hr, buf), [q]))
    (hok : FAILED hr = false) (l : Language) :
    HandsOver a n (l.readString addr count) (.inl q) (l.convert buf.str) := by
  cases l with
  | lua =>
    simp [HandsOver, Language.readString, Lua.luaReadString, hc, hrun, hok, Language.convert]
  | python =>
    simp [HandsOver, Language.readString, Python.pyReadString, hc, hrun, hok, Language.convert,
      Python.ds]
  | ruby =>
    simp [HandsOver, Language.readString, Ruby.rbReadString, hc, hrun, hok, Language.convert]

theorem readWideString_handsOver {a : PyAnswers} {hr : HRESULT}
    {buf : Buf WCHAR MAX_READ_STRING_LEN} {q : Request} (hc : badCount count = false)
    (hrun : (utilReadWideString addr count).run (Dialogue.left a) n = ((hr, buf), [q]))
    (hok : FAILED hr = false) (l : Language) :
    HandsOver a n (l.readWideString addr count) (.inl q) (l.convertWide buf.str) := by
  cases l with
  | lua =>
    cases hwide : Dialogue.left a (n + 1) (.wideCharToMultiByte buf.str UTF8BUF_LEN) <;>
      simp [HandsOver, Language.readWideString, Lua.luaReadWideString, hc, hrun, hok,
        Language.convertWide, Lua.convertWide, hwide]
  | python =>
    simp [HandsOver, Language.readWideString, Python.pyReadWideString, hc, hrun, hok,
      Language.convertWide, Python.ds]
  | ruby =>
    cases hwide : Dialogue.left a (n + 1) (.wideCharToMultiByte buf.str UTF8BUF_LEN) <;>
      simp [HandsOver, Language.readWideString, Ruby.rbReadWideString, hc, hrun, hok,
        Language.convertWide, Ruby.convertWide, hwide]

/-! ## Counted reads -/

section CountedReads

variable (a : PyAnswers) (n : ℕ) (addr : UINT64) (count : CInt) (l : Language)

/-- The buffer of the reader holds the counted part of `s`, no write has left it, and the
    provider makes its string of just this text. -/
def CountedRead (s : AnsiStr) : Prop :=
  ∃ hr buf q, (utilReadAnsiString addr count).run (Dialogue.left a) n = ((hr, buf), [q]) ∧
    FAILED hr = false ∧ buf.overrun = false ∧ buf.str = counted count s.chars ∧
    HandsOver a n (l.readString addr count) (.inl q) (l.convert (counted count s.chars))

/-- The same for a wide string. -/
def CountedWideRead (s : CStr WCHAR) : Prop :=
  ∃ hr buf q, (utilReadWideString addr count).run (Dialogue.left a) n = ((hr, buf), [q]) ∧
    FAILED hr = false ∧ buf.overrun = false ∧ buf.str = counted count s.chars ∧
    HandsOver a n (l.readWideString addr count) (.inl q) (l.convertWide (counted count s.chars))

/-- The counts 0 and above 2047 are rejected before anything is read. With any other count,
    a string shorter than the buffer is read as far as the count says. -/
theorem counted_reads {s : AnsiStr} {w : CStr WCHAR} (hs : s.chars.length < MAX_READ_STRING_LEN)
    (hw : w.chars.length < MAX_READ_STRING_LEN) (hread : ReadsAnsi (Dialogue.left a) n addr s)
    (hwread : ReadsWide (Dialogue.left a) n addr w) :
    if count = 0 ∨ (MAX_READ_STRING_LEN : ℤ) - 1 < count.toInt then
      l.Rejects a n (l.readString addr count) ∧ l.Rejects a n (l.readWideString addr count)
    else CountedRead a n addr count l s ∧ CountedWideRead a n addr count l w := by
  split_ifs with hbad
  · exact readString_rejects ((badCount_iff count).2 hbad) l a
  · have hc : badCount count = false := by
      rwa [← badCount_iff, Bool.not_eq_true] at hbad
    obtain ⟨hr, buf, hrun, hok, hover, hstr⟩ := run_utilReadAnsiString count hs hread
    obtain ⟨whr, wbuf, hwrun, hwok, hwover, hwstr⟩ :=
      run_utilReadWideString count hw hwread
    have hover' := readString_handsOver hc hrun hok l
    have hwover' := readWideString_handsOver hc hwrun hwok l
    rw [hstr] at hover'
    rw [hwstr] at hwover'
    exact ⟨⟨hr, buf, _, hrun, hok, hover, hstr, hover'⟩,
      ⟨whr, wbuf, _, hwrun, hwok, hwover, hwstr, hwover'⟩⟩

end CountedReads

/-- What a reader of the engine reports that is asked for the characters `s`, of `cb` bytes
    with their NUL. -/
def stringRead {α : Type} [Zero α] (s : List α) (cb : ℕ) (maxBytes bufferSize : ULONG) :
    StringRead α :=
  if cb ≤ maxBytes.toNat then ⟨S_OK, (s ++ [0]).take bufferSize.toNat, BitVec.ofNat 32 cb⟩
  else ⟨E_INVALIDARG, [], 0⟩

theorem stringRead_spec {α : Type} [Zero α] (s : List α) {cb : ℕ} (hcb : cb < 2 ^ 32)
    (maxBytes bufferSize : ULONG) :
    let r := stringRead s cb maxBytes bufferSize
    if cb ≤ maxBytes.toNat then
      FAILED r.hr = false ∧ r.copied = (s ++ [0]).take bufferSize.toNat ∧ r.cbActual.toNat = cb
    else FAILED r.hr = true := by
  unfold stringRead
  split_ifs
  · exact ⟨failed_S_OK, rfl, by rw [BitVec.toNat_ofNat, Nat.mod_eq_of_lt hcb]⟩
  · exact failed_E_INVALIDARG

/-- A target that has the string `s`, and the wide string `w`, at every address. -/
def targetWith (s : AnsiStr) (w : CStr WCHAR) : PyAnswers
  | _, .inl (.readMultiByteString _ maxBytes bufferSize) =>
    stringRead s.chars (s.chars.length + 1) maxBytes bufferSize
  | _, .inl (.readUnicodeString _ maxBytes bufferSize) =>
    stringRead w.chars (2 * (w.chars.length + 1)) maxBytes bufferSize
  | _, .inl r => (default : r.Answer)
  | _, .inr c => c.succeeds

theorem readsAnsi_targetWith {s : AnsiStr} (hs : s.chars.length < MAX_READ_STRING_LEN)
    (w : CStr WCHAR) (n : ℕ) (addr : UINT64) :
    ReadsAnsi (Dialogue.left (targetWith s w)) n addr s := by
  rw [MAX_READ_STRING_LEN] at hs
  exact fun maxBytes bufferSize => stringRead_spec s.chars (by omega) maxBytes bufferSize

theorem readsWide_targetWith (s : AnsiStr) {w : CStr WCHAR}
    (hw : w.chars.length < MAX_READ_STRING_LEN) (n : ℕ) (addr : UINT64) :
    ReadsWide (Dialogue.left (targetWith s w)) n addr w := by
  rw [MAX_READ_STRING_LEN] at hw
  exact fun maxBytes bufferSize => stringRead_spec w.chars (by omega) maxBytes bufferSize

/-- `abc`, read with the count 2. -/
theorem counted_reads_two :
    let s : AnsiStr := ⟨[97, 98, 99], by decide⟩
    let w : CStr WCHAR := ⟨[97, 98, 99], by decide⟩
    CountedRead (targetWith s w) 0 0x1000 2 .lua s ∧
      CountedWideRead (targetWith s w) 0 0x1000 2 .lua w := by
  intro s w
  have h := counted_reads (targetWith s w) 0 0x1000 2 .lua (by decide) (by decide)
    (readsAnsi_targetWith (by decide) w 0 0x1000) (readsWide_targetWith s (by decide) 0 0x1000)
  rwa [if_neg (by decide)] at h

end DbgScript
