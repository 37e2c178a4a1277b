import DbgScript.Providers.StringReads
import DbgScript.Lib.Utf

/-!
# Wide strings in the three providers

Lua and Ruby take their strings as UTF-8 and convert a wide string in a buffer of 4096
bytes (src/luaprov/util.cpp:116-138, src/rubyprov/util.cpp:134-158); Python takes it as it
is. A string has up to 2047 code units, and a code unit becomes up to three bytes.

* `readWideString_of_units_le`: a text of 1365 code units at most always comes back.
* `readWideString_iff`: the three providers return the same text exactly if it fits, with
  its NUL, in the 4096 bytes.
-/

namespace DbgScript

open CharBuf (CStr Buf)
open Python (PyAnswer PyAnswers)
open Utf (utf8Encode utf16Encode)

/-! ## Specification -/

/-- The UTF-8 encoding of the text fits in `utf8buf` with its NUL. -/
def FitsUtf8buf (s : List Char) : Prop := (utf8Encode s).length < UTF8BUF_LEN

instance (s : List Char) : Decidable (FitsUtf8buf s) := inferInstanceAs (Decidable (_ < _))

/-- `WideCharToMultiByte(CP_UTF8, ...)` on the encoding of `s`: it fails if there is no room
    for the UTF-8 encoding. -/
def ConvertsWide (a : DebuggerAnswers) (n : ℕ) (s : List Char) : Prop :=
  let r : Except Win32Error AnsiStr := a n (.wideCharToMultiByte (utf16Encode s) UTF8BUF_LEN)
  if FitsUtf8buf s then ∃ t, r = .ok t ∧ t.chars = utf8Encode s
  else ∃ err, r = .error err

/-- The text `s` is returned, in the encoding of the language's strings. -/
def Language.ReturnsText (s : List Char) : (l : Language) → l.Result → Prop
  | .lua, r => r = .ok (.string (utf8Encode s))
  | .python, r => r = (some (.wstr (utf16Encode s)), none)
  | .ruby, r => r = .ok (.string (utf8Encode s))

/-! ## Conversions -/

variable {a : PyAnswers} {n : ℕ} {s : List Char}

/-- What the conversion does in Lua and Ruby depends on whether the text fits. -/
theorem ConvertsWide.cases (h : ConvertsWide (Dialogue.left a) n s) :
    (FitsUtf8buf s ∧ ∃ t : AnsiStr,
      Dialogue.left a n (.wideCharToMultiByte (utf16Encode s) UTF8BUF_LEN) = .ok t ∧
        t.chars = utf8Encode s) ∨
    (¬ FitsUtf8buf s ∧ ∃ err,
      Dialogue.left a n (.wideCharToMultiByte (utf16Encode s) UTF8BUF_LEN) = .error err) := by
  unfold ConvertsWide at h
  by_cases hfits : FitsUtf8buf s
  · exact .inl ⟨hfits, by simpa only [if_pos hfits] using h⟩
  · exact .inr ⟨hfits, by simpa only [if_neg hfits] using h⟩

theorem convertWide_returns_iff (hconv : ConvertsWide (Dialogue.left a) n s)
    (hmem : a n (.inr .newObject) = .ok ()) (l : Language) :
    l.ReturnsText s ((l.convertWide (utf16Encode s)).run a n).1 ↔
      l = .python ∨ FitsUtf8buf s := by
  cases l with
  | lua =>
    obtain ⟨hfits, t, ht, hchars⟩ | ⟨hlong, err, herr⟩ := hconv.cases
    · simp [Language.ReturnsText, Language.convertWide, Lua.convertWide, ht, hchars, hfits]
    · simp [Language.ReturnsText, Language.convertWide, Lua.convertWide, herr, hlong, Lua.raise]
  | python =>
    have hrun : ((Language.python.convertWide (utf16Encode s)).run a n).1 =
        (some (.wstr (utf16Encode s)), none) := by
      rw [Language.convertWide, Python.run_newObject, hmem]
      rfl
    simp [Language.ReturnsText, hrun]
  | ruby =>
    obtain ⟨hfits, t, ht, hchars⟩ | ⟨hlong, err, herr⟩ := hconv.cases
    · simp [Language.ReturnsText, Language.convertWide, Ruby.convertWide, ht, hchars, hfits]
    · simp [Language.ReturnsText, Language.convertWide, Ruby.convertWide, herr, hlong,
        Ruby.rbRaise]

/-- A count selects a beginning of the string. -/
theorem counted_prefix {α : Type} (count : CInt) (s : List α) : counted count s <+: s := by
  unfold counted
  split_ifs
  · exact List.prefix_rfl
  · exact List.take_prefix _ _

/-! ## Reads -/

section Reads

variable {addr : UINT64} {count : CInt} {w : CStr WCHAR}

/-- The counted part of a wide string, in one language. -/
theorem readWideString_returns_iff (hc : badCount count = false)
    (hw : w.chars.length < MAX_READ_STRING_LEN) (hs : utf16Encode s = counted count w.chars)
    (hread : ReadsWide (Dialogue.left a) n addr w)
    (hconv : ConvertsWide (Dialogue.left a) (n + 1) s)
    (hmem : a (n + 1) (.inr .newObject) = .ok ()) (l : Language) :
    l.ReturnsText s ((l.readWideString addr count).run a n).1 ↔ l = .python ∨ FitsUtf8buf s := by
  obtain ⟨hr, buf, hrun, hok, -, hstr⟩ := run_utilReadWideString count hw hread
  have hover := readWideString_handsOver hc hrun hok l
  rw [hstr, ← hs] at hover
  rw [hover]
  exact convertWide_returns_iff hconv hmem l

/-- A text of 1365 code units at most fits: each of them becomes three bytes at most. -/
theorem fitsUtf8buf_of_units_le (h : (utf16Encode s).length ≤ 1365) : FitsUtf8buf s := by
  have hle := Utf.length_utf8Encode_le s
  rw [FitsUtf8buf, UTF8BUF_LEN, MAX_READ_STRING_LEN]
  omega

/-- Every provider returns a text of 1365 code units at most. -/
theorem readWideString_of_units_le (hc : badCount count = false)
    (hw : w.chars.length < MAX_READ_STRING_LEN) (hs : utf16Encode s = counted count w.chars)
    (hshort : (utf16Encode s).length ≤ 1365) (hread : ReadsWide (Dialogue.left a) n addr w)
    (hconv : ConvertsWide (Dialogue.left a) (n + 1) s)
    (hmem : a (n + 1) (.inr .newObject) = .ok ()) (l : Language) :
    l.ReturnsText s ((l.readWideString addr count).run a n).1 :=
  (readWideString_returns_iff hc hw hs hread hconv hmem l).2
    (.inr (fitsUtf8buf_of_units_le hshort))

/-- For a well-formed text and a count that splits no surrogate pair, the three providers
    return the first characters that the count selects, exactly if these fit in `utf8buf`. -/
theorem readWideString_iff {chars : List Char} (hchars : w.chars = utf16Encode chars)
    (hw : w.chars.length < MAX_READ_STRING_LEN) (hc : badCount count = false)
    (hs : utf16Encode s = counted count w.chars) (hread : ReadsWide (Dialogue.left a) n addr w)
    (hconv : ConvertsWide (Dialogue.left a) (n + 1) s)
    (hmem : a (n + 1) (.inr .newObject) = .ok ()) :
    s <+: chars ∧
      ((∀ l : Language, l.ReturnsText s ((l.readWideString addr count).run a n).1) ↔
        FitsUtf8buf s) := by
  have hiff := readWideString_returns_iff hc hw hs hread hconv hmem
  constructor
  · apply Utf.utf16Encode_prefix
    rw [hs, ← hchars]
    exact counted_prefix count w.chars
  · constructor
    · intro h
      exact ((hiff .lua).1 (h .lua)).resolve_left (by simp)
    · intro hfits l
      exact (hiff l).2 (.inr hfits)

end Reads

/-! ## Two texts -/

/-- A target with the wide string `w` at every address, and `converted` as its conversion. -/
def targetWithWide (w : CStr WCHAR) (converted : Except Win32Error AnsiStr) : PyAnswers
  | _, .inl (.wideCharToMultiByte _ _) => converted
  | k, q => targetWith default w k q

theorem readsWide_targetWithWide {w : CStr WCHAR} (hw : w.chars.length < MAX_READ_STRING_LEN)
    (converted : Except Win32Error AnsiStr) (n : ℕ) (addr : UINT64) :
    ReadsWide (Dialogue.left (targetWithWide w converted)) n addr w :=
  fun maxBytes bufferSize => readsWide_targetWith default hw n addr maxBytes bufferSize

/-- `a中`, which is four bytes in UTF-8. -/
theorem readWideString_short :
    let text : List Char := ['a', '中']
    let w : CStr WCHAR := ⟨utf16Encode text, by decide⟩
    let a := targetWithWide w (.ok ⟨utf8Encode text, by decide⟩)
    text <+: text ∧
      ((∀ l : Language, l.ReturnsText text ((l.readWideString 0x1000 2).run a 0).1) ↔
        FitsUtf8buf text) := by
  intro text w a
  have hconv : ConvertsWide (Dialogue.left a) 1 text := by
    have hfits : FitsUtf8buf text := by decide
    unfold ConvertsWide
    exact (if_pos hfits).mpr ⟨_, rfl, rfl⟩
  exact readWideString_iff rfl (by decide) (by decide) (by decide)
    (readsWide_targetWithWide (by decide) _ 0 0x1000) hconv rfl

/-- `ERROR_INSUFFICIENT_BUFFER`. -/
def insufficientBuffer : Win32Error := ⟨122, by decide⟩

/-- A text that does not fit is read in full, but there is no room for its conversion. -/
theorem readWideString_of_not_fits (h0 : (0 : WCHAR) ∉ utf16Encode s)
    (hlen : (utf16Encode s).length < MAX_READ_STRING_LEN) (hlong : ¬ FitsUtf8buf s)
    (addr : UINT64) :
    let w : CStr WCHAR := ⟨utf16Encode s, h0⟩
    let a := targetWithWide w (.error insufficientBuffer)
    ReadsWide (Dialogue.left a) 0 addr w ∧ ConvertsWide (Dialogue.left a) 1 s ∧
      ∀ l : Language, l.ReturnsText s ((l.readWideString addr (-1)).run a 0).1 ↔ l = .python := by
  intro w a
  have hread := readsWide_targetWithWide (w := w) hlen (.error insufficientBuffer) 0 addr
  have hconv : ConvertsWide (Dialogue.left a) 1 s := by
    unfold ConvertsWide
    exact (if_neg hlong).mpr ⟨_, rfl⟩
  have hcounted : utf16Encode s = counted (-1) w.chars := (if_pos (by decide)).symm
  refine ⟨hread, hconv, fun l => ?_⟩
  have hiff := readWideString_returns_iff (a := a) (by decide) hlen hcounted hread hconv rfl l
  rwa [or_iff_left hlong] at hiff

/-- 1366 times `中`, which is 4098 bytes. -/
@[irreducible] def longText : List Char := List.replicate 1366 '中'

theorem utf16Encode_longText : utf16Encode longText = List.replicate 1366 0x4e2d := by
  rw [utf16Encode, longText, List.flatMap_replicate, show Utf.utf16Units '中' = [0x4e2d] by decide,
    List.flatten_replicate_singleton]

theorem not_fits_longText : ¬ FitsUtf8buf longText := by
  rw [FitsUtf8buf, utf8Encode, longText, List.flatMap_replicate, List.length_flatten,
    List.map_replicate, List.sum_replicate, String.length_utf8EncodeChar]
  decide

theorem longText_nulFree : (0 : WCHAR) ∉ utf16Encode longText := by
  rw [utf16Encode_longText]
  intro h
  exact absurd (List.eq_of_mem_replicate h) (by decide)

theorem length_longText_lt : (utf16Encode longText).length < MAX_READ_STRING_LEN := by
  rw [utf16Encode_longText, List.length_replicate]
  decide

/-- With all of the long text asked for, only Python returns it. -/
theorem readWideString_long_text_fails :
    let w : CStr WCHAR := ⟨utf16Encode longText, longText_nulFree⟩
    let a := targetWithWide w (.error insufficientBuffer)
    ReadsWide (Dialogue.left a) 0 0x1000 w ∧ ConvertsWide (Dialogue.left a) 1 longText ∧
      ¬ ∀ l : Language, l.ReturnsText longText ((l.readWideString 0x1000 (-1)).run a 0).1 := by
  intro w a
  have h := readWideString_of_not_fits longText_nulFree length_longText_lt not_fits_longText 0x1000
  refine ⟨h.1, h.2.1, fun hall => ?_⟩
  exact Language.noConfusion ((h.2.2 .lua).1 (hall .lua))

end DbgScript
