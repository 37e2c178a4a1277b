import DbgScript.Support.Queries

/-!
# The nearest symbol

What `UtilGetNearestSymbol` (src/support/util.cpp:174-212) leaves in the array of
`MAX_SYMBOL_NAME_LEN` characters of its callers: the name that `GetNameByOffset` has
written, and after it the displacement, as much of it as there is room for.

* `run_of_appends`, `run_of_not_appends`: the code returned and the string, for all answers
  that the debugger can give.
* `getNearestSymbol_iff`: a failure is reported without a failed call iff the displacement
  has been cut.
-/

namespace DbgScript

open CharBuf (Buf FixedStr)

/-! ## Specification -/

/-- What `GetNameByOffset` returns: its code, the name it has written, the length of the
    whole name with its NUL, and the displacement. -/
abbrev NameByOffset := HRESULT × FixedStr CHAR MAX_SYMBOL_NAME_LEN × ULONG × UINT64

/-- The results that are documented: a failure, a name, or a name that had to be cut. -/
inductive NameByOffset.Documented : NameByOffset → Prop
  | failed {hr : HRESULT} {name : FixedStr CHAR MAX_SYMBOL_NAME_LEN} {cchActual : ULONG}
      {disp : UINT64} (h : FAILED hr = true) : Documented (hr, name, cchActual, disp)
  | whole {name : FixedStr CHAR MAX_SYMBOL_NAME_LEN} {cchActual : ULONG} {disp : UINT64}
      (h : cchActual.toNat = name.chars.length + 1) : Documented (S_OK, name, cchActual, disp)
  | cut {name : FixedStr CHAR MAX_SYMBOL_NAME_LEN} {cchActual : ULONG} {disp : UINT64}
      (hlen : name.chars.length = MAX_SYMBOL_NAME_LEN - 1)
      (h : MAX_SYMBOL_NAME_LEN < cchActual.toNat) : Documented (S_FALSE, name, cchActual, disp)

/-- `out` is what a caller expects when the debugger has answered `r`. -/
structure NearestSymbol (r : NameByOffset) (out : HRESULT × Buf CHAR MAX_SYMBOL_NAME_LEN) :
    Prop where
  inside : out.2.overrun = false
  failed : FAILED out.1 = true → FAILED r.1 = true
  terminated : FAILED r.1 = false → 0 ∈ out.2.cells
  named : FAILED r.1 = false → r.2.1.chars <+: out.2.str
  whole : FAILED r.1 = false → r.1 ≠ S_FALSE → r.2.2.2 ≠ 0 →
    (r.2.1.chars ++ displacement r.2.2.2).length < MAX_SYMBOL_NAME_LEN →
      out.2.str = r.2.1.chars ++ displacement r.2.2.2

/-- There is room for some of the displacement, and not for all of it. -/
def NameByOffset.CutsDisplacement (r : NameByOffset) : Prop :=
  r.1 = S_OK ∧ r.2.2.2 ≠ 0 ∧ r.2.1.chars.length + 1 < MAX_SYMBOL_NAME_LEN ∧
    MAX_SYMBOL_NAME_LEN ≤ (r.2.1.chars ++ displacement r.2.2.2).length

/-! ## The displacement -/

theorem nulFree_ofHexDigits (n : ℕ) :
    (0 : CHAR) ∉ (Nat.toDigits 16 n).map fun c => c.toNat.toUInt8 := by
  have hdigit : ∀ d < 16, (Nat.digitChar d).toNat.toUInt8 ≠ 0 := by decide
  induction n using Nat.strongRecOn with
  | ind n ih =>
    obtain hn | hn := Nat.lt_or_ge n 16
    · rw [Nat.toDigits_of_lt_base hn, List.map_singleton, List.mem_singleton]
      exact (hdigit n hn).symm
    · rw [Nat.toDigits_of_base_le (by omega) hn, List.map_append, List.mem_append, not_or,
        List.map_singleton, List.mem_singleton]
      exact ⟨ih (n / 16) (by omega), (hdigit (n % 16) (by omega)).symm⟩

theorem nulFree_displacement (disp : UINT64) : (0 : CHAR) ∉ displacement disp := by
  rw [displacement, List.mem_append, not_or]
  exact ⟨by decide, nulFree_ofHexDigits _⟩

/-- It fails where not all of the text fits. -/
theorem failed_stringCchPrintf {n : ℕ} (buf : Buf CHAR n) (off room : ℕ) (text : List CHAR) :
    FAILED (stringCchPrintf buf off room text).2 = true ↔ room ≤ text.length := by
  rw [stringCchPrintf]
  split_ifs with h
  · simpa using h
  · simpa using h

/-- As much of the text as there is room for extends the string. -/
theorem str_stringCchPrintf {n : ℕ} (buf : Buf CHAR n) {off : ℕ} (hoff : off < n)
    {text : List CHAR} (h0 : (0 : CHAR) ∉ buf.cells.take off) (ht : (0 : CHAR) ∉ text) :
    (stringCchPrintf buf off (n - off) text).1.str = (buf.cells.take off ++ text).take (n - 1) := by
  have hlen : (buf.cells.take off).length = off := by
    rw [List.length_take, buf.length_cells]
    omega
  have hfit : off + (text.take (n - off - 1)).length < n := by
    rw [List.length_take]
    omega
  rw [stringCchPrintf, CharBuf.str_memcpy_append buf hfit h0 (CharBuf.not_mem_take ht _),
    List.take_append, hlen, List.take_take, Nat.min_eq_right (by omega),
    show n - off - 1 = n - 1 - off by omega]

/-! ## The buffer -/

variable (a : DebuggerAnswers) (n : ℕ) (addr : UINT64)

/-- What the call leaves in the array. -/
def NameByOffset.buf (r : NameByOffset) : Buf CHAR MAX_SYMBOL_NAME_LEN :=
  (Buf.zero CHAR MAX_SYMBOL_NAME_LEN).memcpy 0 r.2.1.chars

/-- The displacement is written after the name. -/
def NameByOffset.Appends (r : NameByOffset) : Prop :=
  FAILED r.1 = false ∧ r.2.2.2 ≠ 0 ∧ r.1 ≠ S_FALSE ∧
    BitVec.ofNat 32 MAX_SYMBOL_NAME_LEN - r.2.2.1 ≠ 0

theorem NameByOffset.overrun_buf (r : NameByOffset) : r.buf.overrun = false :=
  CharBuf.overrun_memcpy _ (by have := r.2.1.fits; omega)

theorem NameByOffset.str_buf (r : NameByOffset) : r.buf.str = r.2.1.chars :=
  CharBuf.str_memcpy_zero r.2.1.nulFree r.2.1.fits

theorem NameByOffset.take_buf (r : NameByOffset) :
    r.buf.cells.take r.2.1.chars.length = r.2.1.chars := by
  rw [buf, CharBuf.cells_memcpy_zero r.2.1.fits.le, List.take_left]

theorem NameByOffset.zero_mem_buf (r : NameByOffset) : 0 ∈ r.buf.cells := by
  have := r.2.1.fits
  rw [buf, CharBuf.cells_memcpy_zero r.2.1.fits.le, List.mem_append, List.mem_replicate]
  exact .inr ⟨by omega, rfl⟩

theorem run_of_appends {r : NameByOffset} (hr : a n (.getNameByOffset addr) = r)
    (h : r.Appends) :
    ((utilGetNearestSymbol addr).run a n).1 =
      let out := stringCchPrintf r.buf (r.2.2.1 - 1).toNat
        (BitVec.ofNat 32 MAX_SYMBOL_NAME_LEN - (r.2.2.1 - 1)).toNat (displacement r.2.2.2)
      (out.2, out.1) := by
  obtain ⟨code, name, cchActual, disp⟩ := r
  have hf : FAILED code ≠ true := by simpa using h.1
  simp only [utilGetNearestSymbol, Dialogue.run_bind, ask, Dialogue.request, Dialogue.run_ask,
    Dialogue.run_done, hr]
  rw [if_neg hf, if_pos h.2]
  rfl

theorem run_of_not_appends {r : NameByOffset} (hr : a n (.getNameByOffset addr) = r)
    (h : ¬ r.Appends) : ((utilGetNearestSymbol addr).run a n).1 = (r.1, r.buf) := by
  obtain ⟨code, name, cchActual, disp⟩ := r
  simp only [utilGetNearestSymbol, Dialogue.run_bind, ask, Dialogue.request, Dialogue.run_ask,
    Dialogue.run_done, hr]
  by_cases hf : FAILED code = true
  · rw [if_pos hf]
    rfl
  · rw [if_neg hf, if_neg fun h' => h ⟨by simpa using hf, h'⟩]
    rfl

/-! ## Names that are whole -/

/-- The lengths that the code computes from that of a name of `k` characters. -/
theorem room_of_length {cchActual : ULONG} {k : ℕ} (h : cchActual.toNat = k + 1)
    (hk : k < MAX_SYMBOL_NAME_LEN) :
    (cchActual - 1).toNat = k ∧
      (BitVec.ofNat 32 MAX_SYMBOL_NAME_LEN - (cchActual - 1)).toNat = MAX_SYMBOL_NAME_LEN - k ∧
      (BitVec.ofNat 32 MAX_SYMBOL_NAME_LEN - cchActual ≠ 0 ↔ k + 1 < MAX_SYMBOL_NAME_LEN) := by
  rw [MAX_SYMBOL_NAME_LEN] at hk ⊢
  refine ⟨?_, ?_, ?_⟩ <;> bv_omega

section Whole

variable {name : FixedStr CHAR MAX_SYMBOL_NAME_LEN} {cchActual : ULONG} {disp : UINT64}

theorem appends_whole_iff (h : cchActual.toNat = name.chars.length + 1) :
    NameByOffset.Appends (S_OK, name, cchActual, disp) ↔
      disp ≠ 0 ∧ name.chars.length + 1 < MAX_SYMBOL_NAME_LEN := by
  obtain ⟨-, -, hroom⟩ := room_of_length h name.fits
  simp only [NameByOffset.Appends, failed_S_OK, hroom, true_and]
  exact and_congr_right fun _ => and_iff_right (by decide)

/-- The displacement is appended, as much of it as there is room for; it is a failure if
    that is not all of it. -/
theorem appended_whole (hr : a n (.getNameByOffset addr) = (S_OK, name, cchActual, disp))
    (h : cchActual.toNat = name.chars.length + 1) (hdisp : disp ≠ 0)
    (hroom : name.chars.length + 1 < MAX_SYMBOL_NAME_LEN) :
    let out := ((utilGetNearestSymbol addr).run a n).1
    (FAILED out.1 = true ↔ MAX_SYMBOL_NAME_LEN ≤ (name.chars ++ displacement disp).length) ∧
      out.2.overrun = false ∧ 0 ∈ out.2.cells ∧
      out.2.str = (name.chars ++ displacement disp).take (MAX_SYMBOL_NAME_LEN - 1) := by
  have happ := (appends_whole_iff h).2 ⟨hdisp, hroom⟩
  obtain ⟨hoff, hlen, -⟩ := room_of_length h name.fits
  have htake := NameByOffset.take_buf (S_OK, name, cchActual, disp)
  have hfits : name.chars.length +
      ((displacement disp).take (MAX_SYMBOL_NAME_LEN - name.chars.length - 1) ++ [0]).length ≤
        MAX_SYMBOL_NAME_LEN := by
    rw [List.length_append, List.length_take, List.length_singleton]
    omega
  simp only [run_of_appends a n addr hr happ, hoff, hlen]
  refine ⟨?_, ?_, ?_, ?_⟩
  · rw [failed_stringCchPrintf, List.length_append]
    omega
  · rw [stringCchPrintf, CharBuf.overrun_memcpy _ hfits, NameByOffset.overrun_buf]
  · rw [stringCchPrintf, CharBuf.cells_memcpy _ hfits]
    simp
  · rw [str_stringCchPrintf _ (by omega) (by rw [htake]; exact name.nulFree)
      (nulFree_displacement disp), htake]

end Whole

/-! ## All answers -/

theorem nearestSymbol_of_not_appends {r : NameByOffset} (hr : a n (.getNameByOffset addr) = r)
    (hdoc : r.Documented) (h : ¬ r.Appends) :
    NearestSymbol r ((utilGetNearestSymbol addr).run a n).1 := by
  rw [run_of_not_appends a n addr hr h]
  refine ⟨r.overrun_buf, id, fun _ => r.zero_mem_buf, fun _ => ?_, fun hok hne hdisp hfit => ?_⟩
  · rw [r.str_buf]
  · cases hdoc with
    | failed hf => simp [hf] at hok
    | cut => exact absurd rfl hne
    | whole hlen =>
      refine absurd ((appends_whole_iff hlen).2 ⟨hdisp, lt_of_le_of_lt ?_ hfit⟩) h
      simp [displacement, ansi]

/-- The debugger's answer to the question for the name at `addr`. -/
def nameByOffset : NameByOffset := a n (.getNameByOffset addr)

/-- The string is what a caller expects, and a failure that of the debugger, iff there is
    room for all of the displacement or none of it is appended. -/
theorem getNearestSymbol_iff (hdoc : (nameByOffset a n addr).Documented) :
    NearestSymbol (nameByOffset a n addr) ((utilGetNearestSymbol addr).run a n).1 ↔
      ¬ (nameByOffset a n addr).CutsDisplacement := by
  generalize hr : nameByOffset a n addr = r at hdoc
  by_cases happ : r.Appends
  · cases hdoc with
    | failed hf => exact absurd happ.1 (by simp [hf])
    | cut => exact absurd rfl happ.2.2.1
    | @whole name cchActual disp hlen =>
      obtain ⟨hdisp, hroom⟩ := (appends_whole_iff hlen).1 happ
      obtain ⟨hfail, hin, hnul, hstr⟩ := appended_whole a n addr hr hlen hdisp hroom
      constructor
      · rintro h ⟨-, -, -, hcut⟩
        exact absurd (h.failed (hfail.2 hcut)) (by simp)
      · intro hcut
        have hfit : (name.chars ++ displacement disp).length < MAX_SYMBOL_NAME_LEN :=
          Nat.lt_of_not_le fun hle => hcut ⟨rfl, hdisp, hroom, hle⟩
        rw [List.take_of_length_le (by omega)] at hstr
        refine ⟨hin, fun hf => absurd (hfail.1 hf) (by omega), fun _ => hnul, fun _ => ?_,
          fun _ _ _ _ => hstr⟩
        rw [hstr]
        exact List.prefix_append _ _
  · refine iff_of_true (nearestSymbol_of_not_appends a n addr hr hdoc happ) ?_
    rintro ⟨hok, hdisp, hroom, -⟩
    cases hdoc with
    | failed hf =>
      obtain rfl : _ = S_OK := hok
      exact absurd hf (by decide)
    | cut => cases hok
    | whole hlen => exact happ ((appends_whole_iff hlen).2 ⟨hdisp, hroom⟩)

/-- A debugger that knows one name. -/
def answersWithName (r : NameByOffset) : DebuggerAnswers := fun _ q =>
  match q with
  | .getNameByOffset _ => r
  | _ => default

/-- A name of `k` characters. -/
def nameOfLength (k : ℕ) (hk : k < MAX_SYMBOL_NAME_LEN) : FixedStr CHAR MAX_SYMBOL_NAME_LEN where
  chars := List.replicate k 0x41
  nulFree := fun h => absurd (List.eq_of_mem_replicate h) (by decide)
  fits := by simpa using hk

@[simp] theorem length_nameOfLength (k : ℕ) (hk : k < MAX_SYMBOL_NAME_LEN) :
    (nameOfLength k hk).chars.length = k := List.length_replicate

theorem getNearestSymbol_of_short_name :
    NearestSymbol (S_OK, nameOfLength 4 (by decide), 5, 0x10)
      ((utilGetNearestSymbol 0x401010).run
        (answersWithName (S_OK, nameOfLength 4 (by decide), 5, 0x10)) 0).1 :=
  (getNearestSymbol_iff (answersWithName (S_OK, nameOfLength 4 (by decide), 5, 0x10)) 0 0x401010
    (.whole rfl)).2 fun h => absurd h.2.2.2 (by decide)

/-- A name of 510 characters: the displacement 1 is cut to its sign, and the call fails
    although the name was found. -/
theorem getNearestSymbol_of_cut_displacement :
    NameByOffset.Documented (S_OK, nameOfLength 510 (by decide), 511, 1) ∧
      ¬ NearestSymbol (S_OK, nameOfLength 510 (by decide), 511, 1)
        ((utilGetNearestSymbol 0x401001).run
          (answersWithName (S_OK, nameOfLength 510 (by decide), 511, 1)) 0).1 := by
  have hlen : (511 : ULONG).toNat = (nameOfLength 510 (by decide)).chars.length + 1 := by
    rw [length_nameOfLength]
    rfl
  refine ⟨.whole hlen, fun h => ?_⟩
  have hfail := appended_whole (answersWithName (S_OK, nameOfLength 510 (by decide), 511, 1)) 0
    0x401001 rfl hlen (by decide) (by rw [length_nameOfLength]; decide)
  have hcut : MAX_SYMBOL_NAME_LEN ≤
      ((nameOfLength 510 (by decide)).chars ++ displacement 1).length := by
    rw [List.length_append, length_nameOfLength]
    decide
  exact absurd (h.failed (hfail.1.2 hcut)) (by decide)

end DbgScript
