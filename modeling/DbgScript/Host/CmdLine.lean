import DbgScript.Host.Context
import DbgScript.Lib.Words
import Mathlib.Data.List.GetD

/-!
# Command line processing

`ParseArgs` (src/cmdline.cpp:36-154) on the memory it works on. The argument string
is a list of bytes that ends in a NUL; pointers into it are indices. `strtok_s`
overwrites the delimiter after a token with a NUL, and tokens are read back as
C strings, so a write in the wrong place would show up in what is read later.

* `strtok_s_none`, `strtok_s_some`: one call of `strtok_s` on a part of the memory
  that has not been tokenised yet.
* `peek_unread`: the look-ahead, as a function of the part not tokenised yet.

Blanks are space and tab. `isspace` and `mbstowcs_s` are those of the "C" locale,
which the process never changes: six space characters, and each byte widened.
-/

namespace DbgScript

open CharBuf
open Words (words afterWord)

/-! ## Model -/

/-- A delimiter of `strtok_s(_, " \t", _)`. -/
def isBlank (c : CHAR) : Bool := c = 32 || c = 9

/-- `isspace`: space, and the characters from `\t` to `\r`. -/
def isspace (c : CHAR) : Bool := c = 32 || (9 ≤ c && c ≤ 13)

/-- `'-'`. -/
def dash : CHAR := 45

/-- `"--"`, `"-t"` and `"-l"`. -/
def switchTerminator : List CHAR := [45, 45]
def switchTime : List CHAR := [45, 116]
def switchLang : List CHAR := [45, 108]

/-- `strtok_s(str, " \t", &context)`: the memory after the call, the token found and
    the context. -/
def strtok_s (mem : List CHAR) (str : ℕ) : List CHAR × Option ℕ × ℕ :=
  let tok := str + ((mem.drop str).takeWhile isBlank).length
  let stop := tok + ((mem.drop tok).takeWhile fun c => c ≠ 0 && !isBlank c).length
  if mem.getD stop 0 = 0 then (mem, if stop = tok then none else some tok, stop)
  else (mem.set stop 0, some tok, stop + 1)

/-- The C string at `p`. -/
def cstrAt (mem : List CHAR) (p : ℕ) : List CHAR := cstr (mem.drop p)

/-- `peekNextTokenChar` (src/cmdline.cpp:36-47). -/
def peekNextTokenChar (mem : List CHAR) (str : ℕ) : CHAR :=
  ((mem.drop str).dropWhile isspace).headD 0

/-- A byte as a wide character. -/
def widen (c : CHAR) : WCHAR := c.toUInt16

/-- `ParsedArgs` (src/cmdline.h:19-33); `remainingArgs` is the string pointed to. -/
structure ParsedArgs where
  timeRun : Bool
  langId : Buf WCHAR MAX_LANG_ID
  remainingArgs : List CHAR

/-- `ParsedArgs parsedArgs = {}`. -/
def ParsedArgs.zero : ParsedArgs := ⟨false, Buf.zero WCHAR MAX_LANG_ID, []⟩

theorem strtok_s_lt {mem mem' : List CHAR} {str tok next : ℕ}
    (h : strtok_s mem str = (mem', some tok, next)) :
    mem'.length = mem.length ∧ str < next ∧ next ≤ mem.length := by
  unfold strtok_s at h
  dsimp only at h
  set start := str + ((mem.drop str).takeWhile isBlank).length with hstart
  set word := (mem.drop start).takeWhile fun c => c ≠ 0 && !isBlank c with hword
  have hlen : word.length ≤ mem.length - start := by
    rw [← List.length_drop]
    exact (List.takeWhile_sublist _).length_le
  split_ifs at h with h0 h1
  · cases h
  · simp only [Prod.mk.injEq, Option.some.injEq] at h
    obtain ⟨rfl, rfl, rfl⟩ := h
    exact ⟨rfl, by omega, by omega⟩
  · simp only [Prod.mk.injEq, Option.some.injEq] at h
    obtain ⟨rfl, rfl, rfl⟩ := h
    have hin : start + word.length < mem.length := by
      by_contra hout
      exact h0 (List.getD_eq_default _ _ (by omega))
    exact ⟨List.length_set, by omega, by omega⟩

/-- The `while (tok)` loop of `ParseArgs`, from the `strtok_s` call that fetches
    `tok` on (src/cmdline.cpp:75-148). -/
def parseLoop (mem : List CHAR) (str : ℕ) (parsed : ParsedArgs) (h : Host) :
    Host × HRESULT × ParsedArgs :=
  match _hs : strtok_s mem str with
  | (mem, none, nextTok) => (h, S_OK, { parsed with remainingArgs := cstrAt mem nextTok })
  | (mem, some tok, nextTok) =>
    let done (parsed : ParsedArgs) : Host × HRESULT × ParsedArgs :=
      (h, S_OK, { parsed with remainingArgs := cstrAt mem nextTok })
    if cstrAt mem tok = switchTerminator then done parsed
    else if mem.getD tok 0 = dash then
      if cstrAt mem tok = switchTime then
        let parsed := { parsed with timeRun := true }
        if peekNextTokenChar mem nextTok ≠ dash then done parsed
        else parseLoop mem nextTok parsed h
      else if cstrAt mem tok = switchLang then
        match _hv : strtok_s mem nextTok with
        | (_, none, _) =>
          (h.output DEBUG_OUTPUT_ERROR "Error: -l requires a language ID.\n" [], E_INVALIDARG,
            parsed)
        | (mem, some value, nextTok) =>
          let parsed :=
            { parsed with langId := parsed.langId.cchCopy ((cstrAt mem value).map widen) }
          if peekNextTokenChar mem nextTok ≠ dash then
            (h, S_OK, { parsed with remainingArgs := cstrAt mem nextTok })
          else parseLoop mem nextTok parsed h
      else
        (h.output DEBUG_OUTPUT_ERROR "Error: Unknown switch '%hs'.\n" [.str (cstrAt mem tok)],
          E_INVALIDARG, parsed)
    else done parsed
termination_by mem.length - str
decreasing_by
  · have := strtok_s_lt _hs
    omega
  · have := strtok_s_lt _hs
    have := strtok_s_lt _hv
    omega

/-- `ParseArgs(_strdup(args), &parsedArgs)`, with `parsedArgs` zeroed
    (src/cmdline.cpp:66-154). -/
def parseArgs (args : AnsiStr) (h : Host) : Host × HRESULT × ParsedArgs :=
  parseLoop (args.chars ++ [0]) 0 ParsedArgs.zero h

/-! ## The tokenizer on memory it has not touched yet -/

/-- From `p` on, the memory still holds the string `s`. -/
structure Unread (mem : List CHAR) (p : ℕ) (s : List CHAR) : Prop where
  cells : mem.drop p = s ++ [0]
  nulFree : (0 : CHAR) ∉ s

/-- The look-ahead of `peekNextTokenChar` on a string. -/
def peekChar (s : List CHAR) : CHAR := (s.dropWhile isspace).headD 0

theorem isBlank_zero : isBlank 0 = false := rfl

theorem isspace_of_isBlank {c : CHAR} (hc : isBlank c = true) : isspace c = true := by
  simp only [isBlank, Bool.or_eq_true, decide_eq_true_eq] at hc
  rcases hc with rfl | rfl <;> rfl

theorem Unread.cstrAt_eq {mem : List CHAR} {p : ℕ} {s : List CHAR} (hu : Unread mem p s) :
    cstrAt mem p = s := by
  rw [cstrAt, hu.cells]
  exact cstr_append_zero hu.nulFree []

theorem Unread.drop_add {mem : List CHAR} {p : ℕ} {u v : List CHAR} (hu : Unread mem p (u ++ v)) :
    Unread mem (p + u.length) v := by
  refine ⟨?_, fun h => hu.nulFree (List.mem_append_right _ h)⟩
  rw [← List.drop_drop, hu.cells, List.append_assoc]
  exact List.drop_left

theorem peek_unread {mem : List CHAR} {p : ℕ} {s : List CHAR} (hu : Unread mem p s) :
    peekNextTokenChar mem p = peekChar s := by
  rw [peekNextTokenChar, hu.cells, peekChar, List.dropWhile_append]
  split_ifs with h
  · rw [List.isEmpty_iff.mp h]
    rfl
  · cases hd : s.dropWhile isspace with
    | nil => simp [hd] at h
    | cons c t => rfl

theorem takeWhile_isBlank (s : List CHAR) :
    (s ++ [0]).takeWhile isBlank = s.takeWhile isBlank := by
  rw [List.takeWhile_append]
  split_ifs with h
  · rw [List.takeWhile_cons_of_neg (by simp [isBlank_zero]), List.append_nil]
    exact ((List.takeWhile_sublist isBlank).eq_of_length h).symm
  · rfl

/-- Skipping the leading delimiters. -/
theorem Unread.skip {mem : List CHAR} {p : ℕ} {s : List CHAR} (hu : Unread mem p s) :
    Unread mem (p + ((mem.drop p).takeWhile isBlank).length) (s.dropWhile isBlank) := by
  rw [hu.cells, takeWhile_isBlank]
  apply Unread.drop_add
  rwa [List.takeWhile_append_dropWhile]

/-- The token that starts at `tok` is the first word of what is unread there. -/
theorem Unread.takeWhile_token {mem : List CHAR} {tok : ℕ} {t : List CHAR}
    (hu : Unread mem tok t) :
    ((mem.drop tok).takeWhile fun c => c ≠ 0 && !isBlank c) = t.takeWhile (!isBlank ·) := by
  rw [hu.cells]
  have h0 := hu.nulFree
  clear hu
  induction t with
  | nil => simp
  | cons c t ih =>
    simp only [List.mem_cons, not_or] at h0
    have hc : c ≠ 0 := fun h => h0.1 h.symm
    by_cases hb : isBlank c = true
    · rw [List.cons_append, List.takeWhile_cons_of_neg (by simp [hb]),
        List.takeWhile_cons_of_neg (by simp [hb])]
    · have hb' : isBlank c = false := by simpa using hb
      rw [List.cons_append, List.takeWhile_cons_of_pos (by simp [hb', hc]),
        List.takeWhile_cons_of_pos (by simp [hb']), ih h0.2]

theorem getD_of_drop {mem l : List CHAR} {p : ℕ} (h : mem.drop p = l) :
    mem.getD p 0 = l.headD 0 := by
  rw [List.getD_eq_getElem?_getD, ← List.head?_drop, h, List.headD_eq_head?_getD]

theorem Unread.getD_eq {mem : List CHAR} {p : ℕ} {s : List CHAR} (hu : Unread mem p s) :
    mem.getD p 0 = s.headD 0 := by
  rw [getD_of_drop hu.cells]
  cases s <;> rfl

/-- Overwriting the delimiter after the word at `tok`. -/
theorem drop_set_after {mem w rest : List CHAR} {d : CHAR} {tok : ℕ}
    (h : mem.drop tok = w ++ d :: rest) :
    (mem.set (tok + w.length) 0).drop tok = w ++ 0 :: rest := by
  rw [List.drop_set, if_neg (by omega), Nat.add_sub_cancel_left, h,
    List.set_append_right _ _ le_rfl, Nat.sub_self, List.set_cons_zero]

/-- Nothing but delimiters left: no token, and the context is the end. -/
theorem strtok_s_none {mem : List CHAR} {p : ℕ} {s : List CHAR} (hu : Unread mem p s)
    (hs : s.dropWhile isBlank = []) :
    ∃ next, strtok_s mem p = (mem, none, next) ∧ Unread mem next [] := by
  have hskip := hu.skip
  rw [hs] at hskip
  refine ⟨_, ?_, hskip⟩
  have hword := hskip.takeWhile_token
  have h0 := hskip.getD_eq
  rw [List.headD_nil] at h0
  unfold strtok_s
  dsimp only
  rw [hword, List.takeWhile_nil, List.length_nil, Nat.add_zero, if_pos h0, if_pos rfl]

/-- A token is found: it is the first word, and one delimiter after it is eaten. -/
theorem strtok_s_some {mem : List CHAR} {p : ℕ} {s t : List CHAR} {c : CHAR}
    (hu : Unread mem p s) (hs : s.dropWhile isBlank = c :: t) :
    ∃ mem' tok next, strtok_s mem p = (mem', some tok, next) ∧
      cstrAt mem' tok = (c :: t).takeWhile (!isBlank ·) ∧ mem'.getD tok 0 = c ∧
      Unread mem' next (afterWord isBlank s).tail := by
  have hskip := hu.skip
  rw [hs] at hskip
  set tok := p + ((mem.drop p).takeWhile isBlank).length with htok
  have hword := hskip.takeWhile_token
  have hc : isBlank c = false := Words.sep_of_dropWhile_cons isBlank hs
  rw [afterWord, hs]
  -- the unread part is the word, `c` being its first character, and the rest `u`
  obtain ⟨w, hw⟩ : ∃ w, (c :: t).takeWhile (!isBlank ·) = c :: w := by simp [hc]
  generalize hu' : (c :: t).dropWhile (!isBlank ·) = u
  have hsplit : c :: t = (c :: w) ++ u := by
    rw [← hw, ← hu', List.takeWhile_append_dropWhile]
  rw [hw] at hword ⊢
  rw [hsplit] at hskip
  have hstop : Unread mem (tok + (c :: w).length) u := hskip.drop_add
  have hwnul : (0 : CHAR) ∉ c :: w := fun h => hskip.nulFree (List.mem_append_left _ h)
  have hcells : mem.drop tok = (c :: w) ++ (u ++ [0]) := by
    rw [hskip.cells, List.append_assoc]
  unfold strtok_s
  dsimp only
  rw [hword, ← htok]
  cases u with
  | nil =>
    -- the token ends at the terminating NUL
    have h0 := hstop.getD_eq
    rw [List.headD_nil] at h0
    refine ⟨mem, tok, tok + (c :: w).length, ?_, ?_, ?_, hstop⟩
    · rw [if_pos h0, if_neg (by rw [List.length_cons]; omega)]
    · rw [cstrAt, hcells]
      exact cstr_append_zero hwnul []
    · rw [getD_of_drop hcells]
      rfl
  | cons d u =>
    -- the token ends at a delimiter, which is overwritten
    have hd0 : mem.getD (tok + (c :: w).length) 0 ≠ 0 := by
      rw [hstop.getD_eq]
      exact fun h => hstop.nulFree (List.mem_cons.mpr (Or.inl h.symm))
    have hset := drop_set_after hcells
    refine ⟨mem.set (tok + (c :: w).length) 0, tok, tok + (c :: w).length + 1, ?_, ?_, ?_, ?_, ?_⟩
    · rw [if_neg hd0]
    · rw [cstrAt, hset]
      exact cstr_append_zero hwnul _
    · rw [getD_of_drop hset]
      rfl
    · rw [Nat.add_assoc, ← List.drop_drop, hset, List.drop_append]
      simp
    · exact fun h => hstop.nulFree (List.mem_cons_of_mem _ h)

end DbgScript
