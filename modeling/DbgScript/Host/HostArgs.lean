import DbgScript.Host.CmdLine

/-!
# The documented grammar of host arguments

`!runscript [host-switches] [--] …` (docs/Reference.rst:14-57): the host consumes
`-t`, `-l` with its value, and a final `--`; the first word that does not start with
`-` ends the host part and belongs to the provider.

* `parseArgs_spec`: what `ParseArgs` returns, for every argument string.
* `parseArgs_follows_iff`: that is what the grammar says iff the parser does not
  swallow the first word of the provider's part.

The word is swallowed when it is the first word of the string, which `strtok_s` has
already fetched when the loop finds out that it is no switch; and after a switch when
the look-ahead, which skips more than blanks, sees a `-` behind it.
-/

namespace DbgScript

open CharBuf
open Words (words afterWord dropWords Trims)

/-! ## Specification -/

/-- What the host part of an argument string says: whether `-t` occurs, the value of
    the last `-l`, the number of words it consumes, and whether `--` ends it. -/
structure HostArgs where
  timeRun : Bool
  lang : Option (List CHAR)
  consumed : ℕ
  terminated : Bool
  deriving DecidableEq

/-- The host part of a list of words, if it is well formed. -/
def hostPart : List (List CHAR) → Option HostArgs
  | [] => some ⟨false, none, 0, false⟩
  | w :: ws =>
    if w = switchTerminator then some ⟨false, none, 1, true⟩
    else if w = switchTime then
      (hostPart ws).map fun a => { a with timeRun := true, consumed := a.consumed + 1 }
    else if w = switchLang then
      match ws with
      | [] => none
      | v :: ws =>
        (hostPart ws).map fun a =>
          { a with lang := a.lang.or (some v), consumed := a.consumed + 2 }
    else if w.head? = some dash then none
    else some ⟨false, none, 0, false⟩

/-- The unconsumed rest of the argument string. -/
def hostRest (args : List CHAR) (a : HostArgs) : List CHAR := dropWords isBlank a.consumed args

/-- The result of `ParseArgs` is what the grammar says: failure iff the host part is
    malformed, and otherwise its switches, with `-l` cut to 63 characters, and the
    unconsumed rest up to leading blanks. -/
def FollowsGrammar (args : List CHAR) (hr : HRESULT) (parsed : ParsedArgs) : Prop :=
  match hostPart (words isBlank args) with
  | none => FAILED hr = true
  | some a => FAILED hr = false ∧ parsed.timeRun = a.timeRun ∧
      parsed.langId.str = ((a.lang.getD []).take 63).map widen ∧
      Trims isBlank (hostRest args a) parsed.remainingArgs

/-- The parser swallows the first word of the rest: the host part is not ended by `--`,
    there is such a word, and either it is the first word of the string or the
    look-ahead sees a `-`. -/
def SwallowsIn (args : List CHAR) (a : HostArgs) : Prop :=
  a.terminated = false ∧ words isBlank (hostRest args a) ≠ [] ∧
    (a.consumed = 0 ∨ peekChar (hostRest args a) = dash)

instance (args : List CHAR) (a : HostArgs) : Decidable (SwallowsIn args a) :=
  inferInstanceAs (Decidable (_ ∧ _ ∧ _))

def Swallows (args : List CHAR) : Prop := ∃ a ∈ hostPart (words isBlank args), SwallowsIn args a

/-- What `ParseArgs` leaves as the remaining arguments. -/
def leftover (args : List CHAR) (a : HostArgs) : List CHAR :=
  if SwallowsIn args a then (afterWord isBlank (hostRest args a)).tail
  else if a.consumed = 0 then [] else (hostRest args a).tail

theorem hostPart_cons (w : List CHAR) (ws : List (List CHAR)) :
    hostPart (w :: ws) =
      if w = switchTerminator then some ⟨false, none, 1, true⟩
      else if w = switchTime then
        (hostPart ws).map fun a => { a with timeRun := true, consumed := a.consumed + 1 }
      else if w = switchLang then
        match ws with
        | [] => none
        | v :: ws =>
          (hostPart ws).map fun a =>
            { a with lang := a.lang.or (some v), consumed := a.consumed + 2 }
      else if w.head? = some dash then none
      else some ⟨false, none, 0, false⟩ := by
  rw [hostPart.eq_def]

/-- A word that does not start with `-` ends the host part. -/
theorem hostPart_of_head {w : List CHAR} (hw : w.head? ≠ some dash) (ws : List (List CHAR)) :
    hostPart (w :: ws) = some ⟨false, none, 0, false⟩ := by
  have hsw : ∀ u : List CHAR, u.head? = some dash → w ≠ u := by
    rintro u hu rfl
    exact hw hu
  rw [hostPart_cons, if_neg (hsw _ rfl), if_neg (hsw _ rfl), if_neg (hsw _ rfl), if_neg hw]

/-! ## Words and the look-ahead -/

/-- What follows a word starts with a delimiter, if it is not empty. -/
theorem trims_afterWord_tail (s : List CHAR) :
    Trims isBlank (afterWord isBlank s) (afterWord isBlank s).tail := by
  apply Words.trims_tail_of_sep
  intro c hc
  have := List.head?_dropWhile_not (!isBlank ·) (s.dropWhile isBlank)
  rw [Option.mem_def, afterWord] at hc
  rw [hc] at this
  simpa using this

theorem peekChar_trims {rest r : List CHAR} (h : Trims isBlank rest r) :
    peekChar rest = peekChar r := by
  obtain ⟨b, hb, rfl⟩ := h
  rw [peekChar, List.dropWhile_append_of_pos fun c hc => isspace_of_isBlank (hb c hc), peekChar]

/-- The look-ahead sees a `-` at the start of the first word. -/
theorem peekChar_of_dash {s t : List CHAR} (hs : s.dropWhile isBlank = dash :: t) :
    peekChar s = dash := by
  have htrim : Trims isBlank s (dash :: t) :=
    ⟨s.takeWhile isBlank, fun _ hc => List.mem_takeWhile_imp hc, by
      rw [← hs, List.takeWhile_append_dropWhile]⟩
  rw [peekChar_trims htrim]
  rfl

/-- The look-ahead sees no `-` where there is no word. -/
theorem words_ne_nil_of_peekChar {s : List CHAR} (h : peekChar s = dash) :
    words isBlank s ≠ [] := by
  intro hw
  have hs := (Words.words_eq_nil_iff isBlank).mp hw
  have htrim : Trims isBlank s [] :=
    ⟨s.takeWhile isBlank, fun _ hc => List.mem_takeWhile_imp hc, by
      rw [← hs, List.takeWhile_append_dropWhile]⟩
  rw [peekChar_trims htrim] at h
  exact absurd h (by decide)

/-- Where the look-ahead sees no `-`, the host part ends. -/
theorem hostPart_of_peekChar {s : List CHAR} (h : peekChar s ≠ dash) :
    hostPart (words isBlank s) = some ⟨false, none, 0, false⟩ := by
  cases hs : s.dropWhile isBlank with
  | nil => rw [Words.words_of_dropWhile_nil isBlank hs]; rfl
  | cons c t =>
    have hc : isBlank c = false := Words.sep_of_dropWhile_cons isBlank hs
    have hne : c ≠ dash := fun hcd => h (peekChar_of_dash (by rw [hs, hcd]))
    rw [Words.words_of_dropWhile isBlank hs, List.takeWhile_cons_of_pos (by simp [hc])]
    exact hostPart_of_head (by simpa using hne) _

/-! ## The remaining arguments -/

theorem leftover_of_not_swallows {s : List CHAR} {a : HostArgs} (hsw : ¬ SwallowsIn s a)
    (h0 : a.consumed ≠ 0) : leftover s a = (hostRest s a).tail := by
  rw [leftover, if_neg hsw, if_neg h0]

/-- One host word is consumed, and the look-ahead sees no `-` behind it. -/
theorem leftover_stop {s : List CHAR} {a : HostArgs} (h0 : a.consumed ≠ 0)
    (hpeek : peekChar (hostRest s a) ≠ dash) : leftover s a = (hostRest s a).tail := by
  refine leftover_of_not_swallows ?_ h0
  rintro ⟨-, -, h | h⟩
  · exact h0 h
  · exact hpeek h

/-- The host part of `s` is `j` words of switches and then the host part of what
    follows them, where the look-ahead has seen a `-`. -/
theorem leftover_step {s : List CHAR} {a a' : HostArgs} {j : ℕ}
    (hpeek : peekChar (dropWords isBlank j s).tail = dash)
    (htrim : Trims isBlank (dropWords isBlank j s) (dropWords isBlank j s).tail)
    (hterm : a.terminated = a'.terminated) (hcons : a.consumed = a'.consumed + j)
    (hzero : a'.consumed = 0 → a'.terminated = false) :
    leftover s a = leftover (dropWords isBlank j s).tail a' := by
  set x := dropWords isBlank j s with hx
  have hrest : hostRest s a = dropWords isBlank a'.consumed x := by
    rw [hostRest, hcons, Nat.add_comm, Words.dropWords_add]
  cases hk : a'.consumed with
  | zero =>
    -- the look-ahead has been misled: both sides swallow the next word
    have hx' : hostRest s a = x := by rw [hrest, hk, dropWords]
    have hx'' : hostRest x.tail a' = x.tail := by rw [hostRest, hk, dropWords]
    have hsw : SwallowsIn s a := by
      refine ⟨hterm.trans (hzero hk), ?_, Or.inr ?_⟩
      · rw [hx', htrim.words_eq]
        exact words_ne_nil_of_peekChar hpeek
      · rw [hx', peekChar_trims htrim]
        exact hpeek
    have hsw' : SwallowsIn x.tail a' := by
      refine ⟨hzero hk, ?_, Or.inl hk⟩
      rw [hx'']
      exact words_ne_nil_of_peekChar hpeek
    rw [leftover, leftover, if_pos hsw, if_pos hsw', hx', hx'', htrim.afterWord_eq]
  | succ k =>
    have heq : hostRest s a = hostRest x.tail a' := by
      rw [hrest, hostRest, hk, dropWords, dropWords, htrim.afterWord_eq]
    have h0 : a.consumed ≠ 0 := by omega
    have h0' : a'.consumed ≠ 0 := by omega
    have hsw : SwallowsIn s a ↔ SwallowsIn x.tail a' := by
      simp only [SwallowsIn, heq, hterm, h0, h0', false_or]
    by_cases h : SwallowsIn s a
    · rw [leftover, leftover, if_pos h, if_pos (hsw.mp h), heq]
    · rw [leftover_of_not_swallows h h0, leftover_of_not_swallows (fun h' => h (hsw.mpr h')) h0',
        heq]

theorem hostPart_terminated {ws : List (List CHAR)} {a : HostArgs} (h : hostPart ws = some a)
    (h0 : a.consumed = 0) : a.terminated = false := by
  cases ws with
  | nil =>
    rw [hostPart, Option.some.injEq] at h
    rw [← h]
  | cons w ws =>
    rw [hostPart_cons] at h
    split_ifs at h
    · rw [Option.some.injEq] at h
      rw [← h] at h0
      exact absurd h0 (by decide)
    · obtain ⟨b, -, rfl⟩ := Option.map_eq_some_iff.mp h
      exact absurd h0 (Nat.succ_ne_zero _)
    · cases ws with
      | nil => cases h
      | cons v ws =>
        obtain ⟨b, -, rfl⟩ := Option.map_eq_some_iff.mp h
        exact absurd h0 (Nat.succ_ne_zero _)
    · rw [Option.some.injEq] at h
      rw [← h]

/-! ## `ParseArgs` -/

/-- How the result of the loop, started on the string `s`, depends on the host part
    of `s`. -/
def LoopResult (s : List CHAR) (parsed : ParsedArgs) (h : Host)
    (res : Host × HRESULT × ParsedArgs) : Prop :=
  match hostPart (words isBlank s) with
  | none => res.2.1 = E_INVALIDARG ∧ ∃ format args, res.1 = h.output DEBUG_OUTPUT_ERROR format args
  | some a => res.1 = h ∧ res.2.1 = S_OK ∧ res.2.2.timeRun = (parsed.timeRun || a.timeRun) ∧
      res.2.2.langId.str = (a.lang.map fun v => (v.map widen).take 63).getD parsed.langId.str ∧
      res.2.2.remainingArgs = leftover s a

/-- `j` words of switches, whose effect on the host part is `f` and on the parsed
    arguments `parsed'`: the loop stops behind them iff the look-ahead sees no `-`. -/
theorem loopResult_switch {s : List CHAR} {parsed : ParsedArgs} (parsed' : ParsedArgs) {h : Host}
    {res : Host × HRESULT × ParsedArgs} {j : ℕ} {f : HostArgs → HostArgs} (hj : j ≠ 0)
    (hpart : hostPart (words isBlank s) = (hostPart (words isBlank (dropWords isBlank j s))).map f)
    (hf : ∀ a, (f a).terminated = a.terminated ∧ (f a).consumed = a.consumed + j ∧
      (parsed.timeRun || (f a).timeRun) = (parsed'.timeRun || a.timeRun) ∧
      ((f a).lang.map fun v => (v.map widen).take 63).getD parsed.langId.str =
        (a.lang.map fun v => (v.map widen).take 63).getD parsed'.langId.str)
    (htrim : Trims isBlank (dropWords isBlank j s) (dropWords isBlank j s).tail)
    (hstop : peekChar (dropWords isBlank j s).tail ≠ dash →
      res = (h, S_OK, { parsed' with remainingArgs := (dropWords isBlank j s).tail }))
    (hloop : peekChar (dropWords isBlank j s).tail = dash →
      LoopResult (dropWords isBlank j s).tail parsed' h res) : LoopResult s parsed h res := by
  rw [htrim.words_eq] at hpart
  by_cases hpeek : peekChar (dropWords isBlank j s).tail = dash
  · have hres := hloop hpeek
    unfold LoopResult at hres ⊢
    rw [hpart]
    cases ha : hostPart (words isBlank (dropWords isBlank j s).tail) with
    | none =>
      rw [ha] at hres
      exact hres
    | some a =>
      rw [ha] at hres
      obtain ⟨hh, hhr, htime, hlang, hrest⟩ := hres
      obtain ⟨hterm, hcons, htime', hlang'⟩ := hf a
      refine ⟨hh, hhr, htime.trans htime'.symm, hlang.trans hlang'.symm, ?_⟩
      rw [hrest, leftover_step hpeek htrim hterm hcons (hostPart_terminated ha)]
  · rw [hostPart_of_peekChar hpeek, Option.map_some] at hpart
    obtain ⟨-, hcons, htime', hlang'⟩ := hf ⟨false, none, 0, false⟩
    unfold LoopResult
    rw [hpart, hstop hpeek]
    refine ⟨rfl, rfl, ?_, hlang'.symm, ?_⟩
    · rw [htime', Bool.or_false]
    · have hrest : hostRest s (f ⟨false, none, 0, false⟩) = dropWords isBlank j s := by
        rw [hostRest, hcons, Nat.zero_add]
      have hpeek' : peekChar (hostRest s (f ⟨false, none, 0, false⟩)) ≠ dash := by
        rw [hrest, peekChar_trims htrim]
        exact hpeek
      have hne : (f ⟨false, none, 0, false⟩).consumed ≠ 0 := by
        rw [hcons, Nat.zero_add]
        exact hj
      rw [leftover_stop hne hpeek', hrest]

theorem length_afterWord_tail {s t : List CHAR} {c : CHAR} (hs : s.dropWhile isBlank = c :: t) :
    (afterWord isBlank s).tail.length < s.length := by
  have hc : isBlank c = false := Words.sep_of_dropWhile_cons isBlank hs
  have h1 : (c :: t).length ≤ s.length := by
    rw [← hs]
    exact (List.dropWhile_sublist _).length_le
  have h2 : (afterWord isBlank s).length ≤ t.length := by
    rw [afterWord, hs, List.dropWhile_cons_of_pos (by simp [hc])]
    exact (List.dropWhile_sublist _).length_le
  rw [List.length_tail]
  rw [List.length_cons] at h1
  omega

theorem nulFree_widen {v : List CHAR} (hv : (0 : CHAR) ∉ v) : (0 : WCHAR) ∉ v.map widen := by
  intro h0
  obtain ⟨c, hc, h⟩ := List.mem_map.mp h0
  have hc0 : c = 0 := by
    unfold widen at h
    rw [← UInt8.toNat_inj]
    simpa using congrArg UInt16.toNat h
  exact hv (hc0 ▸ hc)

theorem switchTime_ne : switchTime ≠ switchTerminator := by decide

theorem switchLang_ne : switchLang ≠ switchTerminator ∧ switchLang ≠ switchTime := by decide

/-- The word `--`. -/
theorem loopResult_terminator {s : List CHAR} {ws : List (List CHAR)}
    (hwords : words isBlank s = switchTerminator :: ws) (parsed : ParsedArgs) (h : Host) :
    LoopResult s parsed h
      (h, S_OK, { parsed with remainingArgs := (afterWord isBlank s).tail }) := by
  have hpart : hostPart (words isBlank s) = some ⟨false, none, 1, true⟩ := by
    rw [hwords, hostPart_cons, if_pos rfl]
  have hleft : leftover s ⟨false, none, 1, true⟩ = (afterWord isBlank s).tail :=
    leftover_of_not_swallows (fun hsw => absurd hsw.1 (by decide)) (by decide)
  unfold LoopResult
  rw [hpart]
  exact ⟨rfl, rfl, (Bool.or_false _).symm, rfl, hleft.symm⟩

/-- The switch `-t`. -/
theorem loopResult_time {s : List CHAR} {parsed : ParsedArgs} {h : Host}
    {res : Host × HRESULT × ParsedArgs}
    (hwords : words isBlank s = switchTime :: words isBlank (afterWord isBlank s))
    (hstop : peekChar (afterWord isBlank s).tail ≠ dash → res =
      (h, S_OK, { parsed with timeRun := true, remainingArgs := (afterWord isBlank s).tail }))
    (hloop : peekChar (afterWord isBlank s).tail = dash →
      LoopResult (afterWord isBlank s).tail { parsed with timeRun := true } h res) :
    LoopResult s parsed h res := by
  refine loopResult_switch { parsed with timeRun := true } (j := 1)
    (f := fun a => { a with timeRun := true, consumed := a.consumed + 1 }) Nat.one_ne_zero ?_ ?_
    (trims_afterWord_tail s) hstop hloop
  · rw [hwords, hostPart_cons, if_neg switchTime_ne, if_pos rfl]
    rfl
  · intro a
    exact ⟨rfl, rfl, by rw [Bool.or_true, Bool.true_or], rfl⟩

/-- The switch `-l` with its value. -/
theorem loopResult_lang {s : List CHAR} {v : List CHAR} {parsed : ParsedArgs} {h : Host}
    {res : Host × HRESULT × ParsedArgs} (hv : (0 : CHAR) ∉ v)
    (hwords : words isBlank s = switchLang :: v :: words isBlank (dropWords isBlank 2 s))
    (hstop : peekChar (dropWords isBlank 2 s).tail ≠ dash → res = (h, S_OK,
      { parsed with
        langId := parsed.langId.cchCopy (v.map widen)
        remainingArgs := (dropWords isBlank 2 s).tail }))
    (hloop : peekChar (dropWords isBlank 2 s).tail = dash →
      LoopResult (dropWords isBlank 2 s).tail
        { parsed with langId := parsed.langId.cchCopy (v.map widen) } h res) :
    LoopResult s parsed h res := by
  have hstr : (parsed.langId.cchCopy (v.map widen)).str = (v.map widen).take 63 :=
    str_cchCopy _ (by decide) (nulFree_widen hv)
  refine loopResult_switch { parsed with langId := parsed.langId.cchCopy (v.map widen) } (j := 2)
    (f := fun a => { a with lang := a.lang.or (some v), consumed := a.consumed + 2 }) (by decide)
    ?_ ?_ (trims_afterWord_tail _) hstop hloop
  · rw [hwords, hostPart_cons, if_neg switchLang_ne.1, if_neg switchLang_ne.2, if_pos rfl]
  · rintro ⟨time, lang, consumed, terminated⟩
    refine ⟨rfl, rfl, rfl, ?_⟩
    rw [hstr]
    cases lang <;> rfl

/-- A malformed host part. -/
theorem loopResult_reject {s : List CHAR} (hpart : hostPart (words isBlank s) = none)
    (parsed : ParsedArgs) (h : Host) (format : String) (args : List FmtArg) :
    LoopResult s parsed h (h.output DEBUG_OUTPUT_ERROR format args, E_INVALIDARG, parsed) := by
  unfold LoopResult
  rw [hpart]
  exact ⟨rfl, format, args, rfl⟩

/-- A word that is no switch: it has been fetched, and so it is lost. -/
theorem loopResult_word {s w : List CHAR} {ws : List (List CHAR)}
    (hwords : words isBlank s = w :: ws) (hw : w.head? ≠ some dash) (parsed : ParsedArgs)
    (h : Host) :
    LoopResult s parsed h
      (h, S_OK, { parsed with remainingArgs := (afterWord isBlank s).tail }) := by
  have hleft : leftover s ⟨false, none, 0, false⟩ = (afterWord isBlank s).tail := by
    have hsw : SwallowsIn s ⟨false, none, 0, false⟩ :=
      ⟨rfl, by rw [hostRest, dropWords, hwords]; exact List.cons_ne_nil _ _, Or.inl rfl⟩
    rw [leftover, if_pos hsw]
    rfl
  unfold LoopResult
  rw [hwords, hostPart_of_head hw]
  exact ⟨rfl, rfl, (Bool.or_false _).symm, rfl, hleft.symm⟩

/-- What the loop returns, by induction on the length of the unread string. -/
theorem parseLoop_spec {mem : List CHAR} {p : ℕ} {s : List CHAR} (hu : Unread mem p s)
    (parsed : ParsedArgs) (h : Host) : LoopResult s parsed h (parseLoop mem p parsed h) := by
  induction hn : s.length using Nat.strong_induction_on generalizing s mem p parsed with
  | _ n ih =>
  subst hn
  cases hs : s.dropWhile isBlank with
  | nil =>
    -- no word is left
    obtain ⟨next, htok, hnext⟩ := strtok_s_none hu hs
    have hwords : words isBlank s = [] := Words.words_of_dropWhile_nil isBlank hs
    rw [parseLoop]
    split
    · next heq =>
      rw [htok] at heq
      cases heq
      have hleft : leftover s ⟨false, none, 0, false⟩ = [] := by
        simp [leftover, SwallowsIn, hostRest, dropWords, hwords]
      unfold LoopResult
      rw [hwords, hostPart, hnext.cstrAt_eq]
      exact ⟨rfl, rfl, (Bool.or_false _).symm, rfl, hleft.symm⟩
    · next heq =>
      rw [htok] at heq
      cases heq
  | cons c t =>
    obtain ⟨mem', tok, next, htok, hcstr, hfirst, hnext⟩ := strtok_s_some hu hs
    have hwords := Words.words_of_dropWhile isBlank hs
    have hlt := length_afterWord_tail hs
    have htrim := trims_afterWord_tail s
    have hdrop : dropWords isBlank 1 s = afterWord isBlank s := rfl
    have hc : isBlank c = false := Words.sep_of_dropWhile_cons isBlank hs
    generalize hw : (c :: t).takeWhile (!isBlank ·) = w at hcstr hwords
    have hhead : w.head? = some c := by
      rw [← hw, List.takeWhile_cons_of_pos (by simp [hc]), List.head?_cons]
    rw [parseLoop]
    split
    · next heq =>
      rw [htok] at heq
      cases heq
    · next heq =>
      rw [htok] at heq
      cases heq
      dsimp only
      rw [hcstr, hfirst, peek_unread hnext, hnext.cstrAt_eq]
      split_ifs with h1 h2 h3 h4 h5
      · -- `--`
        exact loopResult_terminator (hwords.trans (by rw [h1])) parsed h
      · -- `-t`, and no `-` follows
        exact loopResult_time (hwords.trans (by rw [h3])) (fun _ => rfl) fun hpeek =>
          absurd hpeek h4
      · -- `-t`, and a `-` follows
        exact loopResult_time (hwords.trans (by rw [h3])) (fun hpeek => absurd hpeek h4)
          fun _ => ih _ hlt hnext _ rfl
      · -- `-l`
        rw [h5] at hwords
        cases hs' : (afterWord isBlank s).tail.dropWhile isBlank with
        | nil =>
          obtain ⟨next', htok', -⟩ := strtok_s_none hnext hs'
          rw [htrim.words_eq, Words.words_of_dropWhile_nil isBlank hs'] at hwords
          split
          · exact loopResult_reject (by rw [hwords]; rfl) parsed h _ _
          · next heq' =>
            rw [htok'] at heq'
            cases heq'
        | cons c' t' =>
          obtain ⟨mem'', value, next', htok', hcstr', -, hnext'⟩ := strtok_s_some hnext hs'
          have hdrop : dropWords isBlank 2 s = afterWord isBlank (afterWord isBlank s).tail :=
            htrim.afterWord_eq
          have hlt' := length_afterWord_tail hs'
          rw [htrim.words_eq, Words.words_of_dropWhile isBlank hs', ← hdrop] at hwords
          rw [← hdrop] at hnext' hlt'
          split
          · next heq' =>
            rw [htok'] at heq'
            cases heq'
          · next heq' =>
            rw [htok'] at heq'
            cases heq'
            rw [hcstr', peek_unread hnext', hnext'.cstrAt_eq]
            have hv : (0 : CHAR) ∉ (c' :: t').takeWhile (!isBlank ·) := by
              rw [← hcstr']
              exact nulFree_cstr _
            refine loopResult_lang hv hwords (fun hpeek => ?_) fun hpeek => ?_
            · rw [if_pos hpeek]
            · rw [if_neg (not_not.mpr hpeek)]
              exact ih _ (hlt'.trans hlt) hnext' _ rfl
      · -- an unknown switch
        refine loopResult_reject ?_ parsed h _ _
        rw [hwords, hostPart_cons, if_neg h1, if_neg h3, if_neg h5, if_pos (by rw [hhead, h2])]
      · -- a word that is no switch
        exact loopResult_word hwords (by simpa [hhead] using h2) parsed h

/-- What `ParseArgs` returns. -/
theorem parseArgs_spec (args : AnsiStr) (h : Host) :
    LoopResult args.chars ParsedArgs.zero h (parseArgs args h) :=
  parseLoop_spec ⟨rfl, args.nulFree⟩ ParsedArgs.zero h

/-- `ParseArgs` accepts exactly the strings with a well-formed host part. -/
theorem parseArgs_accepts_iff (args : AnsiStr) (h : Host) :
    FAILED (parseArgs args h).2.1 = false ↔ ∃ a, hostPart (words isBlank args.chars) = some a := by
  have hspec := parseArgs_spec args h
  unfold LoopResult at hspec
  cases ha : hostPart (words isBlank args.chars) with
  | none =>
    rw [ha] at hspec
    rw [hspec.1]
    simp
  | some a =>
    rw [ha] at hspec
    rw [hspec.2.1]
    simp

/-- One delimiter after the host part can be dropped. -/
theorem trims_hostRest_tail {s : List CHAR} {a : HostArgs} (h0 : a.consumed ≠ 0) :
    Trims isBlank (hostRest s a) (hostRest s a).tail := by
  obtain ⟨j, hj⟩ := Nat.exists_eq_succ_of_ne_zero h0
  rw [hostRest, hj, Nat.succ_eq_add_one, Words.dropWords_add]
  exact trims_afterWord_tail _

/-- The remaining arguments are the unconsumed rest iff no word is swallowed. -/
theorem trims_leftover_iff {s : List CHAR} {a : HostArgs}
    (ha : hostPart (words isBlank s) = some a) :
    Trims isBlank (hostRest s a) (leftover s a) ↔ ¬ SwallowsIn s a := by
  by_cases hsw : SwallowsIn s a
  · -- a list of words is not its own tail
    rw [leftover, if_pos hsw]
    refine iff_of_false (fun htrim => ?_) (not_not.mpr hsw)
    have hwords := htrim.words_eq
    rw [← (trims_afterWord_tail _).words_eq, Words.words_afterWord] at hwords
    have hlen := congrArg List.length hwords
    have hpos := List.length_pos_iff.mpr hsw.2.1
    rw [List.length_tail] at hlen
    omega
  · refine iff_of_true ?_ hsw
    by_cases h0 : a.consumed = 0
    · have hwords : words isBlank (hostRest s a) = [] := by
        by_contra hne
        exact hsw ⟨hostPart_terminated ha h0, hne, Or.inl h0⟩
      have hblank := (Words.words_eq_nil_iff isBlank).mp hwords
      rw [leftover, if_neg hsw, if_pos h0]
      refine ⟨hostRest s a, fun c hc => ?_, (List.append_nil _).symm⟩
      exact List.dropWhile_eq_nil_iff.mp hblank c hc
    · rw [leftover_of_not_swallows hsw h0]
      exact trims_hostRest_tail h0

/-- **Host argument grammar.** `ParseArgs` does what the documented grammar says iff it
    swallows no word: the host part is ended by `--`, or no word follows it, or at
    least one switch precedes that word and the look-ahead does not take it for a
    switch. -/
theorem parseArgs_follows_iff (args : AnsiStr) (h : Host) :
    FollowsGrammar args.chars (parseArgs args h).2.1 (parseArgs args h).2.2 ↔
      ¬ Swallows args.chars := by
  have hspec := parseArgs_spec args h
  unfold LoopResult at hspec
  unfold FollowsGrammar Swallows
  cases ha : hostPart (words isBlank args.chars) with
  | none =>
    rw [ha] at hspec
    refine iff_of_true ?_ ?_
    · show FAILED (parseArgs args h).2.1 = true
      rw [hspec.1]
      rfl
    · rintro ⟨a, hmem, -⟩
      cases hmem
  | some a =>
    rw [ha] at hspec
    obtain ⟨-, hhr, htime, hlang, hrest⟩ := hspec
    have hlang' : (parseArgs args h).2.2.langId.str = ((a.lang.getD []).take 63).map widen := by
      rw [hlang]
      cases a.lang with
      | none => exact str_zero _
      | some v => exact List.map_take.symm
    have hsw : (∃ b ∈ some a, SwallowsIn args.chars b) ↔ SwallowsIn args.chars a := by simp
    rw [hsw, ← trims_leftover_iff ha, ← hrest]
    constructor
    · rintro ⟨-, -, -, htrim⟩
      exact htrim
    · intro htrim
      refine ⟨?_, htime, hlang', htrim⟩
      rw [hhr]
      rfl

/-- A script file with one argument: the provider receives only the argument. -/
theorem parseArgs_loses_script_name :
    let args : AnsiStr := ⟨[102, 46, 112, 121, 32, 97], by decide⟩
    ¬ FollowsGrammar args.chars (parseArgs args (Host.fresh fun _ => none)).2.1
      (parseArgs args (Host.fresh fun _ => none)).2.2 := by
  intro args hfollows
  have hpart : hostPart (words isBlank args.chars) = some ⟨false, none, 0, false⟩ := by decide
  have hspec := parseArgs_spec args (Host.fresh fun _ => none)
  unfold LoopResult at hspec
  unfold FollowsGrammar at hfollows
  rw [hpart] at hspec hfollows
  obtain ⟨-, -, -, htrim⟩ := hfollows
  rw [hspec.2.2.2.2] at htrim
  exact (trims_leftover_iff hpart).mp htrim (by decide)

end DbgScript
