import DbgScript.Host.Selection

/-!
# The argument vector of a script

`runscript` hands the remaining arguments to `CommandLineToArgvW`. `strtok_s` has eaten
exactly one of the delimiters that follow the host part, and `CommandLineToArgvW` gives
a meaning to leading blanks and to the empty text.

* `runs_runscript`: the `Run` call that `runscript` makes.
* `script_args_iff`: its vector is that of the rest without its leading blanks, whatever
  the documentation leaves open, iff exactly one blank separates the host part from a
  word that `ParseArgs` does not swallow.
-/

namespace DbgScript

open Words (words afterWord Trims)

/-! ## Specification -/

def ProvCall.runArgv? : ProvCall → Option (List (List WCHAR))
  | .run _ _ argv => some argv
  | _ => none

/-- The argument vectors of the `Run` calls so far. -/
def Host.runs (h : Host) : List (List (List WCHAR)) := h.provCalls.filterMap ProvCall.runArgv?

/-- A space or a tab, as a wide character. -/
def isWideBlank (c : WCHAR) : Bool := c = 32 || c = 9

section Argv

variable (convert : List CHAR → Option (List WCHAR))
  (toArgv : List WCHAR → Except Win32Error (List (List WCHAR)))

/-- `CommandLineToArgvW` of the wide form of a text. -/
def textArgv (text : List CHAR) : Option (List (List WCHAR)) :=
  (convert text).bind fun w => (toArgv w).toOption

/-- What the script should get from what follows the host part: its argument vector
    without the leading blanks, and no `Run` at all if there is nothing else. -/
def documentedArgv (rest : List CHAR) : Option (List (List WCHAR)) :=
  if rest.all isBlank then none else textArgv convert toArgv (rest.dropWhile isBlank)

/-- What is documented about the two functions: the characters of ASCII are kept; a text
    that starts with white space has an empty first argument; and the empty text yields
    the path of the executable. -/
structure Documented : Prop where
  ascii : ∀ s, (∀ c ∈ s, c < 128) → ∀ w ∈ convert s, w = s.map widen
  leading : ∀ s argv, (∃ c ∈ s.head?, isWideBlank c = true) → toArgv s = .ok argv →
    argv.head? = some []
  empty : ∀ argv, toArgv [] = .ok argv → ∃ exe, exe ≠ [] ∧ argv = [exe]

end Argv

/-- The same outside calls, with the given argument vectors. -/
def CommandEnv.withArgv (e : CommandEnv) (convert : List CHAR → Option (List WCHAR))
    (toArgv : List WCHAR → Except Win32Error (List (List WCHAR))) : CommandEnv :=
  { e with convertAnsiToWide := convert, commandLineToArgv := toArgv }

/-- `runscript` gets past the load of its provider. -/
structure Ready (e : CommandEnv) (client : ClientId) (args : AnsiStr) (h : Host)
    (a : HostArgs) : Prop extends Selecting e client args h a where
  loads : ∃ g parsed p, selectScript runscriptRequires e client args h = (g, .ok (parsed, p)) ∧
    FAILED (loadScriptProviderIfNeeded e.load p g).2 = false

/-- Exactly one blank and then a word follow the host part, and the word is not
    swallowed. -/
def OneBlank (args : List CHAR) (a : HostArgs) : Prop :=
  (∃ c ∈ (hostRest args a).tail.head?, isBlank c = false) ∧ ¬ SwallowsIn args a

/-! ## The `Run` call -/

variable {e : CommandEnv} {client : ClientId} {args : AnsiStr} {h h' : Host} {a : HostArgs}

theorem SameProviders.runs (hs : SameProviders h h') : h'.runs = h.runs := by
  rw [Host.runs, hs.provCalls, Host.runs]

theorem runs_prov (h : Host) {c : ProvCall} (hc : c.runArgv? = none) :
    (h.emit (.prov c)).runs = h.runs := by
  simp [Host.runs, Host.provCalls, HostCall.prov?, hc]

theorem runs_bind (e : LoadEnv) (p : ProviderPtr) (fs : List CallbackExport) (h : Host) :
    (bindCallbacks e p fs h).1.runs = h.runs := by
  induction fs generalizing h with
  | nil => rfl
  | cons f fs ih =>
    rw [bindCallbacks]
    split
    · rfl
    · exact ih _

theorem runs_createInstance (e : LoadEnv) (p : ProviderPtr) (h : Host) :
    (createInstance e p h).runs = h.runs := by
  unfold createInstance
  exact (runs_prov _ rfl).trans (runs_prov h rfl)

/-- Loading a provider does not run a script. -/
theorem runs_load (e : LoadEnv) (p : ProviderPtr) (h : Host) :
    (loadScriptProviderIfNeeded e p h).1.runs = h.runs := by
  unfold loadScriptProviderIfNeeded
  split
  · unfold loadAndCreateScriptProvider
    dsimp only
    split
    · exact (quiet_output h _ _ _).sameProviders.runs
    · next dllPath _ =>
      have h1 := runs_prov h (c := .setDllDirectory dllPath) rfl
      split
      · exact h1
      · split
        · exact h1
        · next m _ =>
          have h2 := (runs_prov (h.emit (.prov (.setDllDirectory dllPath)))
            (c := .loadLibrary p m) rfl).trans h1
          split
          · next g err heq =>
            have h3 : g.runs = _ := (congrArg (·.1.runs) heq).symm.trans (runs_bind e p _ _)
            exact h3.trans h2
          · next g heq =>
            have h3 : g.runs = _ := (congrArg (·.1.runs) heq).symm.trans (runs_bind e p _ _)
            have h4 := runs_prov g (c := .initFunc p (g.info p).initFunc) rfl
            split_ifs
            · exact (runs_createInstance e p _).trans (h4.trans (h3.trans h2))
            · exact h4.trans (h3.trans h2)
  · rfl

theorem runs_unload (h : Host) (p : ProviderPtr) : (unloadScriptProvider h p).runs = h.runs := by
  unfold unloadScriptProvider unloadScriptProviderWith
  split
  · rfl
  · exact (runs_prov _ rfl).trans ((runs_prov _ rfl).trans (runs_prov h rfl))

theorem runs_unloads (ps : List ProviderPtr) (h : Host) :
    (ps.foldl unloadScriptProvider h).runs = h.runs := by
  induction ps generalizing h with
  | nil => rfl
  | cons p ps ih => exact (ih _).trans (runs_unload h p)

theorem runs_exit (command : ScriptCommand) (vm : Bool) (initialized : Option ProviderPtr)
    (hr : HRESULT) (h : Host) :
    ((command.exitTeardown vm initialized hr).1.complete h).runs = h.runs :=
  (quiet_exit command vm initialized hr h).sameProviders.runs.trans (runs_unloads _ h)

/-- The argument vector depends on the text alone. -/
theorem makeArgList_eq (e : CommandEnv) (text : List CHAR) (h : Host) :
    (makeArgList e text h).2.toOption = textArgv e.convertAnsiToWide e.commandLineToArgv text := by
  unfold makeArgList textArgv
  cases e.convertAnsiToWide text with
  | none => rfl
  | some w =>
    dsimp only [Option.bind_some]
    cases e.commandLineToArgv w <;> rfl

/-- `runscript` calls `Run` with the vector of what `ParseArgs` leaves, and not at all if
    there is none. -/
theorem runs_runscript (hready : Ready e client args h a) :
    (runscript e client args h).1.runs =
      h.runs ++
        (textArgv e.convertAnsiToWide e.commandLineToArgv (leftover args.chars a)).toList := by
  obtain ⟨g, parsed, p, hsel, hload⟩ := hready.loads
  obtain ⟨g', parsed', hsame, -, hrest, hsel'⟩ :=
    select_parsed hready.toSelecting runscriptRequires
  have hruns : g.runs = h.runs ∧ parsed.remainingArgs = leftover args.chars a := by
    rw [hsel] at hsel'
    cases hreg : registered h (langText a) with
    | none =>
      rw [hreg] at hsel'
      cases hsel'
    | some q =>
      rw [hreg] at hsel'
      cases hsel'
      exact ⟨hsame.runs, hrest⟩
  have hloaded := (runs_load e.load p g).trans hruns.1
  simp only [runscript, beginRunscript, hsel, hruns.2]
  generalize loadScriptProviderIfNeeded e.load p g = r at hload hloaded
  rw [if_neg (by simp [hload]), ← makeArgList_eq e (leftover args.chars a) r.1]
  have hquiet := (quiet_makeArgList e (leftover args.chars a) r.1).1.sameProviders.runs
  rcases hm : makeArgList e (leftover args.chars a) r.1 with ⟨g', hr | argv⟩
  · rw [hm] at hquiet
    have hexit := runs_exit .runscript h.ctx.startVMEnabled (some p) hr g'
    exact (hexit.trans (hquiet.trans hloaded)).trans (List.append_nil _).symm
  · rw [hm] at hquiet
    have hrun : (g'.emit (.prov (.run p (g'.info p).scriptProvider argv))).runs =
        g'.runs ++ [argv] := by
      simp [Host.runs, Host.provCalls, HostCall.prov?, ProvCall.runArgv?]
    exact hrun.trans (congrArg (· ++ [argv]) (hquiet.trans hloaded))

/-! ## A function that is as documented -/

theorem isWideBlank_widen (c : CHAR) : isWideBlank (widen c) = isBlank c := by
  have hc : ∀ n : ℕ, n < 256 → (widen c = n.toUInt16 ↔ c = n.toUInt8) := by
    intro n hn
    rw [← UInt8.toNat_inj, ← UInt16.toNat_inj, widen]
    simp
    omega
  simp only [isWideBlank, isBlank]
  have h32 : (widen c = 32) ↔ c = 32 := hc 32 (by decide)
  have h9 : (widen c = 9) ↔ c = 9 := hc 9 (by decide)
  simp only [h32, h9]

/-- A path with a blank in it. -/
def exePath : List WCHAR := wide "C:\\Program Files\\cdb.exe"

/-- The argument vector of a text without quotation marks. -/
def splitArgv (s : List WCHAR) : Except Win32Error (List (List WCHAR)) :=
  .ok (if s = [] then [exePath]
    else if s.head?.any isWideBlank then [] :: words isWideBlank s
    else words isWideBlank s)

def widenText (s : List CHAR) : Option (List WCHAR) := some (s.map widen)

theorem documented_split : Documented widenText splitArgv := by
  constructor
  · intro s _ w hw
    exact (Option.some.inj hw).symm
  · rintro s argv ⟨c, hc, hblank⟩ hargv
    unfold splitArgv at hargv
    rw [Option.mem_def] at hc
    have hne : s ≠ [] := by
      rintro rfl
      cases hc
    rw [if_neg hne, hc, Option.any_some, if_pos hblank, Except.ok.injEq] at hargv
    rw [← hargv, List.head?_cons]
  · intro argv hargv
    unfold splitArgv at hargv
    rw [if_pos rfl, Except.ok.injEq] at hargv
    exact ⟨exePath, by decide, hargv.symm⟩

/-- The words of a text, in their wide form. -/
def wideWords (s : List CHAR) : List (List WCHAR) := (words isBlank s).map (List.map widen)

theorem textArgv_split (text : List CHAR) :
    textArgv widenText splitArgv text =
      some (if text = [] then [exePath]
        else if text.head?.any isBlank then [] :: wideWords text else wideWords text) := by
  have hwords : words isWideBlank (text.map widen) = wideWords text :=
    Words.words_map isBlank isWideBlank_widen text
  have hhead : (text.map widen).head?.any isWideBlank = text.head?.any isBlank := by
    cases text with
    | nil => rfl
    | cons c text => exact isWideBlank_widen c
  show some _ = some _
  simp only [hwords, hhead, List.map_eq_nil_iff]

/-- A word is neither empty nor the path of the executable. -/
theorem mem_wideWords {s : List CHAR} {w : List WCHAR} (hw : w ∈ wideWords s) :
    w ≠ [] ∧ w ≠ exePath := by
  obtain ⟨v, hv, rfl⟩ := List.mem_map.mp hw
  obtain ⟨hne, hall⟩ := Words.mem_words isBlank hv
  refine ⟨by simpa using hne, fun heq => ?_⟩
  have hmem : (32 : WCHAR) ∈ v.map widen := by
    rw [heq]
    decide
  obtain ⟨c, hc, h32⟩ := List.mem_map.mp hmem
  have hblank := isWideBlank_widen c
  rw [h32, hall c hc] at hblank
  exact absurd hblank (by decide)

/-! ## The law -/

variable {s : List CHAR}

theorem all_isBlank_iff (rest : List CHAR) :
    rest.all isBlank = true ↔ words isBlank rest = [] := by
  rw [Words.words_eq_nil_iff, List.dropWhile_eq_nil_iff, List.all_eq_true]

/-- With one blank, the remaining arguments are the rest without its leading blanks. -/
theorem leftover_oneBlank (h0 : a.consumed ≠ 0) (hone : OneBlank s a) :
    leftover s a = (hostRest s a).dropWhile isBlank ∧ (hostRest s a).all isBlank = false := by
  obtain ⟨⟨c, hc, hblank⟩, hsw⟩ := hone
  rw [Option.mem_def] at hc
  obtain ⟨t, ht⟩ : ∃ t, (hostRest s a).tail = c :: t := by
    cases htail : (hostRest s a).tail with
    | nil =>
      rw [htail] at hc
      cases hc
    | cons d t =>
      rw [htail, List.head?_cons, Option.some.injEq] at hc
      exact ⟨t, by rw [hc]⟩
  have hdrop : (hostRest s a).dropWhile isBlank = c :: t := by
    rw [(trims_hostRest_tail h0).dropWhile_eq, ht, List.dropWhile_cons_of_neg (by simp [hblank])]
  refine ⟨by rw [leftover_of_not_swallows hsw h0, ht, hdrop], ?_⟩
  rw [← Bool.not_eq_true, all_isBlank_iff, Words.words_eq_nil_iff, hdrop]
  exact List.cons_ne_nil _ _

/-- Without it, the words of the rest are not the vector of the remaining arguments. -/
theorem split_leftover_ne (h0 : a.consumed ≠ 0) (hone : ¬ OneBlank s a)
    (hword : words isBlank (hostRest s a) ≠ []) :
    textArgv widenText splitArgv (leftover s a) ≠ some (wideWords (hostRest s a)) := by
  set rest := hostRest s a with hrest
  have hfirst : ∀ w ws, wideWords rest = w :: ws → w ≠ [] ∧ w ≠ exePath := fun w ws heq =>
    mem_wideWords (s := rest) (by rw [heq]; exact List.mem_cons_self)
  rw [textArgv_split, Ne, Option.some.injEq]
  intro heq
  split_ifs at heq with hnil hhead
  · exact (hfirst _ _ heq.symm).2 rfl
  · exact (hfirst _ _ heq.symm).1 rfl
  · by_cases hsw : SwallowsIn s a
    · -- one word fewer
      have hwords : words isBlank (leftover s a) = (words isBlank rest).tail := by
        rw [leftover, if_pos hsw, ← (trims_afterWord_tail _).words_eq, Words.words_afterWord]
      have hlen := congrArg List.length heq
      have hpos := List.length_pos_iff.mpr hword
      rw [wideWords, wideWords, hwords, List.length_map, List.length_map, List.length_tail] at hlen
      omega
    · -- a blank, or nothing, behind the one that was eaten
      rw [leftover_of_not_swallows hsw h0, ← hrest] at hnil hhead
      refine hone ⟨?_, hsw⟩
      rw [← hrest]
      cases htail : rest.tail with
      | nil => exact absurd htail hnil
      | cons c t =>
        rw [htail, List.head?_cons, Option.any_some, Bool.not_eq_true] at hhead
        exact ⟨c, rfl, hhead⟩

/-- The rest as the documentation reads it, for texts without quotation marks. -/
theorem documentedArgv_split (rest : List CHAR) :
    documentedArgv widenText splitArgv rest =
      if rest.all isBlank then none else some (wideWords rest) := by
  unfold documentedArgv
  split_ifs with hall
  · rfl
  · rw [Bool.not_eq_true] at hall
    rw [textArgv_split]
    cases hdrop : rest.dropWhile isBlank with
    | nil =>
      rw [← Words.words_eq_nil_iff, ← all_isBlank_iff, hall] at hdrop
      cases hdrop
    | cons c t =>
      have hc : isBlank c = false := Words.sep_of_dropWhile_cons isBlank hdrop
      rw [if_neg (List.cons_ne_nil _ _), List.head?_cons, Option.any_some, hc,
        if_neg Bool.false_ne_true, ← hdrop, wideWords, Words.words_dropWhile, wideWords]

/-- **Script argument vectors.** For an argument string with at least one host switch or
    `--`, whatever `CommandLineToArgvW` and the conversion do beyond their documentation:
    `Run` is called with the argument vector of the rest without its leading blanks, or
    not at all if there is nothing else, iff exactly one blank and a word that is not
    swallowed follow the host part. -/
theorem script_args_iff (hready : Ready e client args h a) (h0 : a.consumed ≠ 0) :
    (∀ convert toArgv, Documented convert toArgv →
        (runscript (e.withArgv convert toArgv) client args h).1.runs =
          h.runs ++ (documentedArgv convert toArgv (hostRest args.chars a)).toList) ↔
      OneBlank args.chars a := by
  have hruns : ∀ convert toArgv,
      (runscript (e.withArgv convert toArgv) client args h).1.runs =
        h.runs ++ (textArgv convert toArgv (leftover args.chars a)).toList := by
    intro convert toArgv
    exact runs_runscript (e := e.withArgv convert toArgv)
      ⟨⟨hready.acquired, hready.nonempty, hready.accepted⟩, hready.loads⟩
  constructor
  · intro hall
    have hsplit := hall widenText splitArgv documented_split
    rw [hruns, List.append_cancel_left_eq, documentedArgv_split] at hsplit
    by_contra hone
    split_ifs at hsplit with hblank
    · rw [textArgv_split] at hsplit
      cases hsplit
    · rw [all_isBlank_iff] at hblank
      rw [textArgv_split, Option.toList_some, Option.toList_some, List.singleton_inj] at hsplit
      refine split_leftover_ne h0 hone hblank ?_
      rw [textArgv_split, hsplit]
  · intro hone convert toArgv _
    obtain ⟨hleft, hword⟩ := leftover_oneBlank h0 hone
    rw [hruns, documentedArgv, hword, if_neg Bool.false_ne_true, hleft]

/-- `-l a f`: one blank. -/
theorem script_args_one_blank :
    let h := Host.oneProvider
    let args : AnsiStr := ⟨[45, 108, 32, 97, 32, 102], by decide⟩
    let a : HostArgs := ⟨false, some [97], 2, false⟩
    ∀ convert toArgv, Documented convert toArgv →
      (runscript (CommandEnv.succeeding.withArgv convert toArgv) 0 args h).1.runs =
        h.runs ++ (documentedArgv convert toArgv (hostRest args.chars a)).toList := by
  intro h args a
  have hs : Selecting CommandEnv.succeeding 0 args h a :=
    ⟨by decide +kernel, by decide, by decide⟩
  obtain ⟨parsed, hsel⟩ := (select_ok_iff hs runscriptRequires 1).mpr (by decide +kernel)
  have hloads : FAILED (loadScriptProviderIfNeeded CommandEnv.succeeding.load 1
      (selectScript runscriptRequires CommandEnv.succeeding 0 args h).1).2 = false := by
    decide +kernel
  refine (script_args_iff ⟨hs, _, parsed, 1, Prod.ext rfl hsel, hloads⟩ (by decide)).mpr ?_
  exact ⟨⟨102, by decide, by decide⟩, by decide⟩

/-- `-l a  f`: with two blanks, the script gets an empty first argument. -/
theorem script_args_two_blanks :
    let h := Host.oneProvider
    let args : AnsiStr := ⟨[45, 108, 32, 97, 32, 32, 102], by decide⟩
    let a : HostArgs := ⟨false, some [97], 2, false⟩
    Documented widenText splitArgv ∧ hostPart (words isBlank args.chars) = some a ∧
      h.runs ++ (documentedArgv widenText splitArgv (hostRest args.chars a)).toList =
        [[[102]]] ∧
      (runscript (CommandEnv.succeeding.withArgv widenText splitArgv) 0 args h).1.runs =
        [[[], [102]]] := by
  intro h args a
  exact ⟨documented_split, by decide, by decide +kernel, by decide +kernel⟩

end DbgScript
