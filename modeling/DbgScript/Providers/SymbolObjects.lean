import DbgScript.Lua.Objects
import DbgScript.Providers.IntegerValues
import DbgScript.Python.Functions
import DbgScript.Ruby.Objects
import DbgScript.Support.QueryResults

/-!
# The objects of a frame's variables

The loop of `UtilEnumStackFrameVariables` with the callbacks of the three providers
(`buildArrayFromLocals`, `buildTupleFromLocals`). The Lua and Ruby callbacks report errors
by jumping to the script, past the end of the loop; the Python callback returns a code.

* `objectOf_cases`: when an object can be made, and with how many questions.
* `enumSymbols_throws`: a loop whose callback jumps returns iff every object can be made.
* `enumSymbols_flagged`: a loop whose callback returns also returns.
-/

namespace DbgScript

open CharBuf (FixedStr)
open Python (PyAnswers PyCall)

/-! ## Specification -/

/-- The debugger has told the entry and the name of the `i`-th symbol, when it is asked with
    the `m`-th question. A variable that has been optimised away has a zero entry. -/
structure Symbol (a : DebuggerAnswers) (m i : ℕ) (entry : DebugSymbolEntry)
    (name : FixedStr CHAR MAX_SYMBOL_NAME_LEN) : Prop where
  entry : (a m (.getSymbolEntryInformation i)).1 = E_NOINTERFACE ∧ entry = .zero ∨
    FAILED (a m (.getSymbolEntryInformation i)).1 = false ∧
      entry = (a m (.getSymbolEntryInformation i)).2
  name : FAILED (a (m + 1) (.getSymbolName i)).1 = false ∧
    name = (a (m + 1) (.getSymbolName i)).2

/-- The object of a variable, on the memory `base`. -/
def objectOf (base : DbgScriptTypedObject) (entry : DebugSymbolEntry)
    (name : FixedStr CHAR MAX_SYMBOL_NAME_LEN) : DsM (DbgScriptTypedObject × HRESULT) :=
  dsInitializeTypedObject entry.size (some name.toCStr) entry.typeId entry.moduleBase entry.offset
    false base

/-- Among the questions `qs`, of which the first is the `n`-th, are those about the `i`-th
    symbol and then those of making `obj` from the answers. -/
def BuiltFrom (a : DebuggerAnswers) (n : ℕ) (qs : List (Request ⊕ PyCall))
    (base : DbgScriptTypedObject) (i : ℕ) (obj : DbgScriptTypedObject) : Prop :=
  ∃ entry name pre mid post hr asked, Symbol a (n + pre.length) i entry name ∧
    (objectOf base entry name).run a (n + pre.length + 2 + mid.length) = ((obj, hr), asked) ∧
    FAILED hr = false ∧
    qs = pre ++ .inl (.getSymbolEntryInformation i) :: .inl (.getSymbolName i) ::
      (mid ++ asked.map .inl ++ post)

/-- The memory the object of the `i`-th variable is made on. -/
def Language.base (l : Language) (mem : ℕ → DbgScriptTypedObject) (i : ℕ) : DbgScriptTypedObject :=
  match l with
  | .lua => (mem i).unwritten
  | .python | .ruby => .zero

/-- Starting with the `m`-th question, an object of the type and at the offset of `entry` can
    be made. -/
def Initializes (a : DebuggerAnswers) (m : ℕ) (entry : DebugSymbolEntry) : Prop :=
  ¬ NamesFail a m ⟨entry.typeId, entry.moduleBase⟩ ∧ (entry.offset ≠ 0 →
    FAILED (a (m + if entry.moduleBase ≠ 0 then 2 else 0)
      (.setFromTypeId false entry.moduleBase entry.offset entry.typeId)).1 = false)

/-- The number of questions about an object that can be made. -/
def DebugSymbolEntry.questions (entry : DebugSymbolEntry) : ℕ :=
  (if entry.moduleBase ≠ 0 then 2 else 0) + if entry.offset ≠ 0 then 1 else 0

/-- The number of questions between those about a symbol and those about its object: Lua
    looks for an interrupt. -/
def Language.between : Language → ℕ
  | .lua => 1
  | .python | .ruby => 0

/-- The callback makes an object. -/
def Makes (l : Language) (a : DebuggerAnswers) (m : ℕ) (entry : DebugSymbolEntry) : Prop :=
  (l = .lua → a m .getInterrupt ≠ S_OK) ∧ Initializes a (m + l.between) entry

/-- Each of the `k` symbols from the `i`-th on that is reached gets an object. -/
def AllMade (l : Language) (a : DebuggerAnswers) : ℕ → ℕ → ℕ → Prop
  | 0, _, _ => True
  | k + 1, i, m => ∀ entry name, Symbol a m i entry name →
    Makes l a (m + 2) entry ∧ AllMade l a k (i + 1) (m + 2 + l.between + entry.questions)

/-! ## Symbols and objects -/

section Loop

variable {a : DebuggerAnswers}

/-- The questions that obtain or release a symbol group. -/
def Request.onSymbolGroup : Request → Bool
  | .countStackFrameVariables _ _ _ | .releaseSymbolGroup => true
  | _ => false

/-- The symbol is read, or the debugger's code is a failure. -/
theorem readSymbol_cases (m i : ℕ) :
    (∃ entry name, ((readSymbol i).run a m) =
        (.ok (entry, name), [.getSymbolEntryInformation i, .getSymbolName i]) ∧
        ∀ entry' name', Symbol a m i entry' name' ↔ entry' = entry ∧ name' = name) ∨
      ∃ hr, FAILED hr = true ∧ ((readSymbol i).run a m).1 = .error hr ∧
        ∀ entry name, ¬ Symbol a m i entry name := by
  generalize hinfo : a m (.getSymbolEntryInformation i) = info
  generalize hname : a (m + 1) (.getSymbolName i) = named
  obtain ⟨hr, entry⟩ := info
  obtain ⟨hr', name⟩ := named
  by_cases hfail : hr ≠ E_NOINTERFACE ∧ FAILED hr
  · refine .inr ⟨hr, hfail.2, ?_, ?_⟩
    · simp [readSymbol, hinfo, hfail, outputError]
    · rintro entry' name' ⟨hentry, -⟩
      simp [hinfo, hfail] at hentry
  by_cases hfail' : FAILED hr'
  · refine .inr ⟨hr', hfail', ?_, ?_⟩
    · simp [readSymbol, hinfo, hname, hfail, hfail', outputError]
    · rintro entry' name' ⟨-, hname'⟩
      simp [hname, hfail'] at hname'
  refine .inl ⟨if hr = E_NOINTERFACE then .zero else entry, name, ?_, ?_⟩
  · simp [readSymbol, hinfo, hname, hfail, hfail', outputError]
  · intro entry' name'
    constructor
    · rintro ⟨hentry, hname'⟩
      rw [hinfo] at hentry
      rw [hname] at hname'
      refine ⟨?_, hname'.2⟩
      obtain ⟨hno, rfl⟩ | ⟨hok, rfl⟩ := hentry
      · rw [if_pos hno]
      · rw [if_neg]
        rintro rfl
        simp at hok
    · rintro ⟨rfl, rfl⟩
      refine ⟨?_, by simp [hname, hfail']⟩
      by_cases hno : hr = E_NOINTERFACE
      · exact .inl ⟨by simp [hinfo, hno], by simp [hno]⟩
      · refine .inr ⟨?_, by simp [hno, hinfo]⟩
        simpa [hinfo, hno] using hfail

theorem asks_readSymbol (i : ℕ) : (readSymbol i).Asks fun r => r.onSymbolGroup = false := by
  simp only [readSymbol, ask, Dialogue.request, Dialogue.ask_bind, Dialogue.done_bind]
  refine ⟨rfl, fun info => ?_⟩
  dsimp only
  split
  · exact ⟨rfl, fun _ => trivial⟩
  · refine ⟨rfl, fun named => ?_⟩
    dsimp only
    split
    · exact ⟨rfl, fun _ => trivial⟩
    · trivial

/-- The names are found with one question each, or the code denotes failure. -/
theorem initializeNames_cases (name : Option AnsiStr) (info : ModuleAndTypeId)
    (typObj : DbgScriptTypedObject) (m : ℕ) :
    let r := (initializeNames name info.typeId info.moduleBase typObj).run a m
    (¬ NamesFail a m info ∧ FAILED r.1.2 = false ∧
        r.2.length = if info.moduleBase ≠ 0 then 2 else 0) ∨
      NamesFail a m info ∧ FAILED r.1.2 = true := by
  by_cases hfail : NamesFail a m info
  · exact .inr ⟨hfail, (failed_initializeNames name info typObj).2 hfail⟩
  · have hok := mt (failed_initializeNames name info typObj).1 hfail
    refine .inl ⟨hfail, by simpa using hok, ?_⟩
    rw [initializeNames]
    by_cases hbase : info.moduleBase ≠ 0
    · rw [if_pos hbase, if_pos hbase, fillTypeAndModuleName]
      rw [NamesFail, and_iff_right hbase, not_or] at hfail
      obtain ⟨typeName, htype⟩ := Option.ne_none_iff_exists'.1 hfail.1
      obtain ⟨modName, hmod⟩ := Option.ne_none_iff_exists'.1 hfail.2
      simp [htype, hmod]
    · rw [if_neg hbase, if_neg hbase]
      rfl

/-- The object is made with its questions, or the code denotes failure. -/
theorem objectOf_cases (base : DbgScriptTypedObject) (entry : DebugSymbolEntry)
    (name : FixedStr CHAR MAX_SYMBOL_NAME_LEN) (m : ℕ) :
    let r := (objectOf base entry name).run a m
    (Initializes a m entry ∧ FAILED r.1.2 = false ∧ r.2.length = entry.questions) ∨
      ¬ Initializes a m entry ∧ FAILED r.1.2 = true := by
  have hnames := initializeNames_cases (a := a) (some name.toCStr)
    ⟨entry.typeId, entry.moduleBase⟩ base m
  simp only [objectOf, dsInitializeTypedObject, Dialogue.run_bind]
  simp only [] at hnames
  generalize (initializeNames (some name.toCStr) entry.typeId entry.moduleBase base).run a m =
    names at hnames ⊢
  obtain ⟨⟨typObj, hr⟩, qs⟩ := names
  simp only at hnames ⊢
  obtain ⟨hok, hhr, hlen⟩ | ⟨hfail, hhr⟩ := hnames
  · rw [if_neg (by simp [hhr]), Initializes, DebugSymbolEntry.questions, ← hlen]
    by_cases haddr : entry.offset ≠ 0
    · rw [if_pos haddr, if_pos haddr]
      cases hset : FAILED (a (m + qs.length)
          (.setFromTypeId false entry.moduleBase entry.offset entry.typeId)).1 with
      | true => exact .inr ⟨fun h => Bool.noConfusion (h.2 haddr), by simp [hset, outputError]⟩
      | false => exact .inl ⟨⟨hok, fun _ => rfl⟩, by simp [hset], by simp [hset]⟩
    · rw [if_neg haddr, if_neg haddr]
      exact .inl ⟨⟨hok, fun h => absurd h haddr⟩, hhr, by simp⟩
  · rw [if_pos hhr]
    exact .inr ⟨fun h => h.1 hfail, hhr⟩

/-- The same, with the run taken apart. -/
theorem run_objectOf (a : DebuggerAnswers) (base : DbgScriptTypedObject) (entry : DebugSymbolEntry)
    (name : FixedStr CHAR MAX_SYMBOL_NAME_LEN) (m : ℕ) :
    ∃ obj hr asked, (objectOf base entry name).run a m = ((obj, hr), asked) ∧
      (Initializes a m entry ∧ FAILED hr = false ∧ asked.length = entry.questions ∨
        ¬ Initializes a m entry ∧ FAILED hr = true) :=
  ⟨_, _, _, rfl, objectOf_cases base entry name m⟩

theorem asks_objectOf (base : DbgScriptTypedObject) (entry : DebugSymbolEntry)
    (name : FixedStr CHAR MAX_SYMBOL_NAME_LEN) :
    (objectOf base entry name).Asks fun r => r.onSymbolGroup = false := by
  have hnames : ∀ name : Option AnsiStr, (initializeNames name entry.typeId entry.moduleBase
      base).Asks fun r => r.onSymbolGroup = false := by
    intro name
    rw [initializeNames]
    split
    · exact asks_fillTypeAndModuleName (fun _ => rfl) (fun _ => rfl) (fun _ _ => rfl) _ _ _
    · trivial
  refine Dialogue.asks_bind (hnames _) (Dialogue.leaves_true _) ?_
  rintro ⟨typObj, hr⟩ -
  simp only [ask, Dialogue.request, Dialogue.ask_bind, Dialogue.done_bind]
  split
  · trivial
  split
  · refine ⟨rfl, fun answer => ?_⟩
    dsimp only
    split
    · exact ⟨rfl, fun _ => trivial⟩
    · trivial
  · trivial

/-! ## The loop -/

variable {n : ℕ} {qs : List (Request ⊕ PyCall)} {base obj : DbgScriptTypedObject} {i : ℕ}

/-- Questions asked before and after make no difference. -/
theorem BuiltFrom.append (before after : List (Request ⊕ PyCall))
    (h : BuiltFrom a (n + before.length) qs base i obj) :
    BuiltFrom a n (before ++ qs ++ after) base i obj := by
  obtain ⟨entry, name, pre, mid, post, hr, asked, hsymbol, hobj, hok, rfl⟩ := h
  refine ⟨entry, name, before ++ pre, mid, post ++ after, hr, asked, ?_, ?_, hok, by simp⟩
  · rwa [List.length_append, ← Nat.add_assoc]
  · rwa [List.length_append, ← Nat.add_assoc]

/-- An object made first, and objects made of the symbols that follow. -/
theorem builtFrom_cons (bases : ℕ → DbgScriptTypedObject) (mid after : List (Request ⊕ PyCall))
    {entry : DebugSymbolEntry} {name : FixedStr CHAR MAX_SYMBOL_NAME_LEN} {hr : HRESULT}
    {asked : List Request} {m : ℕ} {new : List DbgScriptTypedObject}
    {rest : List (Request ⊕ PyCall)}
    (hsymbol : Symbol a m i entry name)
    (hobj : (objectOf (bases i) entry name).run a (m + 2 + mid.length) = ((obj, hr), asked))
    (hok : FAILED hr = false)
    (hrest : ∀ j obj', new[j]? = some obj' →
      BuiltFrom a (m + 2 + (mid ++ asked.map Sum.inl ++ after).length) rest (bases (i + 1 + j))
        (i + 1 + j) obj') (j : ℕ) (obj' : DbgScriptTypedObject)
    (hobj' : (obj :: new)[j]? = some obj') :
    BuiltFrom a m (.inl (.getSymbolEntryInformation i) :: .inl (.getSymbolName i) ::
      (mid ++ asked.map .inl ++ after ++ rest)) (bases (i + j)) (i + j) obj' := by
  cases j with
  | zero =>
    obtain rfl : obj = obj' := by simpa using hobj'
    exact ⟨entry, name, [], mid, after ++ rest, hr, asked, by simpa using hsymbol,
      by simpa using hobj, hok, by simp⟩
  | succ j =>
    have hlater := hrest j obj' (by simpa using hobj')
    have hshift : m + 2 + (mid ++ asked.map Sum.inl ++ after).length =
        m + (.inl (.getSymbolEntryInformation i) :: .inl (.getSymbolName i) ::
          (mid ++ asked.map .inl ++ after) : List (Request ⊕ PyCall)).length := by
      rw [List.length_cons, List.length_cons]
      omega
    rw [hshift, Nat.add_assoc i, Nat.add_comm 1] at hlater
    simpa using hlater.append _ []

/-- What a callback that jumps does when it is called for the next symbol: `inj` is what it
    has made of the earlier ones. -/
structure JumpingCallback {ε σ : Type} (l : Language) (a : DebuggerAnswers)
    (base : ℕ → DbgScriptTypedObject) (inj : List DbgScriptTypedObject → σ)
    (callback : σ → DebugSymbolEntry → FixedStr CHAR MAX_SYMBOL_NAME_LEN → ℕ →
      Throws Request.Answer ε (HRESULT × σ)) : Prop where
  asks : ∀ acc entry name i,
    (callback acc entry name i).attempt.Asks fun r => r.onSymbolGroup = false
  makes : ∀ objs entry name m, Makes l a m entry → ∃ obj hr mid asked,
    (callback (inj objs) entry name objs.length).attempt.run a m =
      (.ok (S_OK, inj (objs ++ [obj])), mid ++ asked) ∧ mid.length = l.between ∧
    (objectOf (base objs.length) entry name).run a (m + mid.length) = ((obj, hr), asked) ∧
    FAILED hr = false
  jumps : ∀ objs entry name m, ¬ Makes l a m entry →
    ∃ e, ((callback (inj objs) entry name objs.length).attempt.run a m).1 = .error e

variable {ε σ : Type} {l : Language} {bases : ℕ → DbgScriptTypedObject}
  {inj : List DbgScriptTypedObject → σ}
  {callback : σ → DebugSymbolEntry → FixedStr CHAR MAX_SYMBOL_NAME_LEN → ℕ →
    Throws Request.Answer ε (HRESULT × σ)}

theorem asks_enumSymbols (h : JumpingCallback l a bases inj callback) (k i : ℕ) (acc : σ) :
    (enumSymbols Throws.lift callback k i acc).attempt.Asks fun r => r.onSymbolGroup = false := by
  induction k generalizing i acc with
  | zero => trivial
  | succ k ih =>
    refine Throws.asks_bind (Throws.asks_lift (asks_readSymbol i)) ?_
    rintro (hr | ⟨entry, name⟩)
    · trivial
    · refine Throws.asks_bind (h.asks acc entry name i) ?_
      rintro ⟨hr, acc⟩
      dsimp only
      split
      · trivial
      · exact ih _ _

/-- The callback goes on from one symbol to the next. -/
theorem run_enumSymbols_next {k i m : ℕ} {acc acc' : σ} {entry : DebugSymbolEntry}
    {name : FixedStr CHAR MAX_SYMBOL_NAME_LEN} {asked asked' : List Request}
    (hread : (readSymbol i).run a m = (.ok (entry, name), asked))
    (hrun : (callback acc entry name i).attempt.run a (m + asked.length) =
      (.ok (S_OK, acc'), asked')) :
    (enumSymbols Throws.lift callback (k + 1) i acc).attempt.run a m =
      let rest := (enumSymbols Throws.lift callback k (i + 1) acc').attempt.run a
        (m + asked.length + asked'.length)
      (rest.1, asked ++ (asked' ++ rest.2)) := by
  simp [enumSymbols, hread, hrun]

theorem run_enumSymbols_jump {k i m : ℕ} {acc : σ} {entry : DebugSymbolEntry} {e : ε}
    {name : FixedStr CHAR MAX_SYMBOL_NAME_LEN} {asked : List Request}
    (hread : (readSymbol i).run a m = (.ok (entry, name), asked))
    (hrun : ((callback acc entry name i).attempt.run a (m + asked.length)).1 = .error e) :
    ((enumSymbols Throws.lift callback (k + 1) i acc).attempt.run a m).1 = .error e := by
  simp [enumSymbols, hread, hrun]

/-- The loop returns iff every object can be made; then it has made one for each symbol,
    unless its code is a failure. -/
theorem enumSymbols_throws (h : JumpingCallback l a bases inj callback) (k : ℕ)
    (objs : List DbgScriptTypedObject) (m : ℕ) :
    let r := (enumSymbols Throws.lift callback k objs.length (inj objs)).attempt.run a m
    (AllMade l a k objs.length m ∧ ∃ hr acc, r.1 = .ok (hr, acc) ∧ (FAILED hr = false →
      ∃ new, acc = inj (objs ++ new) ∧ new.length = k ∧ ∀ j obj, new[j]? = some obj →
        BuiltFrom a m (r.2.map .inl) (bases (objs.length + j)) (objs.length + j) obj)) ∨
      ¬ AllMade l a k objs.length m ∧ ∃ e, r.1 = .error e := by
  induction k generalizing objs m with
  | zero => exact .inl ⟨trivial, S_OK, inj objs, rfl, fun _ => ⟨[], by simp, rfl, by simp⟩⟩
  | succ k ih =>
    obtain ⟨entry, name, hread, hsymbol⟩ | ⟨hr, hfail, hread, hno⟩ :=
      readSymbol_cases (a := a) m objs.length
    · have hall : AllMade l a (k + 1) objs.length m ↔ Makes l a (m + 2) entry ∧
          AllMade l a k (objs.length + 1) (m + 2 + l.between + entry.questions) := by
        simp [AllMade, hsymbol]
      rw [hall]
      by_cases hmakes : Makes l a (m + 2) entry
      · obtain ⟨obj, hr, mid, asked, hrun, hmid, hobj, hok⟩ :=
          h.makes objs entry name (m + 2) hmakes
        have hlen : asked.length = entry.questions := by
          have hcases := objectOf_cases (a := a) (bases objs.length) entry name (m + 2 + mid.length)
          rw [hobj] at hcases
          obtain ⟨-, -, hlen⟩ | ⟨-, hfail⟩ := hcases
          · exact hlen
          · exact absurd hfail (by simp [hok])
        have hnext := ih (objs ++ [obj]) (m + 2 + (mid ++ asked).length)
        rw [List.length_append, hmid, hlen, ← Nat.add_assoc, List.length_append,
          List.length_singleton] at hnext
        have hstart : m + 2 + (mid ++ asked).length = m + 2 + l.between + entry.questions := by
          rw [List.length_append, hmid, hlen, ← Nat.add_assoc]
        have hrest := run_enumSymbols_next (k := k) hread hrun
        rw [List.length_cons, List.length_singleton, hstart] at hrest
        rw [hrest]
        generalize (enumSymbols Throws.lift callback k (objs.length + 1)
          (inj (objs ++ [obj]))).attempt.run a (m + 2 + l.between + entry.questions) = rest at hnext
        obtain ⟨hall', hr', acc, hacc, hnew⟩ | ⟨hnot, e, hacc⟩ := hnext
        · refine .inl ⟨⟨hmakes, hall'⟩, hr', acc, hacc, fun hok' => ?_⟩
          obtain ⟨new, rfl, hlen', hbuilt⟩ := hnew hok'
          refine ⟨obj :: new, by simp, by simp [hlen'], fun j obj' hobj' => ?_⟩
          have hfirst := builtFrom_cons bases (mid.map .inl) [] ((hsymbol entry name).2 ⟨rfl, rfl⟩)
            (by simpa using hobj) hok (by simpa [← hstart] using hbuilt) j obj' hobj'
          simpa using hfirst
        · exact .inr ⟨fun hc => hnot hc.2, e, hacc⟩
      · obtain ⟨e, herror⟩ := h.jumps objs entry name (m + 2) hmakes
        exact .inr ⟨fun hc => hmakes hc.1, e, run_enumSymbols_jump hread herror⟩
    · refine .inl ⟨fun entry name hs => absurd hs (hno entry name), hr, inj objs, ?_, ?_⟩
      · simp [enumSymbols, hread]
      · intro hok
        rw [hfail] at hok
        contradiction

theorem Lua.run_buildArrayFromLocals {mem : ℕ → DbgScriptTypedObject}
    {objs : List DbgScriptTypedObject} {entry : DebugSymbolEntry}
    {name : FixedStr CHAR MAX_SYMBOL_NAME_LEN} {m : ℕ} {hr : HRESULT} {asked : List Request}
    (hint : a m .getInterrupt ≠ S_OK)
    (hrun : (objectOf (Language.lua.base mem objs.length) entry name).run a (m + 1) =
      ((obj, hr), asked)) :
    (buildArrayFromLocals mem objs entry name objs.length).attempt.run a m =
      (if FAILED hr then .error (.error "DsInitializeTypedObject failed. Error 0x%08x." [.hr hr])
        else .ok (S_OK, objs ++ [obj]), .getInterrupt :: asked) := by
  rw [objectOf, Language.base] at hrun
  by_cases hf : FAILED hr = true
  · simp [buildArrayFromLocals, allocNewTypedObject, checkAbort, hint, hrun, hf, raise]
  · simp [buildArrayFromLocals, allocNewTypedObject, checkAbort, hint, hrun, hf]

/-- `buildArrayFromLocals` of the Lua provider. -/
theorem Lua.jumpingCallback (mem : ℕ → DbgScriptTypedObject) :
    JumpingCallback .lua a (Language.lua.base mem) id (buildArrayFromLocals mem) where
  asks acc entry name i := by
    refine Throws.asks_bind ?_ fun _ => trivial
    refine Throws.asks_bind (asks_checkAbort rfl) fun _ => ?_
    refine Throws.asks_bind (Throws.asks_lift (asks_objectOf _ entry name)) ?_
    rintro ⟨typObj, hr⟩
    dsimp only
    split <;> trivial
  makes objs entry name m h := by
    obtain ⟨obj, hr, asked, hobj, ⟨-, hok, -⟩ | ⟨hno, -⟩⟩ :=
      run_objectOf a (Language.lua.base mem objs.length) entry name (m + 1)
    · have hrun := run_buildArrayFromLocals (h.1 rfl) hobj
      rw [if_neg (by simp [hok])] at hrun
      exact ⟨obj, hr, [.getInterrupt], asked, hrun, rfl, hobj, hok⟩
    · exact absurd h.2 hno
  jumps objs entry name m h := by
    by_cases hint : a m .getInterrupt = S_OK
    · simp [buildArrayFromLocals, allocNewTypedObject, checkAbort, hint, raise]
    · obtain ⟨obj, hr, asked, hobj, ⟨hinit, -, -⟩ | ⟨-, hfail⟩⟩ :=
        run_objectOf a (Language.lua.base mem objs.length) entry name (m + 1)
      · exact absurd ⟨fun _ => hint, hinit⟩ h
      · have hrun := run_buildArrayFromLocals hint hobj
        rw [if_pos hfail] at hrun
        exact ⟨_, congrArg Prod.fst hrun⟩

theorem Ruby.run_buildArrayFromLocals {mem : ℕ → DbgScriptTypedObject}
    {objs : List DbgScriptTypedObject} {entry : DebugSymbolEntry}
    {name : FixedStr CHAR MAX_SYMBOL_NAME_LEN} {m : ℕ} {hr : HRESULT} {asked : List Request}
    (hrun : (objectOf (Language.ruby.base mem objs.length) entry name).run a m =
      ((obj, hr), asked)) :
    (buildArrayFromLocals (objs.map fun obj => some (.typedObject obj)) entry name
        objs.length).attempt.run a m =
      (if FAILED hr then .error (.raised .RuntimeError
          "DsInitializeTypedObject failed. Error 0x%08x." [.hr hr])
        else .ok (S_OK, (objs ++ [obj]).map fun obj => some (.typedObject obj)), asked) := by
  have hstore := rbAryStore_length (objs.map fun obj => some (.typedObject obj)) (.typedObject obj)
  rw [List.length_map] at hstore
  rw [objectOf, Language.base] at hrun
  by_cases hf : FAILED hr = true
  · simp [buildArrayFromLocals, allocTypedObject, hrun, hf, rbRaise]
  · simp [buildArrayFromLocals, allocTypedObject, hrun, hf, hstore]

/-- `buildArrayFromLocals` of the Ruby provider. -/
theorem Ruby.jumpingCallback (mem : ℕ → DbgScriptTypedObject) :
    JumpingCallback .ruby a (Language.ruby.base mem)
      (fun objs => objs.map fun obj => some (.typedObject obj)) buildArrayFromLocals where
  asks acc entry name i := by
    refine Throws.asks_bind ?_ fun _ => trivial
    refine Throws.asks_bind (Throws.asks_lift (asks_objectOf _ entry name)) ?_
    rintro ⟨typObj, hr⟩
    dsimp only
    split <;> trivial
  makes objs entry name m h := by
    obtain ⟨obj, hr, asked, hobj, ⟨-, hok, -⟩ | ⟨hno, -⟩⟩ :=
      run_objectOf a (Language.ruby.base mem objs.length) entry name m
    · have hrun := run_buildArrayFromLocals hobj
      rw [if_neg (by simp [hok])] at hrun
      exact ⟨obj, hr, [], asked, hrun, rfl, hobj, hok⟩
    · exact absurd h.2 hno
  jumps objs entry name m h := by
    obtain ⟨obj, hr, asked, hobj, ⟨hinit, -, -⟩ | ⟨-, hfail⟩⟩ :=
      run_objectOf a (Language.ruby.base mem objs.length) entry name m
    · exact absurd ⟨fun h => Language.noConfusion h, hinit⟩ h
    · have hrun := run_buildArrayFromLocals hobj
      rw [if_pos hfail] at hrun
      exact ⟨_, congrArg Prod.fst hrun⟩

end Loop

section Flagged

open Flagged (orNull)

variable {a : PyAnswers}

/-- The questions that obtain or release a symbol group. -/
def onSymbolGroup : Request ⊕ PyCall → Bool := Sum.elim Request.onSymbolGroup fun _ => false

theorem asks_orNull {α : Type} {Q : Request ⊕ PyCall → Prop} {d : Python.PyM α}
    (h : ∀ flag, (d.attempt flag).Asks Q) (flag : Option Python.PyErr) :
    ((orNull d).attempt flag).Asks Q :=
  Dialogue.asks_bind (h flag) (Dialogue.leaves_true _) fun _ _ => trivial

namespace Python

theorem asks_buildTupleFromLocals (tuple : Tuple) (entry : DebugSymbolEntry)
    (name : FixedStr CHAR MAX_SYMBOL_NAME_LEN) (i : ℕ) (flag : Option PyErr) :
    ((buildTupleFromLocals tuple entry name i).attempt flag).Asks
      fun q => onSymbolGroup q = false := by
  refine Flagged.asks_bind (asks_orNull (fun flag => ?_) flag) fun item flag => ?_
  · refine Flagged.asks_bind ?_ fun _ flag => ?_
    · rw [attempt_newObject]
      exact ⟨rfl, fun _ => trivial⟩
    · refine Flagged.asks_bind (asks_ds (asks_objectOf .zero entry name) flag) ?_
      rintro ⟨typObj, hr⟩ flag
      dsimp only
      split <;> trivial
  · cases item with
    | none => trivial
    | some item =>
      refine ⟨rfl, fun r => ?_⟩
      rcases r with _ | ⟨⟩ <;> trivial

/-- What is left of a tuple into which the answering `PyTuple_SetItem` puts an item. -/
def itemSet (tuple : Tuple) (item : PyObj) (flag : Option PyErr) :
    Except PyErr Unit → Option (HRESULT × Tuple) × Option PyErr
  | .ok () => (some (S_OK, tuple.map (· ++ [item])), flag)
  | .error e => (some (E_OUTOFMEMORY, tuple), some e)

theorem run_setItem (tuple : Tuple) (item : PyObj) (flag : Option PyErr) (m : ℕ) :
    ((setItem tuple (some item)).attempt flag).run a m =
      (itemSet tuple item flag (a m (.inr .tupleSetItem)), [.inr .tupleSetItem]) := by
  show (Dialogue.run a (m + 1) _ |>.1, _ :: (Dialogue.run a (m + 1) _).2) = _
  cases a m (.inr .tupleSetItem) with
  | error e => rfl
  | ok u => rfl

/-- `buildTupleFromLocals` fails, or makes an object and appends it to the tuple. -/
theorem run_buildTupleFromLocals (tuple : Tuple) (entry : DebugSymbolEntry)
    (name : FixedStr CHAR MAX_SYMBOL_NAME_LEN) (i : ℕ) (flag : Option PyErr) (m : ℕ) :
    let r := ((buildTupleFromLocals tuple entry name i).attempt flag).run a m
    (∃ hr tuple' flag', r.1 = (some (hr, tuple'), flag') ∧ FAILED hr = true) ∨
      ∃ obj hr asked, r = ((some (S_OK, tuple.map (· ++ [.typedObject obj])), flag),
          .inr .newObject :: (asked.map .inl ++ [.inr .tupleSetItem])) ∧
        (objectOf .zero entry name).run (Dialogue.left a) (m + 1) = ((obj, hr), asked) ∧
        FAILED hr = false := by
  obtain ⟨obj, hr, asked, hobj, -⟩ := run_objectOf (Dialogue.left a) .zero entry name (m + 1)
  have hrun := hobj
  rw [objectOf] at hrun
  cases hnew : a m (.inr .newObject) with
  | error e =>
    have hmade : ((newObject (.typedObject .zero)).attempt flag).run a m =
        ((none, some e), [.inr .newObject]) := by
      rw [attempt_newObject, Dialogue.run_ask, hnew]
      rfl
    refine .inl ⟨E_OUTOFMEMORY, tuple, some e, ?_, rfl⟩
    simp [buildTupleFromLocals, allocTypedObject, hmade, setItem]
  | ok u =>
    have hmade : ((newObject (.typedObject .zero)).attempt flag).run a m =
        ((some (.typedObject .zero), flag), [.inr .newObject]) := by
      rw [attempt_newObject, Dialogue.run_ask, hnew]
      rfl
    by_cases hfail : FAILED hr = true
    · refine .inl ⟨E_OUTOFMEMORY, tuple,
        some ⟨.RuntimeError, "DsInitializeTypedObject failed. Error 0x%08x.", [.hr hr]⟩, ?_, rfl⟩
      simp [buildTupleFromLocals, allocTypedObject, hmade, setItem, ds, hrun, hfail, raise]
    · cases hset : a (m + (asked.length + 1)) (.inr .tupleSetItem) with
      | error e =>
        have hitem : itemSet tuple (.typedObject obj) flag
            (a (m + (asked.length + 1)) (.inr .tupleSetItem)) =
              (some (E_OUTOFMEMORY, tuple), some e) := by rw [hset]; rfl
        refine .inl ⟨E_OUTOFMEMORY, tuple, some e, ?_, rfl⟩
        simp [buildTupleFromLocals, allocTypedObject, hmade, run_setItem, ds, hrun, hfail, hitem]
      | ok u =>
        have hitem : itemSet tuple (.typedObject obj) flag
            (a (m + (asked.length + 1)) (.inr .tupleSetItem)) =
              (some (S_OK, tuple.map (· ++ [.typedObject obj])), flag) := by rw [hset]; rfl
        refine .inr ⟨obj, hr, asked, ?_, hobj, by simpa using hfail⟩
        simp [buildTupleFromLocals, allocTypedObject, hmade, run_setItem, ds, hrun, hfail, hitem]

theorem asks_enumSymbols (k i : ℕ) (tuple : Tuple) (flag : Option PyErr) :
    ((enumSymbols ds buildTupleFromLocals k i tuple).attempt flag).Asks
      fun q => onSymbolGroup q = false := by
  induction k generalizing i tuple flag with
  | zero => trivial
  | succ k ih =>
    refine Flagged.asks_bind (asks_ds (asks_readSymbol i) flag) ?_
    rintro (hr | ⟨entry, name⟩) flag
    · trivial
    · refine Flagged.asks_bind (asks_buildTupleFromLocals tuple entry name i flag) ?_
      rintro ⟨hr, tuple⟩ flag
      dsimp only
      split
      · trivial
      · exact ih _ _ _

theorem run_enumSymbols_next {k i m : ℕ} {tuple tuple' : Tuple} {entry : DebugSymbolEntry}
    {name : FixedStr CHAR MAX_SYMBOL_NAME_LEN} {flag flag' : Option PyErr} {asked : List Request}
    {asked' : List (Request ⊕ PyCall)}
    (hread : (readSymbol i).run (Dialogue.left a) m = (.ok (entry, name), asked))
    (hrun : ((buildTupleFromLocals tuple entry name i).attempt flag).run a (m + asked.length) =
      ((some (S_OK, tuple'), flag'), asked')) :
    ((enumSymbols ds buildTupleFromLocals (k + 1) i tuple).attempt flag).run a m =
      let rest := ((enumSymbols ds buildTupleFromLocals k (i + 1) tuple').attempt flag').run a
        (m + asked.length + asked'.length)
      (rest.1, asked.map .inl ++ (asked' ++ rest.2)) := by
  simp [enumSymbols, ds, hread, hrun]

/-- The loop returns. Unless its code is a failure, it has made an object for each symbol. -/
theorem enumSymbols_flagged (k i : ℕ) (tuple : Tuple) (flag : Option PyErr) (m : ℕ) :
    let r := ((enumSymbols ds buildTupleFromLocals k i tuple).attempt flag).run a m
    ∃ hr tuple' flag', r.1 = (some (hr, tuple'), flag') ∧ (FAILED hr = false →
      ∃ new : List DbgScriptTypedObject, tuple' = tuple.map (· ++ new.map .typedObject) ∧
        new.length = k ∧
        ∀ j obj, new[j]? = some obj →
          BuiltFrom (Dialogue.left a) m r.2 .zero (i + j) obj) := by
  induction k generalizing i tuple flag m with
  | zero => exact ⟨S_OK, tuple, flag, rfl, fun _ => ⟨[], by simp, rfl, by simp⟩⟩
  | succ k ih =>
    obtain ⟨entry, name, hread, hsymbol⟩ | ⟨hr, hfail, hread, -⟩ :=
      readSymbol_cases (a := Dialogue.left a) m i
    · have hcases := run_buildTupleFromLocals (a := a) tuple entry name i flag (m + 2)
      obtain ⟨hr, tuple', flag', hrun, hfail⟩ | ⟨obj, hr, asked, hrun, hobj, hok⟩ := hcases
      · refine ⟨hr, tuple', flag', ?_, fun hok => ?_⟩
        · simp [enumSymbols, ds, hread, hrun, hfail]
        · rw [hfail] at hok
          contradiction
      · have hrest := run_enumSymbols_next (k := k) hread hrun
        rw [List.length_cons, List.length_singleton] at hrest
        rw [hrest]
        obtain ⟨hr', tuple', flag', hrun', hnew⟩ := ih (i + 1)
          (tuple.map (· ++ [.typedObject obj])) flag (m + 2 + (Sum.inr PyCall.newObject ::
            (asked.map .inl ++ [Sum.inr PyCall.tupleSetItem]) : List (Request ⊕ PyCall)).length)
        refine ⟨hr', tuple', flag', hrun', fun hok' => ?_⟩
        obtain ⟨new, rfl, hlen, hbuilt⟩ := hnew hok'
        refine ⟨obj :: new, by cases tuple <;> simp, by simp [hlen], fun j obj' hobj' => ?_⟩
        have hfirst := builtFrom_cons (fun _ => .zero) [.inr .newObject] [.inr .tupleSetItem]
          ((hsymbol entry name).2 ⟨rfl, rfl⟩) hobj hok hbuilt j obj' hobj'
        simpa using hfirst
    · refine ⟨hr, tuple, flag, ?_, fun hok => ?_⟩
      · simp [enumSymbols, ds, hread]
      · rw [hfail] at hok
        contradiction

end Python

end Flagged

end DbgScript
