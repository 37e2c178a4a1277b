import DbgScript.Host.Commands

/-!
# Selecting a script provider

`runscript` and `evalstring` pass `parsedArgs.LangId` to `findScriptProvider`. It is an
array, so that `findScriptProvider` always looks for a language id: for the empty one
where there is no `-l`, and for the first 63 characters of a longer one.

* `select_parsed`: what is selected, for every argument string that is accepted.
* `selects_iff`: that is the default provider, or the first one with the given language
  id, iff the default provider is registered under the empty id and no provider under
  the part of a longer id that fits.
-/

namespace DbgScript

open Words (words)

/-! ## Specification -/

/-- A script command gets as far as selecting a provider: it has its interfaces, and
    `ParseArgs` accepts its arguments, which are not empty. `a` is their host part. -/
structure Selecting (e : CommandEnv) (client : ClientId) (args : AnsiStr) (h : Host)
    (a : HostArgs) : Prop where
  acquired : FAILED (reAcquireIfacesIfNeeded e.qi client h).2 = false
  nonempty : args.chars ≠ []
  accepted : hostPart (words isBlank args.chars) = some a

/-- The first provider that is registered under `langId`. -/
def registered (h : Host) (langId : List WCHAR) : Option ProviderPtr :=
  h.ctx.scriptProviders.find? fun p => (h.info p).langId.chars = langId

/-- The documented selection: the default provider, or the one given by `-l`. -/
def documentedProvider (h : Host) (a : HostArgs) : Option ProviderPtr :=
  match a.lang with
  | none => h.ctx.scriptProviders.head?
  | some id => registered h (id.map widen)

/-- The documented provider is selected; if there is none, then the selection and the
    command fail, without a call that concerns a provider. -/
def Selects (command : ScriptCommand) (e : CommandEnv) (client : ClientId) (args : AnsiStr)
    (h : Host) (a : HostArgs) : Prop :=
  match documentedProvider h a with
  | some p => ∃ parsed, (selectScript command.requires e client args h).2 = .ok (parsed, p)
  | none => ∃ hr, (selectScript command.requires e client args h).2 = .error hr ∧
      FAILED hr = true ∧ ((Command.script command).start e client args h).2 = .inr hr ∧
      ((Command.script command).start e client args h).1.provCalls = h.provCalls

/-- Without `-l`, the default provider is registered under the empty id; and with an id
    of more than 63 characters, no provider under the first 63 of them. -/
def Selectable (h : Host) (a : HostArgs) : Prop :=
  match a.lang with
  | none => ∀ p ∈ h.ctx.scriptProviders.head?, (h.info p).langId.chars = []
  | some id => 63 < id.length →
      ∀ p ∈ h.ctx.scriptProviders, (h.info p).langId.chars ≠ (id.take 63).map widen

/-! ## What is selected -/

/-- The text of `parsedArgs.LangId`. -/
def langText (a : HostArgs) : List WCHAR := ((a.lang.getD []).take 63).map widen

variable {e : CommandEnv} {client : ClientId} {args : AnsiStr} {h : Host} {a : HostArgs}

theorem find_eq (langId : List WCHAR) (h : Host) :
    findScriptProvider (some langId) h =
      match registered h langId with
      | some p => (h, S_OK, p)
      | none =>
        (h.output DEBUG_OUTPUT_ERROR "Error: No script provider with lang ID '%ls' found.\n"
          [.wstr langId], E_INVALIDARG, h.ctx.scriptProviders.headD 0) := by
  unfold findScriptProvider
  rfl

/-- What is selected, and the parsed arguments that go with it. -/
theorem select_parsed (hs : Selecting e client args h a) (requires : String) :
    ∃ g parsed, SameProviders h g ∧ parsed.timeRun = a.timeRun ∧
      parsed.remainingArgs = leftover args.chars a ∧
      selectScript requires e client args h =
        match registered h (langText a) with
        | some p => (g, .ok (parsed, p))
        | none =>
          (g.output DEBUG_OUTPUT_ERROR "Error: No script provider with lang ID '%ls' found.\n"
            [.wstr (langText a)], .error E_INVALIDARG) := by
  have hsame := (onlyCom_reAcquire e.qi client h).providers
  have hok := hs.acquired
  unfold selectScript
  generalize reAcquireIfacesIfNeeded e.qi client h = r at hsame hok ⊢
  have hspec := parseArgs_spec args r.1
  unfold LoopResult at hspec
  rw [hs.accepted] at hspec
  dsimp only
  generalize parseArgs args r.1 = q at hspec ⊢
  obtain ⟨hhost, hhr, htime, hlang, hrest⟩ := hspec
  have hlang' : q.2.2.langId.str = langText a := by
    rw [hlang, langText]
    cases a.lang with
    | none => exact CharBuf.str_zero _
    | some v => exact List.map_take.symm
  have hreg : registered r.1 (langText a) = registered h (langText a) := by
    unfold registered
    rw [hsame.scriptProviders, hsame.info]
  refine ⟨r.1, q.2.2, hsame, htime, hrest, ?_⟩
  rw [if_neg (by simp [hok]), if_neg hs.nonempty, hhr, if_neg (by simp), hhost, hlang', find_eq,
    hreg]
  cases registered h (langText a) with
  | none => simp
  | some p => simp

/-- A provider is found iff it is the first one registered under the text. -/
theorem select_ok_iff (hs : Selecting e client args h a) (requires : String) (p : ProviderPtr) :
    (∃ parsed, (selectScript requires e client args h).2 = .ok (parsed, p)) ↔
      registered h (langText a) = some p := by
  obtain ⟨g, parsed, -, -, -, heq⟩ := select_parsed hs requires
  rw [heq]
  cases registered h (langText a) with
  | none => simp
  | some q => simp

/-- A command that selects no provider fails without a provider call. -/
theorem not_selected {command : ScriptCommand} {g : Host} {hr : HRESULT}
    (hsel : selectScript command.requires e client args h = (g, .error hr)) :
    ((Command.script command).start e client args h).2 = .inr hr ∧
      ((Command.script command).start e client args h).1.provCalls = g.provCalls := by
  rw [Command.start, start_of_error command e client args h hsel]
  have hquiet := (quiet_exit command h.ctx.startVMEnabled none hr g).sameProviders.provCalls
  rw [exitProviders_none] at hquiet
  exact ⟨rfl, hquiet⟩

/-- The documented selection is kept iff the text finds the documented provider. -/
theorem selects_iff_registered (command : ScriptCommand) (hs : Selecting e client args h a) :
    Selects command e client args h a ↔
      registered h (langText a) = documentedProvider h a := by
  unfold Selects
  cases hdoc : documentedProvider h a with
  | some p => exact select_ok_iff hs _ p
  | none =>
    obtain ⟨g, parsed, hsame, -, -, heq⟩ := select_parsed hs command.requires
    cases hreg : registered h (langText a) with
    | some p =>
      rw [hreg] at heq
      rw [heq]
      simp
    | none =>
      rw [hreg] at heq
      obtain ⟨hstart, hcalls⟩ := not_selected heq
      refine iff_of_true ⟨E_INVALIDARG, congrArg Prod.snd heq, failed_E_INVALIDARG, hstart, ?_⟩ rfl
      rw [hcalls, (quiet_output g _ _ _).sameProviders.provCalls, hsame.provCalls]

/-! ## The law -/

theorem registered_eq_none_iff {langId : List WCHAR} :
    registered h langId = none ↔
      ∀ p ∈ h.ctx.scriptProviders, (h.info p).langId.chars ≠ langId := by
  simp [registered]

/-- A language id in an array has at most 63 characters. -/
theorem registered_long {langId : List WCHAR} (hlen : 63 < langId.length) :
    registered h langId = none := by
  rw [registered_eq_none_iff]
  intro p _ heq
  have hfits : (h.info p).langId.chars.length < 64 := (h.info p).langId.fits
  rw [heq] at hfits
  omega

/-- The default provider is the first one of an id iff it is registered under the id. -/
theorem registered_eq_head_iff {langId : List WCHAR} (hne : h.ctx.scriptProviders ≠ []) :
    registered h langId = h.ctx.scriptProviders.head? ↔
      ∀ p ∈ h.ctx.scriptProviders.head?, (h.info p).langId.chars = langId := by
  unfold registered
  cases hlist : h.ctx.scriptProviders with
  | nil => exact absurd hlist hne
  | cons q qs =>
    rw [List.head?_cons]
    constructor
    · intro hfind p hp
      rw [Option.mem_some_iff] at hp
      subst hp
      simpa using List.find?_some hfind
    · intro hall
      exact List.find?_cons_of_pos (by simpa using hall q rfl)

/-- **Provider selection.** The documented provider is selected, and none where there is
    none, iff without `-l` the default provider is registered under the empty language
    id, and no provider is registered under the first 63 characters of a longer id. -/
theorem selects_iff (command : ScriptCommand) (hs : Selecting e client args h a)
    (hne : h.ctx.scriptProviders ≠ []) :
    Selects command e client args h a ↔ Selectable h a := by
  rw [selects_iff_registered command hs]
  unfold documentedProvider Selectable langText
  cases a.lang with
  | none => exact registered_eq_head_iff hne
  | some id =>
    show registered h ((id.take 63).map widen) = registered h (id.map widen) ↔ _
    by_cases hlen : 63 < id.length
    · have hlong : registered h (id.map widen) = none := registered_long (by simpa using hlen)
      rw [hlong, registered_eq_none_iff]
      exact ⟨fun h _ => h, fun h => h hlen⟩
    · rw [List.take_of_length_le (by omega)]
      exact iff_of_true rfl fun h => absurd h hlen

/-- `-l a f`, with a provider for `a`. -/
theorem selects_given_language :
    let h := Host.oneProvider
    Selects .runscript CommandEnv.succeeding 0 ⟨[45, 108, 32, 97, 32, 102], by decide⟩ h
      ⟨false, some [97], 2, false⟩ := by
  refine (selects_iff .runscript ⟨by decide +kernel, by decide, by decide⟩ ?_).mpr ?_
  · decide +kernel
  intro hlen
  exact absurd hlen (by decide)

/-- `-t f`, with a provider for `a`: the default provider is not selected. -/
theorem default_not_selected :
    let h := Host.oneProvider
    let args : AnsiStr := ⟨[45, 116, 32, 102], by decide⟩
    Selecting CommandEnv.succeeding 0 args h ⟨true, none, 1, false⟩ ∧
      documentedProvider h ⟨true, none, 1, false⟩ = some 1 ∧
      ¬ Selects .runscript CommandEnv.succeeding 0 args h ⟨true, none, 1, false⟩ := by
  intro h args
  have hdoc : documentedProvider h ⟨true, none, 1, false⟩ = some 1 := by decide +kernel
  have hnone : (selectScript runscriptRequires CommandEnv.succeeding 0 args h).2.toOption.isSome =
      false := by decide +kernel
  refine ⟨⟨by decide +kernel, by decide, by decide⟩, hdoc, fun hsel => ?_⟩
  unfold Selects at hsel
  rw [hdoc] at hsel
  obtain ⟨parsed, heq⟩ := hsel
  change (selectScript runscriptRequires CommandEnv.succeeding 0 args h).2 = _ at heq
  rw [heq] at hnone
  exact Bool.noConfusion hnone

end DbgScript
