import DbgScript.Common
import DbgScript.Lib.Memo
import DbgScript.Lib.Runs

/-!
# The symbol cache

`GetCachedSymbolType`, `GetCachedModuleName` and `GetCachedTypeName`
(src/support/symcache.cpp:51-184) over their three static maps, and the order
`ModuleAndTypeId::operator<` (src/support/symcache.h:20-35) that the type-name map uses.

* `symbolCache_transparent`: in any interleaving of lookups, with an engine that repeats
  its successful answers, each lookup returns what the uncached query would return at
  that moment, and the engine is not queried again about what it has answered; the order
  is a strict total order, so distinct keys never share an entry.
-/

namespace DbgScript

open CharBuf (CStr FixedStr)
open Memo (StrictTotal Table Source asked answer)
open Runs (run Along Guarded)

/-- Limits of the extension (include/dstypedobject.h:27-28). -/
def MAX_MODULE_NAME_LEN : ℕ := 256
def MAX_SYMBOL_NAME_LEN : ℕ := 512

/-! ## Keys -/

/-- `ModuleAndTypeId` (src/support/symcache.h:20-35). -/
structure ModuleAndTypeId where
  typeId : ULONG
  moduleBase : BitVec 64
  deriving DecidableEq

/-- `ModuleAndTypeId::operator<`. -/
def ModuleAndTypeId.less (a b : ModuleAndTypeId) : Bool :=
  if a.moduleBase ≠ b.moduleBase then a.moduleBase < b.moduleBase else a.typeId < b.typeId

/-- `std::less<std::string>` on strings made from a `const char*`: by bytes, a prefix
    first. -/
def stringLess (a b : AnsiStr) : Bool := a.chars < b.chars

/-- `std::less<UINT64>`. -/
def uint64Less (a b : BitVec 64) : Bool := a < b

instance : StrictTotal stringLess where
  irrefl a := by simp [stringLess]
  trans hab hbc := by
    simp only [stringLess, decide_eq_true_eq] at *
    exact List.lt_trans hab hbc
  total {a b} hab hba := by
    simp only [stringLess, decide_eq_false_iff_not] at *
    have hchars := List.le_antisymm (List.not_lt.mp hba) (List.not_lt.mp hab)
    exact CStr.ext hchars

instance : StrictTotal uint64Less where
  irrefl a := by simp [uint64Less]
  trans hab hbc := by
    simp only [uint64Less, decide_eq_true_eq] at *
    exact BitVec.lt_trans hab hbc
  total hab hba := by
    simp only [uint64Less, decide_eq_false_iff_not] at *
    exact BitVec.le_antisymm (BitVec.not_lt.mp hba) (BitVec.not_lt.mp hab)

theorem ModuleAndTypeId.less_iff (a b : ModuleAndTypeId) :
    a.less b = true ↔
      a.moduleBase < b.moduleBase ∨ a.moduleBase = b.moduleBase ∧ a.typeId < b.typeId := by
  by_cases h : a.moduleBase = b.moduleBase
  · simp [ModuleAndTypeId.less, h]
  · simp [ModuleAndTypeId.less, h]

instance : StrictTotal ModuleAndTypeId.less where
  irrefl a := by simp [ModuleAndTypeId.less]
  trans {a b c} hab hbc := by
    rw [ModuleAndTypeId.less_iff] at *
    rcases hab with hab | ⟨hab, hab'⟩ <;> rcases hbc with hbc | ⟨hbc, hbc'⟩
    · exact .inl (BitVec.lt_trans hab hbc)
    · exact .inl (hbc ▸ hab)
    · exact .inl (hab ▸ hbc)
    · exact .inr ⟨hab.trans hbc, BitVec.lt_trans hab' hbc'⟩
  total {a b} hab hba := by
    have hab' : ¬ a.less b = true := by simp [hab]
    have hba' : ¬ b.less a = true := by simp [hba]
    rw [ModuleAndTypeId.less_iff, not_or, not_and] at hab' hba'
    have hbase : a.moduleBase = b.moduleBase :=
      BitVec.le_antisymm (BitVec.not_lt.mp hba'.1) (BitVec.not_lt.mp hab'.1)
    have htype : a.typeId = b.typeId :=
      BitVec.le_antisymm (BitVec.not_lt.mp (hba'.2 hbase.symm)) (BitVec.not_lt.mp (hab'.2 hbase))
    cases a
    cases b
    simp_all

/-! ## The engine -/

/-- A query to `IDebugSymbols`. -/
inductive SymbolQuery where
  | getSymbolTypeId (sym : AnsiStr)
  | getModuleNames (modBase : BitVec 64)
  | getTypeName (modAndTypeId : ModuleAndTypeId)

/-- The answers. A name is what the engine stores in the caller's zero-initialised array. -/
@[reducible] def SymbolQuery.Answer : SymbolQuery → Type
  | .getSymbolTypeId _ => HRESULT × ModuleAndTypeId
  | .getModuleNames _ => HRESULT × FixedStr CHAR MAX_MODULE_NAME_LEN
  | .getTypeName _ => HRESULT × FixedStr CHAR MAX_SYMBOL_NAME_LEN

/-- The symbol engine at one moment: how it would answer each query. -/
structure SymbolEngine where
  getSymbolTypeId : AnsiStr → HRESULT × ModuleAndTypeId
  getModuleNames : BitVec 64 → HRESULT × FixedStr CHAR MAX_MODULE_NAME_LEN
  getTypeName : ModuleAndTypeId → HRESULT × FixedStr CHAR MAX_SYMBOL_NAME_LEN

def SymbolEngine.respond (e : SymbolEngine) : (q : SymbolQuery) → q.Answer
  | .getSymbolTypeId sym => e.getSymbolTypeId sym
  | .getModuleNames modBase => e.getModuleNames modBase
  | .getTypeName modAndTypeId => e.getTypeName modAndTypeId

/-- A computation that queries the engine. -/
abbrev SymbolM := Dialogue SymbolQuery.Answer

/-! ## The caches -/

/-- The value of a successful query. -/
def succeeded {α : Type} (answer : HRESULT × α) : Option α :=
  if FAILED answer.1 then none else some answer.2

/-- What the maps remember: the answer, or the string in the array. -/
def symCacheSource : Source SymbolQuery.Answer AnsiStr ModuleAndTypeId where
  question := .getSymbolTypeId
  value _ answer := succeeded answer

def modCacheSource : Source SymbolQuery.Answer (BitVec 64) AnsiStr where
  question := .getModuleNames
  value _ answer := (succeeded answer).map FixedStr.toCStr

def typeNameCacheSource : Source SymbolQuery.Answer ModuleAndTypeId AnsiStr where
  question := .getTypeName
  value _ answer := (succeeded answer).map FixedStr.toCStr

/-- `s_SymCache`, `s_ModCache` and `s_TypeNameCache`. -/
structure SymbolCache where
  symCache : Table AnsiStr ModuleAndTypeId stringLess
  modCache : Table (BitVec 64) AnsiStr uint64Less
  typeNameCache : Table ModuleAndTypeId AnsiStr ModuleAndTypeId.less

def SymbolCache.empty : SymbolCache := ⟨∅, ∅, ∅⟩

/-- `GetCachedSymbolType(hostCtxt, sym)` (src/support/symcache.cpp:51-81). -/
def getCachedSymbolType (sym : AnsiStr) (s : SymbolCache) :
    SymbolM (SymbolCache × Option ModuleAndTypeId) := do
  let (t, r) ← Memo.lookup symCacheSource sym s.symCache
  return ({ s with symCache := t }, r)

/-- `GetCachedModuleName(hostCtxt, modBase)` (src/support/symcache.cpp:99-138). -/
def getCachedModuleName (modBase : BitVec 64) (s : SymbolCache) :
    SymbolM (SymbolCache × Option AnsiStr) := do
  let (t, r) ← Memo.lookup modCacheSource modBase s.modCache
  return ({ s with modCache := t }, r)

/-- `GetCachedTypeName(hostCtxt, modAndTypeId)` (src/support/symcache.cpp:156-184). -/
def getCachedTypeName (modAndTypeId : ModuleAndTypeId) (s : SymbolCache) :
    SymbolM (SymbolCache × Option AnsiStr) := do
  let (t, r) ← Memo.lookup typeNameCacheSource modAndTypeId s.typeNameCache
  return ({ s with typeNameCache := t }, r)

/-- A cached lookup, and what it returns. -/
inductive CacheCall where
  | symbolType (sym : AnsiStr)
  | moduleName (modBase : BitVec 64)
  | typeName (modAndTypeId : ModuleAndTypeId)

inductive CacheResult where
  | symbolType (info : Option ModuleAndTypeId)
  | name (str : Option AnsiStr)
  deriving DecidableEq

def CacheCall.perform (s : SymbolCache) : CacheCall → SymbolM (SymbolCache × CacheResult)
  | .symbolType sym => do return (← getCachedSymbolType sym s).map id .symbolType
  | .moduleName modBase => do return (← getCachedModuleName modBase s).map id .name
  | .typeName modAndTypeId => do return (← getCachedTypeName modAndTypeId s).map id .name

/-! ## Specification -/

/-- The caches, and every query that the engine has been asked, with its answer. -/
structure SymbolSession where
  cache : SymbolCache
  log : List (Sigma SymbolQuery.Answer)

def SymbolSession.start : SymbolSession := ⟨SymbolCache.empty, []⟩

/-- A lookup at a moment of the engine, which records what it is asked. -/
def symCacheStep (s : SymbolSession) (c : SymbolEngine × CacheCall) : SymbolSession where
  cache := (answer c.1.respond (c.2.perform s.cache)).1
  log := s.log ++ asked c.1.respond (c.2.perform s.cache)

/-- What the lookup returns. -/
def symCacheResult (s : SymbolSession) (c : SymbolEngine × CacheCall) : CacheResult :=
  (answer c.1.respond (c.2.perform s.cache)).2

/-- What an answer of the engine amounts to: null if the query has failed. -/
def queryResult : (q : SymbolQuery) → q.Answer → CacheResult
  | .getSymbolTypeId _, (hr, info) => .symbolType (if FAILED hr then none else some info)
  | .getModuleNames _, (hr, str) => .name (if FAILED hr then none else some str.toCStr)
  | .getTypeName _, (hr, str) => .name (if FAILED hr then none else some str.toCStr)

/-- The query that a lookup stands for. -/
def CacheCall.query : CacheCall → SymbolQuery
  | .symbolType sym => .getSymbolTypeId sym
  | .moduleName modBase => .getModuleNames modBase
  | .typeName modAndTypeId => .getTypeName modAndTypeId

/-- The plain query at the same moment. -/
def uncached (c : SymbolEngine × CacheCall) : CacheResult :=
  queryResult c.2.query (c.1.respond c.2.query)

/-- The engine has answered the query successfully. -/
def CacheResult.isSuccess : CacheResult → Prop
  | .symbolType info => info ≠ none
  | .name str => str ≠ none

/-- The engine gives every answer again that it has given successfully. -/
def SymbolEngine.Stable (e : SymbolEngine) (log : List (Sigma SymbolQuery.Answer)) : Prop :=
  ∀ q a, ⟨q, a⟩ ∈ log → (queryResult q a).isSuccess →
    queryResult q (e.respond q) = queryResult q a

/-- The query has not been answered successfully before. -/
def NotAnswered (pre : List (Sigma SymbolQuery.Answer)) (e : Sigma SymbolQuery.Answer) : Prop :=
  ∀ a, ⟨e.1, a⟩ ∈ pre → ¬ (queryResult e.1 a).isSuccess

/-! ## Transparency -/

section Sources

variable {κ ν : Type} {less : κ → κ → Bool} {src : Source SymbolQuery.Answer κ ν}
  {wrap : Option ν → CacheResult} {log : List (Sigma SymbolQuery.Answer)} {e : SymbolEngine}
  {t : Table κ ν less} {k : κ} {v : ν}

/-- What the map remembers of an answer is what the answer amounts to. -/
structure Denotes (src : Source SymbolQuery.Answer κ ν) (wrap : Option ν → CacheResult) :
    Prop where
  result (k : κ) (a : (src.question k).Answer) :
    queryResult (src.question k) a = wrap (src.value k a)
  success (r : Option ν) : (wrap r).isSuccess ↔ r ≠ none
  question_injective : Function.Injective src.question
  wrap_injective : Function.Injective wrap

theorem denotes_symCacheSource : Denotes symCacheSource .symbolType :=
  ⟨fun _ _ => rfl, fun _ => Iff.rfl, fun _ _ h => SymbolQuery.getSymbolTypeId.inj h,
    fun _ _ h => CacheResult.symbolType.inj h⟩

theorem denotes_modCacheSource : Denotes modCacheSource .name := by
  refine ⟨fun _ a => ?_, fun _ => Iff.rfl, fun _ _ h => SymbolQuery.getModuleNames.inj h,
    fun _ _ h => CacheResult.name.inj h⟩
  exact congrArg CacheResult.name (apply_ite (Option.map FixedStr.toCStr) _ none (some a.2)).symm

theorem denotes_typeNameCacheSource : Denotes typeNameCacheSource .name := by
  refine ⟨fun _ a => ?_, fun _ => Iff.rfl, fun _ _ h => SymbolQuery.getTypeName.inj h,
    fun _ _ h => CacheResult.name.inj h⟩
  exact congrArg CacheResult.name (apply_ite (Option.map FixedStr.toCStr) _ none (some a.2)).symm

theorem Denotes.repeats (h : Denotes src wrap) (he : e.Stable log) (hv : src.Answered log k v) :
    src.value k (e.respond (src.question k)) = some v := by
  obtain ⟨a, hmem, ha⟩ := hv
  have hsuccess : (queryResult (src.question k) a).isSuccess := by
    rw [h.result, ha, h.success]
    exact Option.some_ne_none v
  have hsame := he _ a hmem hsuccess
  rw [h.result, h.result, ha] at hsame
  exact h.wrap_injective hsame

/-- A lookup asks for nothing that has been answered. -/
theorem Denotes.once (h : Denotes src wrap) (ht : Memo.Holds src t log)
    (honce : Guarded NotAnswered log) (k : κ) :
    Guarded NotAnswered (log ++ asked e.respond (Memo.lookup src k t)) := by
  cases hk : t[k]? with
  | some v =>
    rw [Memo.lookup_of_found hk]
    simpa [asked] using honce
  | none =>
    rw [Memo.asked_lookup hk, Runs.guarded_snoc]
    refine ⟨honce, fun a hmem hsuccess => ?_⟩
    rw [h.result, h.success] at hsuccess
    obtain ⟨v, hv⟩ := Option.ne_none_iff_exists'.1 hsuccess
    have hfound := (ht k v).2 ⟨a, hmem, hv⟩
    rw [hk] at hfound
    contradiction

/-- The answer of a lookup is that of the plain query. -/
theorem Denotes.lookup_eq (h : Denotes src wrap) (ht : Memo.Holds src t log) (he : e.Stable log)
    (k : κ) :
    wrap (answer e.respond (Memo.lookup src k t)).2 =
      queryResult (src.question k) (e.respond (src.question k)) := by
  rw [h.result, ht.lookup_eq fun v hv => h.repeats he hv]

end Sources

/-- Each map holds the successful answers to its queries, and nothing has been asked again
    after such an answer. -/
structure SymbolSessionOk (s : SymbolSession) : Prop where
  symbolType : Memo.Holds symCacheSource s.cache.symCache s.log
  moduleName : Memo.Holds modCacheSource s.cache.modCache s.log
  typeName : Memo.Holds typeNameCacheSource s.cache.typeNameCache s.log
  once : Guarded NotAnswered s.log

theorem symbolSessionOk_start : SymbolSessionOk SymbolSession.start :=
  ⟨Memo.holds_empty, Memo.holds_empty, Memo.holds_empty, Runs.guarded_nil⟩

section Calls

variable (s : SymbolCache)

theorem perform_symbolType (sym : AnsiStr) :
    (CacheCall.symbolType sym).perform s = Memo.lookup symCacheSource sym s.symCache >>= fun r =>
      .done ({ s with symCache := r.1 }, .symbolType r.2) := by
  rw [CacheCall.perform, getCachedSymbolType, Dialogue.bind_assoc]
  rfl

theorem perform_moduleName (modBase : BitVec 64) :
    (CacheCall.moduleName modBase).perform s =
      Memo.lookup modCacheSource modBase s.modCache >>= fun r =>
        .done ({ s with modCache := r.1 }, .name r.2) := by
  rw [CacheCall.perform, getCachedModuleName, Dialogue.bind_assoc]
  rfl

theorem perform_typeName (modAndTypeId : ModuleAndTypeId) :
    (CacheCall.typeName modAndTypeId).perform s =
      Memo.lookup typeNameCacheSource modAndTypeId s.typeNameCache >>= fun r =>
        .done ({ s with typeNameCache := r.1 }, .name r.2) := by
  rw [CacheCall.perform, getCachedTypeName, Dialogue.bind_assoc]
  rfl

end Calls

theorem SymbolSessionOk.step {s : SymbolSession} (h : SymbolSessionOk s)
    (c : SymbolEngine × CacheCall) : SymbolSessionOk (symCacheStep s c) := by
  rcases c with ⟨e, sym | modBase | modAndTypeId⟩
  · rw [symCacheStep, perform_symbolType, Memo.asked_bind_done, Memo.answer_bind_done]
    have hasked : ∀ x ∈ asked e.respond (Memo.lookup symCacheSource sym s.cache.symCache),
        x.1 = .getSymbolTypeId sym := fun x hx => (h.symbolType.unanswered hx).1
    exact ⟨h.symbolType.lookup denotes_symCacheSource.question_injective,
      h.moduleName.append_of_ne fun x hx k hk => by simp [hasked x hx, modCacheSource] at hk,
      h.typeName.append_of_ne fun x hx k hk => by simp [hasked x hx, typeNameCacheSource] at hk,
      denotes_symCacheSource.once h.symbolType h.once sym⟩
  · rw [symCacheStep, perform_moduleName, Memo.asked_bind_done, Memo.answer_bind_done]
    have hasked : ∀ x ∈ asked e.respond (Memo.lookup modCacheSource modBase s.cache.modCache),
        x.1 = .getModuleNames modBase := fun x hx => (h.moduleName.unanswered hx).1
    exact ⟨h.symbolType.append_of_ne fun x hx k hk => by simp [hasked x hx, symCacheSource] at hk,
      h.moduleName.lookup denotes_modCacheSource.question_injective,
      h.typeName.append_of_ne fun x hx k hk => by simp [hasked x hx, typeNameCacheSource] at hk,
      denotes_modCacheSource.once h.moduleName h.once modBase⟩
  · rw [symCacheStep, perform_typeName, Memo.asked_bind_done, Memo.answer_bind_done]
    have hasked : ∀ x ∈ asked e.respond
        (Memo.lookup typeNameCacheSource modAndTypeId s.cache.typeNameCache),
        x.1 = .getTypeName modAndTypeId := fun x hx => (h.typeName.unanswered hx).1
    exact ⟨h.symbolType.append_of_ne fun x hx k hk => by simp [hasked x hx, symCacheSource] at hk,
      h.moduleName.append_of_ne fun x hx k hk => by simp [hasked x hx, modCacheSource] at hk,
      h.typeName.lookup denotes_typeNameCacheSource.question_injective,
      denotes_typeNameCacheSource.once h.typeName h.once modAndTypeId⟩

/-- A lookup returns what the uncached query would. -/
theorem symCacheResult_eq {s : SymbolSession} (h : SymbolSessionOk s) {c : SymbolEngine × CacheCall}
    (hc : c.1.Stable s.log) : symCacheResult s c = uncached c := by
  rcases c with ⟨e, sym | modBase | modAndTypeId⟩
  · rw [symCacheResult, perform_symbolType, Memo.answer_bind_done]
    exact denotes_symCacheSource.lookup_eq h.symbolType hc sym
  · rw [symCacheResult, perform_moduleName, Memo.answer_bind_done]
    exact denotes_modCacheSource.lookup_eq h.moduleName hc modBase
  · rw [symCacheResult, perform_typeName, Memo.answer_bind_done]
    exact denotes_typeNameCacheSource.lookup_eq h.typeName hc modAndTypeId

/-- In every interleaving of lookups, with an engine that repeats its successful answers,
    the cached lookups return what the uncached queries would return at that moment, and
    the engine is not asked again what it has answered. The order of the type-name map is a
    strict total order, and distinct keys of it have distinct entries. -/
theorem symbolCache_transparent :
    (∀ calls : List (SymbolEngine × CacheCall),
      Along symCacheStep (fun s c => c.1.Stable s.log) SymbolSession.start calls →
        Along symCacheStep (fun s c => symCacheResult s c = uncached c) SymbolSession.start calls ∧
          Guarded NotAnswered (run symCacheStep SymbolSession.start calls).log) ∧
      ((∀ a : ModuleAndTypeId, a.less a = false) ∧
        (∀ a b c : ModuleAndTypeId, a.less b → b.less c → a.less c) ∧
        (∀ a b : ModuleAndTypeId, a ≠ b → a.less b ∨ b.less a)) ∧
      ∀ (m : Table ModuleAndTypeId AnsiStr ModuleAndTypeId.less) (a b : ModuleAndTypeId)
        (name : AnsiStr), a ≠ b → (m.insert a name)[b]? = m[b]? := by
  refine ⟨fun calls hcalls => ⟨?_, ?_⟩, ⟨?_, ?_, ?_⟩, ?_⟩
  · exact Runs.along_of_inv (fun s c h _ => h.step c) (fun s c h hc => symCacheResult_eq h hc)
      symbolSessionOk_start hcalls
  · have hrun : SymbolSessionOk (run symCacheStep SymbolSession.start calls) :=
      Runs.run_keeps (fun s c h => h.step c) symbolSessionOk_start calls
    exact hrun.once
  · exact StrictTotal.irrefl
  · intro a b c
    exact StrictTotal.trans
  · intro a b hne
    by_contra hno
    rw [not_or] at hno
    have hab : ModuleAndTypeId.less a b = false := by simpa using hno.1
    have hba : ModuleAndTypeId.less b a = false := by simpa using hno.2
    exact hne (StrictTotal.total hab hba)
  · intro m a b name hne
    exact Memo.getElem?_insert_of_ne name hne

/-- An engine that gives every query the result `hr`. -/
def SymbolEngine.constant (hr : HRESULT) : SymbolEngine where
  getSymbolTypeId _ := (hr, ⟨5, 0x77a00000⟩)
  getModuleNames _ := (hr, FixedStr.empty CHAR (Nat.succ_pos _))
  getTypeName _ := (hr, FixedStr.empty CHAR (Nat.succ_pos _))

/-- Only answers of such engines are on record. -/
def FromConstants (log : List (Sigma SymbolQuery.Answer)) : Prop :=
  ∀ x ∈ log, ∃ hr, x.2 = (SymbolEngine.constant hr).respond x.1

theorem FromConstants.stable {log : List (Sigma SymbolQuery.Answer)} (h : FromConstants log) :
    (SymbolEngine.constant S_OK).Stable log := by
  intro q a hmem hsuccess
  obtain ⟨hr, ha⟩ := h _ hmem
  obtain rfl : a = (SymbolEngine.constant hr).respond q := ha
  have hok : FAILED hr = false := by
    by_contra hno
    have hf : FAILED hr = true := by simpa using hno
    cases q <;> simp [queryResult, SymbolEngine.respond, SymbolEngine.constant, hf,
      CacheResult.isSuccess] at hsuccess
  cases q <;> simp [queryResult, SymbolEngine.respond, SymbolEngine.constant, hok]

theorem FromConstants.step {s : SymbolSession} (h : FromConstants s.log) (hr : HRESULT)
    (c : CacheCall) : FromConstants (symCacheStep s (.constant hr, c)).log := by
  intro x hx
  obtain hold | hnew := List.mem_append.1 hx
  · exact h x hold
  · exact ⟨hr, Memo.eq_of_mem_asked hnew⟩

/-- A module name that cannot be had at first, and is then asked for twice. -/
theorem symbolCache_transparent_retry :
    symCacheResult (run symCacheStep SymbolSession.start
        [(.constant E_FAIL, .moduleName 0x77a00000), (.constant S_OK, .moduleName 0x77a00000)])
        (.constant S_OK, .moduleName 0x77a00000) =
      .name (some ⟨[], List.not_mem_nil⟩) := by
  have h := symbolCache_transparent.1 [(.constant E_FAIL, .moduleName 0x77a00000),
    (.constant S_OK, .moduleName 0x77a00000), (.constant S_OK, .moduleName 0x77a00000)]
    ⟨nofun, FromConstants.stable ?_, FromConstants.stable ?_, trivial⟩
  · exact h.1.2.2.1
  · exact FromConstants.step (s := SymbolSession.start) nofun E_FAIL _
  · exact FromConstants.step (FromConstants.step (s := SymbolSession.start) nofun E_FAIL _) S_OK _

end DbgScript
