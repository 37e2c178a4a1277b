import DbgScript.Support.Requests

/-!
# The variables of a stack frame

`UtilEnumStackFrameVariables` (src/support/util.cpp:1072-1130): the loop over a symbol
group, whose callback makes an object of each variable. The symbol group is released at
the end, unless the callback leaves by a jump.
-/

namespace DbgScript

open CharBuf (FixedStr)

/-- The name and the entry of the `i`-th symbol; the entry of a variable that has been
    optimised away is zero. -/
def readSymbol (i : ℕ) :
    DsM (Except HRESULT (DebugSymbolEntry × FixedStr CHAR MAX_SYMBOL_NAME_LEN)) := do
  let (hr, entry) ← ask (.getSymbolEntryInformation i)
  if hr ≠ E_NOINTERFACE ∧ FAILED hr then
    outputError "Error: Failed to get symbol entry information. Error 0x%08x.\n" [.hr hr]
    return .error hr
  else
    let entry := if hr = E_NOINTERFACE then .zero else entry
    let (hr, symName) ← ask (.getSymbolName i)
    if FAILED hr then
      outputError "Error: Failed to get symbol name. Error 0x%08x.\n" [.hr hr]
      return .error hr
    else return .ok (entry, symName)

/-- The symbols from the `i`-th on. The callback goes on from what it has made of the
    earlier ones. -/
def enumSymbols {m : Type → Type} [Monad m] {σ : Type} (lift : {α : Type} → DsM α → m α)
    (callback : σ → DebugSymbolEntry → FixedStr CHAR MAX_SYMBOL_NAME_LEN → ℕ → m (HRESULT × σ)) :
    ℕ → ℕ → σ → m (HRESULT × σ)
  | 0, _, acc => return (S_OK, acc)
  | k + 1, i, acc => do
    match ← lift (readSymbol i) with
    | .error hr => return (hr, acc)
    | .ok (entry, symName) =>
      let (hr, acc) ← callback acc entry symName i
      if FAILED hr then return (hr, acc)
      else enumSymbols lift callback k (i + 1) acc

/-- `UtilEnumStackFrameVariables(hostCtxt, symGrp, numSym, callback, userctxt)`. -/
def utilEnumStackFrameVariables {m : Type → Type} [Monad m] {σ : Type}
    (lift : {α : Type} → DsM α → m α)
    (callback : σ → DebugSymbolEntry → FixedStr CHAR MAX_SYMBOL_NAME_LEN → ℕ → m (HRESULT × σ))
    (numSym : ULONG) (acc : σ) : m (HRESULT × σ) := do
  let r ← enumSymbols lift callback numSym.toNat 0 acc
  lift (ask .releaseSymbolGroup)
  return r

end DbgScript
