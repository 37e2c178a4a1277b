import DbgScript.Ruby.TypedObject
import DbgScript.Support.Locals

/-!
# Ruby functions that make typed objects

The functions of src/rubyprov/stackframe.cpp whose results are typed objects.
-/

namespace DbgScript.Ruby

open CharBuf (FixedStr)

/-! ## Arrays -/

/-- The elements of an array; one that has not been stored is `nil`. -/
abbrev RubyArray := List (Option RubyValue)

/-- `ARY_MAX_SIZE`: `LONG_MAX / sizeof(VALUE)`. -/
def ARY_MAX_SIZE : ℤ := (2 ^ 31 - 1) / 8

/-- `rb_ary_new2(capa)`, whose argument is a `long`. -/
def rbAryNew2 (capa : ULONG) : RubyM RubyArray :=
  if capa.toInt < 0 then rbRaise .ArgumentError "negative array size (or size too big)" []
  else if ARY_MAX_SIZE < capa.toInt then rbRaise .ArgumentError "array size too big" []
  else return []

/-- `rb_ary_store(ary, idx, val)`, for an index below the capacity. -/
def rbAryStore (ary : RubyArray) (idx : ℕ) (val : RubyValue) : RubyArray :=
  if idx < ary.length then ary.set idx (some val)
  else ary ++ List.replicate (idx - ary.length) none ++ [some val]

theorem rbAryStore_length (ary : RubyArray) (val : RubyValue) :
    rbAryStore ary ary.length val = ary ++ [some val] := by
  simp [rbAryStore]

/-! ## Stack frames -/

/-- `buildArrayFromLocals` (src/rubyprov/stackframe.cpp:75-97). -/
def buildArrayFromLocals (stackArray : RubyArray) (entry : DebugSymbolEntry)
    (symName : FixedStr CHAR MAX_SYMBOL_NAME_LEN) (idx : ℕ) : RubyM (HRESULT × RubyArray) := do
  let localVar ← allocTypedObject entry.size (some symName.toCStr) entry.typeId
    entry.moduleBase entry.offset false
  return (S_OK, rbAryStore stackArray idx localVar)

/-- `getVariablesHelper` (src/rubyprov/stackframe.cpp:112-153), `thd` being the thread that
    the frame refers to. -/
def getVariablesHelper (frame : DbgScriptStackFrame) (thd : DbgScriptThread) (flags : ULONG) :
    RubyM RubyArray := do
  checkAbort
  let (hr, numSym) ← Throws.lift (ask (.countStackFrameVariables thd frame flags))
  if FAILED hr then
    rbRaise .RuntimeError "UtilCountStackFrameVariables failed. Error: 0x%08x" [.hr hr]
  else
    let stackArray ← rbAryNew2 numSym
    let (hr, stackArray) ←
      utilEnumStackFrameVariables Throws.lift buildArrayFromLocals numSym stackArray
    if FAILED hr then
      rbRaise .RuntimeError "UtilEnumStackFrameVariables failed. Error: 0x%08x" [.hr hr]
    else return stackArray

end DbgScript.Ruby
