import DbgScript.Lua.MemoryFunctions
import DbgScript.Providers.ArrayIndex
import DbgScript.Providers.StringReads
import DbgScript.Python.Functions

/-!
# The counts that scripts pass

The functions of the Lua and the Python provider that read memory take a count, and the one
that searches it a granularity. A script's integer gets to the debugger through a cast or a
format unit of 32 bits.

* `Lua.sends_counted`, `Python.sends_counted`: the count that the debugger is asked with, if
  it is asked.
* `exactCount_iff`: which integers get there unchanged, or are rejected.
-/

namespace DbgScript

open Python (PyAnswer PyAnswers PyCall)

/-! ## Calls with a count -/

/-- What is read at an address. -/
inductive Reader where
  | bytes
  | string
  | wideString
  deriving DecidableEq

def Reader.isString (r : Reader) : Bool := r ≠ .bytes

/-- The functions of the module, the methods of typed objects and `searchMemory`, with what
    they are given besides the count. -/
inductive CountedFunction where
  | function (r : Reader) (addr : UINT64)
  | method (r : Reader) (typObj : DbgScriptTypedObject)
  | searchMemory (start size : UINT64) (pattern : List UInt8)

/-- The function under its name in the source of the Lua provider. -/
def CountedFunction.lua (count : BitVec 64) : CountedFunction → Lua.LuaM Lua.LuaResult
  | .function .bytes addr => Lua.readBytes addr count
  | .function .string addr => Lua.readString addr (some count)
  | .function .wideString addr => Lua.readWideString addr (some count)
  | .method .bytes typObj => Lua.typedObjectReadBytes typObj count
  | .method .string typObj => Lua.typedObjectReadString typObj (some count)
  | .method .wideString typObj => Lua.typedObjectReadWideString typObj (some count)
  | .searchMemory start size pattern => Lua.searchMemory start size pattern count

/-- The function under its name in the source of the Python provider. -/
def CountedFunction.python (count : ℤ) : CountedFunction → Python.PyM Python.PyObj
  | .function .bytes addr => Python.readBytes (.ok (addr, Python.formatK count))
  | .function .string addr =>
    Python.readString ((Python.formatI count).map fun count => (addr, some count))
  | .function .wideString addr =>
    Python.readWideString ((Python.formatI count).map fun count => (addr, some count))
  | .method .bytes typObj => Python.typedObjectReadBytes typObj (.ok (Python.formatK count))
  | .method .string typObj =>
    Python.typedObjectReadString typObj ((Python.formatI count).map some)
  | .method .wideString typObj =>
    Python.typedObjectReadWideString typObj ((Python.formatI count).map some)
  | .searchMemory start size pattern =>
    Python.searchMemory (.ok (start, size, pattern, Python.formatK count))

/-- A call that a script makes. -/
inductive CountedCall where
  | lua (f : CountedFunction)
  | python (f : CountedFunction)

def CountedCall.function : CountedCall → CountedFunction
  | .lua f | .python f => f

/-- The call with the count `n`, in Lua, whose integers have 64 bits, for
    `-2 ^ 63 ≤ n < 2 ^ 63`: whether it ends in an error of the script. -/
def CountedCall.run (n : ℤ) : CountedCall → Dialogue PyAnswer Bool
  | .lua f => (f.lua (BitVec.ofInt 64 n)).attempt.inl >>= fun r => pure !r.isOk
  | .python f => (f.python n).attempt none >>= fun r => pure (r.1.isNone && r.2.isSome)

/-! ## Specification -/

/-- The count in a question to the debugger engine; for a string it is the size that the
    buffer is said to have. -/
def Request.count? : Request → Option ULONG
  | .readVirtual _ count => some count
  | .readMultiByteString _ _ bufferSize | .readUnicodeString _ _ bufferSize => some bufferSize
  | .searchVirtual _ _ _ patGran => some patGran
  | _ => none

/-- The counts that the debugger is asked with. -/
def countsOf (qs : List (Request ⊕ PyCall)) : List ULONG :=
  qs.filterMap (Sum.elim Request.count? fun _ => none)

def CountedFunction.readsString : CountedFunction → Bool
  | .function r _ | .method r _ => r.isString
  | .searchMemory _ _ _ => false

/-- `count` is the integer `n` itself; for a string, all of the buffer stands for a negative
    one. -/
def CountedFunction.Means (f : CountedFunction) (n : ℤ) (count : ULONG) : Prop :=
  if f.readsString then
    n < 0 ∧ count.toNat = MAX_READ_STRING_LEN ∨
      1 ≤ n ∧ n ≤ MAX_READ_STRING_LEN - 1 ∧ count.toNat = n
  else count.toNat = n

/-- The call raises an error or asks the debugger, and never asks with a count other than
    `n`. -/
structure ExactCount (c : CountedCall) (a : PyAnswers) (n : ℤ) : Prop where
  answered : ((c.run n).run a 0).1 = true ∨ countsOf ((c.run n).run a 0).2 ≠ []
  exact : ∀ count ∈ countsOf ((c.run n).run a 0).2, c.function.Means n count

/-- A string is to be read of an object without typed data. -/
def CountedFunction.lacksTypedData : CountedFunction → Bool
  | .method r typObj => r.isString && !typObj.typedDataValid
  | _ => false

/-- The call ends in an error before the count is looked at. -/
def CountedFunction.Stopped (f : CountedFunction) (a : PyAnswers) : Prop :=
  Dialogue.left a 0 .getInterrupt = S_OK ∨ f.lacksTypedData = true

instance (f : CountedFunction) (a : PyAnswers) : Decidable (f.Stopped a) :=
  inferInstanceAs (Decidable (_ ∨ _))

/-- The count survives the conversion, or is rejected. A count of bytes and a granularity
    must fit 32 bits. For strings, Lua's cast must not make a count of the buffer's range
    from one that is outside it, nor a negative one from one that is not; Python raises an
    exception. -/
def CountedCall.Fits (n : ℤ) : CountedCall → Prop
  | .lua f =>
    if f.readsString then
      (1 ≤ n % 2 ^ 32 ∧ n % 2 ^ 32 ≤ MAX_READ_STRING_LEN - 1 → n = n % 2 ^ 32) ∧
        (2 ^ 31 ≤ n % 2 ^ 32 → n < 0)
    else 0 ≤ n ∧ n < 2 ^ 32
  | .python f => f.readsString ∨ 0 ≤ n ∧ n < 2 ^ 32

/-! ## What is sent -/

def Request.asksCount (r : Request) : Bool := r.count?.isSome

def asksCount : Request ⊕ PyCall → Bool := Sum.elim Request.asksCount fun _ => false

theorem countsOf_filter (qs : List (Request ⊕ PyCall)) :
    countsOf (qs.filter asksCount) = countsOf qs := by
  rw [countsOf, List.filterMap_filter, countsOf]
  congr 1
  funext q
  rcases q with r | c
  · cases hr : r.count? <;> simp [asksCount, Request.asksCount, hr]
  · rfl

/-- What is asked with, given the count as the source has converted it. -/
def sentCount (isString : Bool) (count : BitVec 32) : Option ULONG :=
  if isString then if badCount count then none else some (maxToRead count) else some count

/-- The same in Python, whose format unit `i` rejects some integers. -/
def pythonSentCount (isString : Bool) (i : ℤ) : Option ULONG :=
  if isString then
    if -2 ^ 31 ≤ i ∧ i < 2 ^ 31 then sentCount true (BitVec.ofInt 32 i) else none
  else sentCount false (BitVec.ofInt 32 i)

/-- The run asks the debugger with this count and no other, or ends in an error. -/
structure Sends (r : Bool × List (Request ⊕ PyCall)) (count? : Option ULONG) : Prop where
  counts : countsOf r.2 = count?.toList
  raised : count? = none → r.1 = true

variable {a : PyAnswers} {n : ℕ} {count? : Option ULONG}

theorem stopped_function {r : Reader} {addr : UINT64} :
    (CountedFunction.function r addr).Stopped a ↔ Dialogue.left a 0 .getInterrupt = S_OK := by
  simp [CountedFunction.Stopped, CountedFunction.lacksTypedData]

theorem stopped_searchMemory {start size : UINT64} {pattern : List UInt8} :
    (CountedFunction.searchMemory start size pattern).Stopped a ↔
      Dialogue.left a 0 .getInterrupt = S_OK := by
  simp [CountedFunction.Stopped, CountedFunction.lacksTypedData]

theorem stopped_method_bytes {typObj : DbgScriptTypedObject} :
    (CountedFunction.method .bytes typObj).Stopped a ↔
      Dialogue.left a 0 .getInterrupt = S_OK := by
  simp [CountedFunction.Stopped, CountedFunction.lacksTypedData, Reader.isString]

theorem stopped_method_string {r : Reader} (hr : r.isString = true)
    {typObj : DbgScriptTypedObject} :
    (CountedFunction.method r typObj).Stopped a ↔
      Dialogue.left a 0 .getInterrupt = S_OK ∨ typObj.typedDataValid = false := by
  simp [CountedFunction.Stopped, CountedFunction.lacksTypedData, hr]

theorem run_utilReadWideString_questions (a : DebuggerAnswers) (n : ℕ) (addr : UINT64)
    (count : CInt) :
    ((utilReadWideString addr count).run a n).2 =
      [.readUnicodeString addr (BitVec.ofNat 32 (MAX_READ_STRING_LEN * 2)) (maxToRead count)] := by
  simp only [utilReadWideString, ask, Dialogue.request, Dialogue.ask_bind, Dialogue.done_bind,
    Dialogue.run_ask]
  split_ifs <;> rfl

namespace Lua

variable {α β : Type}

/-- The run of a function of the Lua provider, as that of a call. -/
def outcome (d : LuaM α) (a : PyAnswers) (n : ℕ) : Bool × List (Request ⊕ PyCall) :=
  (!(d.attempt.run (Dialogue.left a) n).1.isOk,
    (d.attempt.run (Dialogue.left a) n).2.map .inl)

theorem sends_raise (e : LuaError) : Sends (outcome (Throws.throw e : LuaM α) a n) none :=
  ⟨rfl, fun _ => rfl⟩

theorem sends_checkAbort_bind {f : Unit → LuaM α}
    (h : Sends (outcome (f ()) a (n + 1)) count?) :
    Sends (outcome (checkAbort >>= f) a n)
      (if Dialogue.left a n .getInterrupt = S_OK then none else count?) := by
  rw [outcome, run_checkAbort_bind]
  split_ifs
  · exact ⟨rfl, fun _ => rfl⟩
  · exact ⟨h.counts, h.raised⟩

theorem sends_checkTypedData_bind {typObj : DbgScriptTypedObject} {f : Unit → LuaM α}
    (h : Sends (outcome (f ()) a n) count?) :
    Sends (outcome (checkTypedData typObj >>= f) a n)
      (if typObj.typedDataValid = false then none else count?) := by
  rw [checkTypedData]
  cases typObj.typedDataValid with
  | false => exact sends_raise _
  | true => exact h

/-- What is made of the result does not matter. -/
theorem sends_bind_pure {d : LuaM α} (h : Sends (outcome d a n) count?) (f : α → β) :
    Sends (outcome (d >>= fun x => pure (f x)) a n) count? := by
  have hgo : ∀ (r : Except LuaError α) (m : ℕ),
      (Throws.andThen (fun x => (pure (f x) : LuaM β)) r).run (Dialogue.left a) m =
        (r.map f, []) := by
    rintro (e | x) m <;> rfl
  have hok : ∀ r : Except LuaError α, (r.map f).isOk = r.isOk := by
    rintro (e | x) <;> rfl
  rw [outcome, Throws.attempt_bind, Dialogue.run_bind, hgo, List.append_nil, hok]
  exact h

/-- A question with a count, and what is made of the answer. -/
theorem sends_lift_bind {d : DsM α} {f : α → LuaM β} {q : Request} {count : ULONG}
    (hd : (d.run (Dialogue.left a) n).2 = [q]) (hq : q.count? = some count)
    (hf : ∀ x, (f x).attempt.Asks fun r => r.asksCount = false) :
    Sends (outcome (Throws.lift d >>= f) a n) (some count) := by
  refine ⟨?_, nofun⟩
  have hmap : ∀ qs : List Request, (qs.map Sum.inl).filter asksCount =
      (qs.filter Request.asksCount).map (Sum.inl : _ → Request ⊕ PyCall) := by
    intro qs
    rw [List.filter_map]
    rfl
  rw [outcome, ← countsOf_filter, hmap, Throws.filter_run_bind hf, ← hmap, countsOf_filter, hd]
  simp [countsOf, hq]

/-- The functions of src/luaprov/util.cpp. -/
def read (r : Reader) (addr : UINT64) (count : BitVec 32) : LuaM LuaValue :=
  match r with
  | .bytes => luaReadBytes addr count
  | .string => luaReadString addr count
  | .wideString => luaReadWideString addr count

theorem sends_read (r : Reader) (addr : UINT64) (count : BitVec 32) :
    Sends (outcome (read r addr count) a n) (sentCount r.isString count) := by
  cases r with
  | bytes =>
    refine sends_lift_bind rfl rfl ?_
    rintro ⟨hr, bytes⟩
    dsimp only
    split <;> trivial
  | string =>
    rw [read, luaReadString]
    show Sends _ (if badCount count then none else some (maxToRead count))
    split_ifs
    · exact ⟨rfl, fun _ => rfl⟩
    · refine sends_lift_bind rfl rfl ?_
      rintro ⟨hr, buf⟩
      dsimp only
      split <;> trivial
  | wideString =>
    rw [read, luaReadWideString]
    show Sends _ (if badCount count then none else some (maxToRead count))
    split_ifs
    · exact ⟨rfl, fun _ => rfl⟩
    · refine sends_lift_bind (run_utilReadWideString_questions _ _ _ _) rfl ?_
      rintro ⟨hr, buf⟩
      dsimp only
      split
      · trivial
      · refine ⟨rfl, ?_⟩
        rintro (err | utf8buf) <;> trivial

theorem sends_searchMemory (start size patGran : BitVec 64) (pat : List UInt8) :
    Sends (outcome (searchMemory start size pat patGran) a n)
      (if Dialogue.left a n .getInterrupt = S_OK then none else some (patGran.setWidth 32)) := by
  refine sends_checkAbort_bind (sends_lift_bind rfl rfl ?_)
  rintro ⟨hr, matchAddr⟩
  dsimp only
  split_ifs <;> trivial

/-- What each function asks with. -/
theorem sends_counted (f : CountedFunction) (count : BitVec 64) :
    Sends (outcome (f.lua count) a 0)
      (if f.Stopped a then none else sentCount f.readsString (count.setWidth 32)) := by
  have hread (r : Reader) (addr : UINT64) (n : ℕ) :=
    sends_bind_pure (sends_read (a := a) (n := n) r addr (count.setWidth 32)) LuaResult.value
  cases f with
  | function r addr =>
    rw [if_congr stopped_function rfl rfl]
    cases r with
    | bytes => exact sends_checkAbort_bind (hread .bytes addr 1)
    | string => exact sends_checkAbort_bind (hread .string addr 1)
    | wideString => exact sends_checkAbort_bind (hread .wideString addr 1)
  | method r typObj =>
    cases r with
    | bytes =>
      rw [if_congr stopped_method_bytes rfl rfl]
      exact sends_checkAbort_bind (hread .bytes _ 1)
    | string =>
      rw [if_congr (stopped_method_string rfl) rfl rfl, ite_or]
      exact sends_checkAbort_bind (sends_checkTypedData_bind (hread .string _ 1))
    | wideString =>
      rw [if_congr (stopped_method_string rfl) rfl rfl, ite_or]
      exact sends_checkAbort_bind (sends_checkTypedData_bind (hread .wideString _ 1))
  | searchMemory start size pattern =>
    rw [if_congr stopped_searchMemory rfl rfl]
    exact sends_searchMemory start size count pattern

end Lua

namespace Python

variable {α β : Type}

/-- The run of a function of the Python provider, as that of a call. -/
def outcome (d : PyM α) (a : PyAnswers) (n : ℕ) : Bool × List (Request ⊕ PyCall) :=
  let r := (d.attempt none).run a n
  (r.1.1.isNone && r.1.2.isSome, r.2)

theorem sends_raise (e : PyErr) : Sends (outcome (Flagged.raise e : PyM α) a n) none :=
  ⟨rfl, fun _ => rfl⟩

theorem sends_checkAbort_bind {f : Unit → PyM α}
    (h : Sends (outcome (f ()) a (n + 1)) count?) :
    Sends (outcome (checkAbort >>= f) a n)
      (if Dialogue.left a n .getInterrupt = S_OK then none else count?) := by
  rw [outcome, run_checkAbort_bind]
  split_ifs
  · exact ⟨rfl, fun _ => rfl⟩
  · exact ⟨h.counts, h.raised⟩

theorem sends_checkTypedData_bind {typObj : DbgScriptTypedObject} {f : Unit → PyM α}
    (h : Sends (outcome (f ()) a n) count?) :
    Sends (outcome (checkTypedData typObj >>= f) a n)
      (if typObj.typedDataValid = false then none else count?) := by
  rw [checkTypedData]
  cases typObj.typedDataValid with
  | false => exact sends_raise _
  | true => exact h

/-- A question with a count, and what is made of the answer. -/
theorem sends_ds_bind {d : DsM α} {f : α → PyM β} {q : Request} {count : ULONG}
    (hd : (d.run (Dialogue.left a) n).2 = [q]) (hq : q.count? = some count)
    (hf : ∀ x flag, ((f x).attempt flag).Asks fun r => asksCount r = false) :
    Sends (outcome (ds d >>= f) a n) (some count) := by
  refine ⟨?_, nofun⟩
  rw [outcome, ← countsOf_filter, ds, Flagged.filter_run_bind hf, countsOf_filter,
    Dialogue.run_inl, hd]
  simp [countsOf, hq]

theorem asksCount_newObject (o : PyObj) (flag : Option PyErr) :
    ((newObject o).attempt flag).Asks fun r => asksCount r = false := by
  rw [attempt_newObject]
  exact ⟨rfl, fun _ => trivial⟩

/-- The functions of src/pythonprov/util.cpp. -/
def read (r : Reader) (addr : UINT64) (count : BitVec 32) : PyM PyObj :=
  match r with
  | .bytes => pyReadBytes addr count
  | .string => pyReadString addr count
  | .wideString => pyReadWideString addr count

theorem sends_read (r : Reader) (addr : UINT64) (count : BitVec 32) :
    Sends (outcome (read r addr count) a n) (sentCount r.isString count) := by
  cases r with
  | bytes =>
    refine sends_ds_bind rfl rfl ?_
    rintro ⟨hr, bytes⟩ flag
    dsimp only
    split
    · trivial
    · exact asksCount_newObject _ flag
  | string =>
    rw [read, pyReadString]
    show Sends _ (if badCount count then none else some (maxToRead count))
    split_ifs
    · exact ⟨rfl, fun _ => rfl⟩
    · refine sends_ds_bind rfl rfl ?_
      rintro ⟨hr, buf⟩ flag
      dsimp only
      split
      · trivial
      · exact asksCount_newObject _ flag
  | wideString =>
    rw [read, pyReadWideString]
    show Sends _ (if badCount count then none else some (maxToRead count))
    split_ifs
    · exact ⟨rfl, fun _ => rfl⟩
    · refine sends_ds_bind (run_utilReadWideString_questions _ _ _ _) rfl ?_
      rintro ⟨hr, buf⟩ flag
      dsimp only
      split
      · trivial
      · exact asksCount_newObject _ flag

/-- The format unit `i` rejects the count, or hands it on. -/
theorem sends_formatI_bind {r : Reader} (hr : r.isString = true) (i : ℤ) {g : CInt → β}
    {f : β → PyM PyObj}
    (h : ∀ count, Sends (outcome (f (g count)) a n) (sentCount r.isString count)) :
    Sends (outcome (Flagged.call ((formatI i).map g) >>= f) a n)
      (pythonSentCount r.isString i) := by
  rw [formatI, pythonSentCount, if_pos hr]
  rw [hr] at h
  split_ifs
  · exact h _
  · exact sends_raise _

theorem sends_searchMemory (start size : UINT64) (pattern : List UInt8) (patGran : ULONG) :
    Sends (outcome (searchMemory (.ok (start, size, pattern, patGran))) a n)
      (if Dialogue.left a n .getInterrupt = S_OK then none else some patGran) := by
  refine sends_checkAbort_bind (sends_ds_bind (q := .searchVirtual start size
    (pattern.take (BitVec.ofNat 32 pattern.length).toNat) patGran) rfl rfl ?_)
  rintro ⟨hr, matchAddr⟩ flag
  dsimp only
  split_ifs
  · trivial
  · trivial
  · trivial
  · exact asksCount_newObject _ flag

/-- What each function asks with. -/
theorem sends_counted (f : CountedFunction) (i : ℤ) :
    Sends (outcome (f.python i) a 0)
      (if f.Stopped a then none else pythonSentCount f.readsString i) := by
  cases f with
  | function r addr =>
    have hparse (hr : r.isString = true) := sends_formatI_bind (a := a) (n := 1) hr i
      (g := fun count => (addr, some count)) (f := fun args => read r args.1 (args.2.getD (-1)))
      fun count => sends_read r addr count
    rw [if_congr stopped_function rfl rfl]
    cases r with
    | bytes => exact sends_checkAbort_bind (sends_read .bytes addr (formatK i))
    | string => exact sends_checkAbort_bind (hparse rfl)
    | wideString => exact sends_checkAbort_bind (hparse rfl)
  | method r typObj =>
    have hparse (hr : r.isString = true) := sends_formatI_bind (a := a) (n := 1) hr i (g := some)
      (f := fun args => read r typObj.typedData.offset (args.getD (-1)))
      fun count => sends_read r typObj.typedData.offset count
    cases r with
    | bytes =>
      rw [if_congr stopped_method_bytes rfl rfl]
      exact sends_checkAbort_bind (sends_read .bytes _ (formatK i))
    | string =>
      rw [if_congr (stopped_method_string rfl) rfl rfl, ite_or]
      exact sends_checkAbort_bind (sends_checkTypedData_bind (hparse rfl))
    | wideString =>
      rw [if_congr (stopped_method_string rfl) rfl rfl, ite_or]
      exact sends_checkAbort_bind (sends_checkTypedData_bind (hparse rfl))
  | searchMemory start size pattern =>
    rw [if_congr stopped_searchMemory rfl rfl]
    exact sends_searchMemory start size pattern (formatK i)

end Python

/-! ## Exact counts -/

theorem setWidth_ofInt (i : ℤ) : (BitVec.ofInt 64 i).setWidth 32 = BitVec.ofInt 32 i := by
  apply BitVec.eq_of_toNat_eq
  rw [BitVec.toNat_setWidth, BitVec.toNat_ofInt, BitVec.toNat_ofInt]
  omega

/-- What the call asks with once nothing stops it. -/
def CountedCall.sent? (i : ℤ) : CountedCall → Option ULONG
  | .lua f => sentCount f.readsString (BitVec.ofInt 32 i)
  | .python f => pythonSentCount f.readsString i

theorem CountedCall.sends_run (c : CountedCall) (i : ℤ) :
    Sends ((c.run i).run a 0) (if c.function.Stopped a then none else c.sent? i) := by
  cases c with
  | lua f =>
    have hrun : ((CountedCall.lua f).run i).run a 0 =
        Lua.outcome (f.lua (BitVec.ofInt 64 i)) a 0 := by
      simp [CountedCall.run, Lua.outcome]
    have h := Lua.sends_counted (a := a) f (BitVec.ofInt 64 i)
    rw [setWidth_ofInt] at h
    rw [hrun]
    exact h
  | python f =>
    have hrun : ((CountedCall.python f).run i).run a 0 = Python.outcome (f.python i) a 0 := by
      simp [CountedCall.run, Python.outcome]
    rw [hrun]
    exact Python.sends_counted f i

theorem Sends.answered {r : Bool × List (Request ⊕ PyCall)} (h : Sends r count?) :
    r.1 = true ∨ countsOf r.2 ≠ [] := by
  cases count? with
  | none => exact .inl (h.raised rfl)
  | some count => exact .inr (by simp [h.counts])

/-- The count that the debugger is asked with, if it is asked, is the one that was passed. -/
theorem exactCount_iff_sent (c : CountedCall) (a : PyAnswers) (i : ℤ) :
    ExactCount c a i ↔
      c.function.Stopped a ∨ ∀ count ∈ c.sent? i, c.function.Means i count := by
  have hsends := c.sends_run (a := a) i
  have hexact : ExactCount c a i ↔
      ∀ count ∈ countsOf ((c.run i).run a 0).2, c.function.Means i count :=
    ⟨ExactCount.exact, fun h => ⟨hsends.answered, h⟩⟩
  rw [hexact, hsends.counts]
  by_cases hstop : c.function.Stopped a
  · simp [hstop]
  · simp [hstop]

/-! ## Which counts are exact -/

variable {i : ℤ} {f : CountedFunction}

theorem toNat_ofInt_eq_iff : ((BitVec.ofInt 32 i).toNat : ℤ) = i ↔ 0 ≤ i ∧ i < 2 ^ 32 := by
  rw [BitVec.toNat_ofInt]
  omega

/-- A count of bytes and a granularity are exact if they fit. -/
theorem means_sent_number (hf : f.readsString = false) :
    (∀ count ∈ sentCount false (BitVec.ofInt 32 i), f.Means i count) ↔ 0 ≤ i ∧ i < 2 ^ 32 := by
  have hsome : (∀ count ∈ some (BitVec.ofInt 32 i), f.Means i count) ↔
      f.Means i (BitVec.ofInt 32 i) := by
    simp
  rw [CountedFunction.Means, hf, if_neg Bool.false_ne_true, toNat_ofInt_eq_iff] at hsome
  exact hsome

/-- The conditions of `means_sent_string` in numbers. -/
theorem maxToRead_ofInt_iff :
    (badCount (BitVec.ofInt 32 i) = false →
      i < 0 ∧ (maxToRead (BitVec.ofInt 32 i)).toNat = MAX_READ_STRING_LEN ∨
        1 ≤ i ∧ i ≤ MAX_READ_STRING_LEN - 1 ∧ (maxToRead (BitVec.ofInt 32 i)).toNat = i) ↔
      (1 ≤ i % 2 ^ 32 ∧ i % 2 ^ 32 ≤ MAX_READ_STRING_LEN - 1 → i = i % 2 ^ 32) ∧
        (2 ^ 31 ≤ i % 2 ^ 32 → i < 0) := by
  have hmod : ((BitVec.ofInt 32 i).toNat : ℤ) = i % 2 ^ 32 := by
    rw [BitVec.toNat_ofInt]
    omega
  have hint := BitVec.toInt_eq_toNat_cond (BitVec.ofInt 32 i)
  have hzero : BitVec.ofInt 32 i = 0 ↔ (BitVec.ofInt 32 i).toNat = 0 := by
    rw [← BitVec.toNat_inj]
    rfl
  have hmax : (BitVec.ofNat 32 MAX_READ_STRING_LEN).toNat = 2048 := rfl
  have hlt := (BitVec.ofInt 32 i).isLt
  rw [← Bool.not_eq_true, badCount_iff, hzero, maxToRead]
  generalize BitVec.ofInt 32 i = count at *
  rw [show MAX_READ_STRING_LEN = 2048 from rfl] at *
  split_ifs
  · rw [hmax]
    omega
  · omega

/-- A count for a string is exact unless the cast makes a number in range of one that is not,
    or a negative number of one that is not. -/
theorem means_sent_string (hf : f.readsString = true) :
    (∀ count ∈ sentCount true (BitVec.ofInt 32 i), f.Means i count) ↔
      (1 ≤ i % 2 ^ 32 ∧ i % 2 ^ 32 ≤ MAX_READ_STRING_LEN - 1 → i = i % 2 ^ 32) ∧
        (2 ^ 31 ≤ i % 2 ^ 32 → i < 0) := by
  rw [← maxToRead_ofInt_iff, sentCount, if_pos rfl]
  simp only [CountedFunction.Means, hf, if_pos]
  cases badCount (BitVec.ofInt 32 i) with
  | true => simp
  | false => simp

/-- The format unit `i` lets no count for a string through that is not exact. -/
theorem means_pythonSent_string (hf : f.readsString = true) :
    ∀ count ∈ pythonSentCount true i, f.Means i count := by
  rw [pythonSentCount, if_pos rfl]
  split_ifs with hrange
  · have hmax : MAX_READ_STRING_LEN = 2048 := rfl
    exact (means_sent_string hf).2 ⟨by omega, by omega⟩
  · simp

theorem CountedCall.means_sent_iff (c : CountedCall) (i : ℤ) :
    (∀ count ∈ c.sent? i, c.function.Means i count) ↔ c.Fits i := by
  cases c with
  | lua f =>
    show (∀ count ∈ sentCount f.readsString (BitVec.ofInt 32 i), f.Means i count) ↔ _
    rw [CountedCall.Fits]
    cases hf : f.readsString with
    | false => exact means_sent_number hf
    | true => exact means_sent_string hf
  | python f =>
    show (∀ count ∈ pythonSentCount f.readsString i, f.Means i count) ↔ _
    rw [CountedCall.Fits]
    cases hf : f.readsString with
    | false => simpa [pythonSentCount] using means_sent_number hf
    | true => simpa using means_pythonSent_string hf

/-- A call raises an error or asks the debugger with just the count that was passed, iff it is
    stopped before or the count fits. -/
theorem exactCount_iff (c : CountedCall) (a : PyAnswers) (i : ℤ) :
    ExactCount c a i ↔ c.function.Stopped a ∨ c.Fits i := by
  rw [exactCount_iff_sent, CountedCall.means_sent_iff]

/-- `readString(addr, 2 ** 32 + 5)` in Lua asks for 5 bytes, and
    `read_bytes(addr, 2 ** 32 + 16)` in Python for 16. -/
theorem count_narrowed :
    ¬ ExactCount (.lua (.function .string 0x1000)) undisturbed (2 ^ 32 + 5) ∧
      ¬ ExactCount (.python (.function .bytes 0x1000)) undisturbed (2 ^ 32 + 16) := by
  constructor
  · intro h
    have hmeans := h.exact 5 (by rw [(CountedCall.sends_run _ _).counts]; decide)
    simp [CountedCall.function, CountedFunction.Means] at hmeans
  · intro h
    have hmeans := h.exact 16 (by rw [(CountedCall.sends_run _ _).counts]; decide)
    simp [CountedCall.function, CountedFunction.Means] at hmeans

end DbgScript
