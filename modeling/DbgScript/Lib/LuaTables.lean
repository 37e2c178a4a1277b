import DbgScript.Lib.LuaApi
import Mathlib.Logic.Function.Basic

/-!
# Lua tables behind the C API

Tables, userdata and their metatables, and the calls of the Lua C API that look into them,
as the Lua manual documents them. A table is a map from keys to values in which an absent
key has the value nil; no table has a metatable of its own. Indices count from the bottom of
the stack if they are positive, and from its top if they are negative.

* `setfield_table`, `gettable_table`, …: what the calls do where a table is expected and
  there is one.
* `Extends`: what allocation and writes to other tables leave alone.
-/

namespace LuaTables

open LuaApi (State)

/-- A value. The C functions are `F`; `other` is one of the types that nothing looks into. -/
inductive Value (F : Type) where
  | nil
  | boolean (b : Bool)
  | integer (i : BitVec 64)
  | string (s : List UInt8)
  | table (t : ℕ)
  | function (f : F)
  | userdata (u : ℕ)
  | other (id : ℕ)
  deriving DecidableEq

/-- The tables, and the userdata with contents `U`. Those from the next ones on are free:
    the memory of a userdatum has contents before it is written to. The registry has the
    metatables by name. -/
structure Heap (F U : Type) where
  tables : ℕ → Value F → Value F
  nextTable : ℕ
  userdata : ℕ → U
  metatable : ℕ → Option ℕ
  nextUserdata : ℕ
  registry : List UInt8 → Option ℕ

/-- A frame: its stack, from the top, and the heap. -/
abbrev CallFrame (F U : Type) := State (Value F) (Heap F U)

variable {F U : Type}

/-! ## The heap -/

section Heap

variable [DecidableEq F] (h : Heap F U)

/-- Assignment to an entry of a table. -/
def Heap.set (t : ℕ) (key v : Value F) : Heap F U :=
  { h with tables := Function.update h.tables t (Function.update (h.tables t) key v) }

@[simp] theorem Heap.set_self (t : ℕ) (key v : Value F) : (h.set t key v).tables t key = v := by
  simp [Heap.set]

theorem Heap.set_of_ne {t t' : ℕ} {key key' : Value F} (hne : t' = t → key' ≠ key) (v : Value F) :
    (h.set t key v).tables t' key' = h.tables t' key' := by
  by_cases ht : t' = t
  · subst ht
    simp [Heap.set, hne rfl]
  · simp [Heap.set, ht]

@[simp] theorem Heap.set_nextTable (t : ℕ) (key v : Value F) :
    (h.set t key v).nextTable = h.nextTable := rfl

omit [DecidableEq F] in
/-- The heap with one more table, an empty one. -/
def Heap.newTable : Heap F U :=
  { h with
    tables := Function.update h.tables h.nextTable fun _ => .nil
    nextTable := h.nextTable + 1 }

/-- The heap with one more userdatum. -/
def Heap.newUserdata (content : U) (metatable : Option ℕ) : Heap F U :=
  { h with
    userdata := Function.update h.userdata h.nextUserdata content
    metatable := Function.update h.metatable h.nextUserdata metatable
    nextUserdata := h.nextUserdata + 1 }

/-- The tables of `h` are in `h'` as they were. -/
structure Extends (h h' : Heap F U) : Prop where
  nextTable : h.nextTable ≤ h'.nextTable
  tables : ∀ t < h.nextTable, h'.tables t = h.tables t

omit [DecidableEq F] in
theorem Extends.refl : Extends h h := ⟨Nat.le_refl _, fun _ _ => rfl⟩

end Heap

/-! ## Calls -/

section Calls

variable (L : CallFrame F U)

/-- The value at an index; at one beyond the stack there is none, which is taken for nil. -/
def valueAt (i : ℤ) : Value F :=
  (if 0 < i then L.stack[L.stack.length - i.toNat]? else L.stack[(-i).toNat - 1]?).getD .nil

/-- `lua_pushnil(L)`, `lua_pushcfunction(L, f)`. -/
def push (v : Value F) : CallFrame F U := ⟨v :: L.stack, L.heap⟩

/-- `lua_pushvalue(L, i)`. -/
def pushvalue (i : ℤ) : CallFrame F U := push L (valueAt L i)

/-- `lua_getmetatable(L, i)`: nothing is pushed if there is no metatable. -/
def getmetatable (i : ℤ) : CallFrame F U :=
  match valueAt L i with
  | .userdata u =>
    match L.heap.metatable u with
    | some mt => push L (.table mt)
    | none => L
  | _ => L

/-- `lua_createtable(L, narr, nrec)`. -/
def createtable : CallFrame F U := ⟨.table L.heap.nextTable :: L.stack, L.heap.newTable⟩

/-- `lua_getfield(L, i, name)`: only a table can be indexed. -/
def getfield (i : ℤ) (name : List UInt8) : Option (CallFrame F U) :=
  match valueAt L i with
  | .table t => some (push L (L.heap.tables t (.string name)))
  | _ => none

/-- `lua_gettable(L, i)`: the key on the top is replaced by the value. -/
def gettable (i : ℤ) : Option (CallFrame F U) :=
  match valueAt L i, L.stack with
  | .table t, key :: rest => some ⟨L.heap.tables t key :: rest, L.heap⟩
  | _, _ => none

/-- `lua_setfield(L, i, name)`: the value is on the top, and is popped. -/
def setfield [DecidableEq F] (i : ℤ) (name : List UInt8) : Option (CallFrame F U) :=
  match valueAt L i, L.stack with
  | .table t, v :: rest => some ⟨rest, L.heap.set t (.string name) v⟩
  | _, _ => none

/-- `luaL_checkudata(L, i, name)`: the userdatum, if it has the metatable of that name. -/
def checkudata (i : ℤ) (name : List UInt8) : Option ℕ :=
  match valueAt L i with
  | .userdata u =>
    if (L.heap.metatable u).isSome ∧ L.heap.metatable u = L.heap.registry name then some u else none
  | _ => none

/-- `lua_call(L, n, 1)` of the function `callee`, which is below its arguments and runs in a
    frame of its own: one result is pushed in their place. -/
def call {m : Type → Type} [Monad m] (callee : CallFrame F U → m (Value F × Heap F U)) (n : ℕ) :
    m (CallFrame F U) := do
  let (v, heap) ← callee ⟨L.stack.take n, L.heap⟩
  return ⟨v :: L.stack.drop (n + 1), heap⟩

end Calls

/-! ## What the calls do -/

section Effects

variable {v key : Value F} {s : List (Value F)} {h : Heap F U} {t : ℕ}
  {name : List UInt8}

@[simp] theorem valueAt_neg_one : valueAt ⟨v :: s, h⟩ (-1) = v := rfl

theorem getfield_table : getfield ⟨.table t :: s, h⟩ (-1) name =
    some ⟨h.tables t (.string name) :: .table t :: s, h⟩ := rfl

theorem gettable_table : gettable ⟨key :: .table t :: s, h⟩ (-2) =
    some ⟨h.tables t key :: .table t :: s, h⟩ := rfl

theorem setfield_table [DecidableEq F] : setfield ⟨v :: .table t :: s, h⟩ (-2) name =
    some ⟨.table t :: s, h.set t (.string name) v⟩ := rfl

end Effects

end LuaTables
