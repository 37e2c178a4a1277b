import Mathlib.Data.Int.Notation
import Mathlib.Data.List.Basic
import Mathlib.Data.Nat.Notation

/-!
# The stack of the Lua C API

A host drives Lua through a stack of values. What the values are, and what Lua computes on
them, are parameters (`Interp`); what a call takes from the stack and puts there is given
here, as the Lua manual documents it. An index `-k` from the top is given as `k`.

A call that is not protected and raises an error does not return: it gives `none`.

* `stack_getglobal`, …: one lemma for each call that may raise an error, for its effect on
  the stack.
-/

namespace LuaApi

/-- What Lua computes on its values `V` and objects `H`. Where it gives `none`, it raises
    an error. -/
structure Interp (V H : Type) where
  string : List UInt8 → V
  toText : V → List UInt8
  newTable : H → V × H
  rawSet : V → ℤ → V → H → H
  getGlobal : String → H → Option (V × H)
  setGlobal : String → V → H → Option H
  getField : V → String → H → Option (V × H)
  setField : V → String → V → H → Option H
  concat : V → V → H → Option (V × H)

/-- The stack, from the top, and the objects. -/
structure State (V H : Type) where
  stack : List V
  heap : H

/-- The code of an error; `LUA_OK` is 0. -/
abbrev ErrorCode := { err : BitVec 32 // err ≠ 0 }

variable {V H : Type}

def State.height (L : State V H) : ℕ := L.stack.length

/-- The value at the index `-k`. -/
def State.fromTop (L : State V H) (k : ℕ) : Option V := L.stack[k - 1]?

/-! ## Calls -/

/-- `lua_pop(L, n)`. -/
def pop (n : ℕ) (L : State V H) : State V H := { L with stack := L.stack.drop n }

/-- `lua_remove(L, -k)`. -/
def remove (k : ℕ) (L : State V H) : State V H := { L with stack := L.stack.eraseIdx (k - 1) }

/-- `lua_insert(L, -k)`: the top is moved to that index. -/
def insert (k : ℕ) (L : State V H) : State V H :=
  match L.stack with
  | [] => L
  | v :: rest => { L with stack := rest.take (k - 1) ++ v :: rest.drop (k - 1) }

variable (M : Interp V H)

/-- `lua_pushstring(L, s)`. -/
def pushstring (s : List UInt8) (L : State V H) : State V H :=
  { L with stack := M.string s :: L.stack }

/-- `lua_tostring(L, -k)`. -/
def tostring (k : ℕ) (L : State V H) : List UInt8 := ((L.fromTop k).map M.toText).getD []

/-- `lua_createtable(L, narr, nrec)`. -/
def createtable (L : State V H) : State V H :=
  let (t, heap) := M.newTable L.heap
  ⟨t :: L.stack, heap⟩

/-- `lua_rawseti(L, -k, i)`: the value is on the top, and is popped. -/
def rawseti (k : ℕ) (i : ℤ) (L : State V H) : State V H :=
  match L.fromTop k, L.stack with
  | some t, v :: rest => ⟨rest, M.rawSet t i v L.heap⟩
  | _, _ => L

/-- `lua_getglobal(L, name)`. -/
def getglobal (name : String) (L : State V H) : Option (State V H) := do
  let (v, heap) ← M.getGlobal name L.heap
  return ⟨v :: L.stack, heap⟩

/-- `lua_setglobal(L, name)`. -/
def setglobal (name : String) (L : State V H) : Option (State V H) :=
  match L.stack with
  | [] => none
  | v :: rest => do
    let heap ← M.setGlobal name v L.heap
    return ⟨rest, heap⟩

/-- `lua_getfield(L, -k, name)`. -/
def getfield (k : ℕ) (name : String) (L : State V H) : Option (State V H) := do
  let t ← L.fromTop k
  let (v, heap) ← M.getField t name L.heap
  return ⟨v :: L.stack, heap⟩

/-- `lua_setfield(L, -k, name)`: the value is on the top, and is popped. -/
def setfield (k : ℕ) (name : String) (L : State V H) : Option (State V H) :=
  match L.stack with
  | [] => none
  | v :: rest => do
    let t ← L.fromTop k
    let heap ← M.setField t name v L.heap
    return ⟨rest, heap⟩

/-- `lua_concat(L, 2)`. -/
def concat (L : State V H) : Option (State V H) :=
  match L.stack with
  | w :: v :: rest => do
    let (vw, heap) ← M.concat v w L.heap
    return ⟨vw :: rest, heap⟩
  | _ => none

/-- `luaL_requiref(L, name, open, glb)`: the module is pushed. -/
def requiref (openLib : String → H → V × H) (name : String) (L : State V H) : State V H :=
  let (v, heap) := openLib name L.heap
  ⟨v :: L.stack, heap⟩

/-- `luaL_loadfile` and `luaL_loadstring`: the chunk or the error message is pushed, and the
    code is returned. -/
def load (compile : H → Except (ErrorCode × V) V × H) (L : State V H) : State V H × BitVec 32 :=
  match compile L.heap with
  | (.ok chunk, heap) => (⟨chunk :: L.stack, heap⟩, 0)
  | (.error (err, message), heap) => (⟨message :: L.stack, heap⟩, err.1)

/-- `lua_pcall(L, 0, 0, -msgh)`, without a message handler if `msgh` is 0: the function is
    popped, and the error message is pushed if there is one. -/
def pcall (call : V → Option V → H → Option (ErrorCode × V) × H) (msgh : ℕ) (L : State V H) :
    State V H × BitVec 32 :=
  match L.stack with
  | [] => (L, 0)
  | f :: rest =>
    match call f (if msgh = 0 then none else L.fromTop msgh) L.heap with
    | (none, heap) => (⟨rest, heap⟩, 0)
    | (some (err, message), heap) => (⟨message :: rest, heap⟩, err.1)

/-! ## What the calls do to the stack -/

section Stack

variable {M} {L L' : State V H} {v w : V} {s : List V} {k : ℕ} {name : String}

@[simp] theorem stack_pop (n : ℕ) (L : State V H) : (pop n L).stack = L.stack.drop n := rfl

@[simp] theorem stack_remove (k : ℕ) (L : State V H) :
    (remove k L).stack = L.stack.eraseIdx (k - 1) := rfl

@[simp] theorem stack_pushstring (text : List UInt8) (L : State V H) :
    (pushstring M text L).stack = M.string text :: L.stack := rfl

theorem stack_createtable (L : State V H) : ∃ t, (createtable M L).stack = t :: L.stack :=
  ⟨_, rfl⟩

theorem stack_insert (h : L.stack = v :: s) :
    (insert k L).stack = s.take (k - 1) ++ v :: s.drop (k - 1) := by
  simp [insert, h]

theorem stack_rawseti (h : L.stack = v :: s) (hk : k - 1 < L.stack.length) (i : ℤ) :
    (rawseti M k i L).stack = s := by
  rw [rawseti, State.fromTop, List.getElem?_eq_getElem hk]
  simp [h]

theorem stack_getglobal (h : getglobal M name L = some L') : ∃ v, L'.stack = v :: L.stack := by
  obtain ⟨⟨v, heap⟩, -, hL'⟩ := Option.bind_eq_some_iff.1 h
  exact ⟨v, (Option.some.inj hL') ▸ rfl⟩

theorem stack_setglobal (h : setglobal M name L = some L') (hs : L.stack = v :: s) :
    L'.stack = s := by
  simp only [setglobal, hs] at h
  obtain ⟨heap, -, hL'⟩ := Option.bind_eq_some_iff.1 h
  exact (Option.some.inj hL') ▸ rfl

theorem stack_getfield (h : getfield M k name L = some L') : ∃ v, L'.stack = v :: L.stack := by
  obtain ⟨t, -, hfield⟩ := Option.bind_eq_some_iff.1 h
  obtain ⟨⟨v, heap⟩, -, hL'⟩ := Option.bind_eq_some_iff.1 hfield
  exact ⟨v, (Option.some.inj hL') ▸ rfl⟩

theorem stack_setfield (h : setfield M k name L = some L') (hs : L.stack = v :: s) :
    L'.stack = s := by
  simp only [setfield, hs] at h
  obtain ⟨t, -, hfield⟩ := Option.bind_eq_some_iff.1 h
  obtain ⟨heap, -, hL'⟩ := Option.bind_eq_some_iff.1 hfield
  exact (Option.some.inj hL') ▸ rfl

theorem stack_concat (h : concat M L = some L') (hs : L.stack = w :: v :: s) :
    ∃ u, L'.stack = u :: s := by
  simp only [concat, hs] at h
  obtain ⟨⟨u, heap⟩, -, hL'⟩ := Option.bind_eq_some_iff.1 h
  exact ⟨u, (Option.some.inj hL') ▸ rfl⟩

/-- Loading pushes one value, whatever becomes of it. -/
theorem stack_load (compile : H → Except (ErrorCode × V) V × H) (L : State V H) :
    ∃ v, (load compile L).1.stack = v :: L.stack := by
  unfold load
  split
  · exact ⟨_, rfl⟩
  · exact ⟨_, rfl⟩

/-- A protected call pops the function, and pushes a message exactly if it fails. -/
theorem stack_pcall (call : V → Option V → H → Option (ErrorCode × V) × H) (msgh : ℕ)
    (hs : L.stack = v :: s) :
    ((pcall call msgh L).2 = 0#32 ∧ (pcall call msgh L).1.stack = s) ∨
      ((pcall call msgh L).2 ≠ 0#32 ∧ ∃ message, (pcall call msgh L).1.stack = message :: s) := by
  simp only [pcall, hs]
  split
  · exact .inl ⟨rfl, rfl⟩
  · rename_i err message heap _
    exact .inr ⟨err.2, message, rfl⟩

end Stack

end LuaApi
