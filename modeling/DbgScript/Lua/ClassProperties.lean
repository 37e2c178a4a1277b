import DbgScript.Lib.LuaTables
import DbgScript.Lua.TypedObject

/-!
# Class properties of Lua objects

`LuaSetProperties` (src/luaprov/classprop.cpp) stores a table of getters and setters in a
metatable, and `LuaClassPropIndexer` looks a key up in the metatable and then in that table.
`TypedObject_index` (src/luaprov/typedobject.cpp) calls it before it asks the debugger for a
field. What calling an accessor does is a parameter, `invoke`.

* `luaBuildPropertyTable_spec`: the loop that builds the table, with the accessors of every
  property and nothing else in it.
* `luaClassPropIndexer_eq`: the two lookups, once the table has been stored.
* `key_resolution`: a metatable entry wins over a property, and a property over a field,
  which the three ways to write an access request alike.
* `typedObjectIndex_placed`: on an object of the heap, `TypedObject_index` gets an element or
  a field as it does of the object alone (`DbgScript.Lua.TypedObject`).
-/

namespace DbgScript.Lua

open CharBuf (CStr)
open LuaApi (State pop)
open LuaTables

/-! ## Class properties -/

def LUA_PROPERTIES_KEY : List CHAR := ansi "__properties"
def CLASSPROP_GET : List CHAR := ansi "get"
def CLASSPROP_SET : List CHAR := ansi "set"

/-- `LuaClassProperty` (src/luaprov/classprop.h:23-40); an accessor may be null. -/
structure LuaClassProperty (F : Type) where
  name : AnsiStr
  get : Option F
  set : Option F

section Properties

variable {F U : Type} [DecidableEq F]

/-- The accessor, or nil. -/
def pushAccessor (f : Option F) (L : CallFrame F U) : CallFrame F U :=
  match f with
  | none => push L .nil
  | some f => push L (.function f)

/-- One turn of the loop of `LuaBuildPropertyTable` (src/luaprov/classprop.cpp:22-58). -/
def setProperty (prop : LuaClassProperty F) (L : CallFrame F U) : Option (CallFrame F U) := do
  let L := createtable L
  let L ← setfield (pushAccessor prop.get L) (-2) CLASSPROP_GET
  let L ← setfield (pushAccessor prop.set L) (-2) CLASSPROP_SET
  setfield L (-2) prop.name.chars

/-- `LuaBuildPropertyTable(L, props, count)` (src/luaprov/classprop.cpp:10-59). -/
def luaBuildPropertyTable (props : List (LuaClassProperty F)) (L : CallFrame F U) :
    Option (CallFrame F U) :=
  props.foldlM (fun L prop => setProperty prop L) (createtable L)

/-- `LuaSetProperties(L, props, count)` (src/luaprov/classprop.cpp:83-96). -/
def luaSetProperties (props : List (LuaClassProperty F)) (L : CallFrame F U) :
    Option (CallFrame F U) := do
  let L ← luaBuildPropertyTable props L
  setfield L (-2) LUA_PROPERTIES_KEY

/-- `return 1`. -/
def returnTop (L : CallFrame F U) : LuaM (Value F × Heap F U) := return (valueAt L (-1), L.heap)

/-- Lua's own error where something that is no table is indexed. -/
def indexing {α : Type} : Option α → LuaM α
  | none => raise "attempt to index a value" []
  | some a => return a

/-- The error of `luaL_checktype(L, -1, t)`. -/
def badTop {α : Type} : LuaM α := raise "bad argument #%d" [.num (-1)]

def noAccessor {α : Type} (key : List CHAR) : LuaM α :=
  raise "no accessor '%s' on property '%s'." [.str CLASSPROP_GET, .str (cstrOfChars key).chars]

/-- `LuaClassPropIndexer` (src/luaprov/classprop.cpp:125-209). -/
def luaClassPropIndexer (invoke : F → CallFrame F U → LuaM (Value F × Heap F U))
    (L : CallFrame F U) : LuaM (Value F × Heap F U) :=
  if L.stack.length < 1 then Throws.throw (.badArgument 1)
  else
    match valueAt L 2 with
    | .string key => do
      let L ← indexing (gettable (pushvalue (getmetatable L 1) 2) (-2))
      if valueAt L (-1) ≠ .nil then returnTop L
      else
        let L ← indexing (getfield (pop 1 L) (-1) LUA_PROPERTIES_KEY)
        match valueAt L (-1) with
        | .table _ => do
          let L ← indexing (gettable (pushvalue L 2) (-2))
          match valueAt L (-1) with
          | .nil => returnTop L
          | .table _ => do
            let L ← indexing (getfield L (-1) CLASSPROP_GET)
            match valueAt L (-1) with
            | .nil => noAccessor key
            | .function f => returnTop (← call (pushvalue L 1) (invoke f) 1)
            | _ => badTop
          | _ => badTop
        | _ => badTop
    | _ => Throws.throw (.badArgument 2)

end Properties

/-! ## Typed objects -/

/-- `TYPED_OBJECT_METATABLE` (src/luaprov/typedobject.cpp:19). -/
def TYPED_OBJECT_METATABLE : List CHAR := ansi "dbgscript.TypedObject"

/-- The C functions: those that look keys up, and any others. -/
inductive LuaFunction (G : Type) where
  | luaClassPropIndexer
  | typedObjectIndex
  | typedObjectGetfield
  | native (g : G)
  deriving DecidableEq

/-- Frames of a heap whose userdata are typed objects. -/
abbrev ObjectFrame (G : Type) := CallFrame (LuaFunction G) DbgScriptTypedObject
abbrev ObjectHeap (G : Type) := Heap (LuaFunction G) DbgScriptTypedObject
abbrev LuaObject (G : Type) := Value (LuaFunction G)

section Objects

variable {G : Type}

/-- `luaL_checkudata(L, 1, TYPED_OBJECT_METATABLE)`. -/
def checkObject (L : ObjectFrame G) : LuaM ℕ :=
  match checkudata L 1 TYPED_OBJECT_METATABLE with
  | none => Throws.throw (.badArgument 1)
  | some u => return u

/-- `allocSubTypedObject` and `return 1`: the object is a new userdatum. -/
def pushSubTypedObject (name : AnsiStr) (typedData : DebugTypedData) (heap : ObjectHeap G) :
    LuaM (LuaObject G × ObjectHeap G) := do
  let typObj ← allocSubTypedObject (heap.userdata heap.nextUserdata) name typedData
  return (.userdata heap.nextUserdata,
    heap.newUserdata typObj (heap.registry TYPED_OBJECT_METATABLE))

/-- The field that the key names, as a C string, of the object `u`
    (src/luaprov/typedobject.cpp:203-221). -/
def fieldOf (u : ℕ) (key : List CHAR) (heap : ObjectHeap G) :
    LuaM (LuaObject G × ObjectHeap G) := do
  let fieldName := cstrOfChars key
  let (hr, typedData) ← Throws.lift (dsTypedObjectGetField (heap.userdata u) fieldName true)
  if FAILED hr then raise "DsTypedObjectGetField failed. Error 0x%08x." [.hr hr]
  else pushSubTypedObject fieldName typedData heap

/-- The object whose field is sought: `typObj`, or else the first argument, which is checked
    (src/luaprov/typedobject.cpp:188-197). -/
def receiver (typObj : Option ℕ) (L : ObjectFrame G) : LuaM ℕ :=
  match typObj with
  | some u => return u
  | none => do
    let u ← checkObject L
    checkTypedData (L.heap.userdata u)
    return u

/-- `getFieldHelper(L, typObj)` (src/luaprov/typedobject.cpp:180-222). -/
def getFieldHelper (typObj : Option ℕ) (L : ObjectFrame G) :
    LuaM (LuaObject G × ObjectHeap G) := do
  checkAbort
  let u ← receiver typObj L
  match valueAt L 2 with
  | .string key => fieldOf u key L.heap
  | _ => Throws.throw (.badArgument 2)

namespace Api

/-- `TypedObject_getfield` (src/luaprov/typedobject.cpp:814-817). -/
def typedObjectGetfield (L : ObjectFrame G) : LuaM (LuaObject G × ObjectHeap G) :=
  getFieldHelper none L

variable [DecidableEq G]
  (invoke : LuaFunction G → ObjectFrame G → LuaM (LuaObject G × ObjectHeap G))

/-- `TypedObject_index` (src/luaprov/typedobject.cpp:247-325). -/
def typedObjectIndex (L : ObjectFrame G) : LuaM (LuaObject G × ObjectHeap G) := do
  checkAbort
  let u ← checkObject L
  match valueAt L 2 with
  | .integer i =>
    checkTypedData (L.heap.userdata u)
    let (hr, typedData) ←
      Throws.lift (dsTypedObjectGetArrayElement (L.heap.userdata u) i)
    if FAILED hr then raise "DsTypedObjectGetArrayElement failed. Error 0x%08x." [.hr hr]
    else pushSubTypedObject (ansiStr "<arr-elem>") typedData L.heap
  | .string _ =>
    let L := pushvalue (pushvalue (push L (.function .luaClassPropIndexer)) 1) 2
    let L ← call L (luaClassPropIndexer invoke) 2
    if valueAt L (-1) ≠ .nil then returnTop L
    else
      checkTypedData (L.heap.userdata u)
      getFieldHelper (some u) L
  | _ => Throws.throw (.badArgument 2)

/-! ## Scripts -/

/-- A script calls a function value. -/
def callValue (f : LuaObject G) (args : List (LuaObject G)) (heap : ObjectHeap G) :
    LuaM (LuaObject G × ObjectHeap G) :=
  let L : ObjectFrame G := ⟨args.reverse, heap⟩
  match f with
  | .function .luaClassPropIndexer => luaClassPropIndexer invoke L
  | .function .typedObjectIndex => typedObjectIndex invoke L
  | .function .typedObjectGetfield => typedObjectGetfield L
  | .function (.native g) => invoke (.native g) L
  | _ => raise "attempt to call a value" []

/-- A script indexes an object: Lua calls the `__index` entry of its metatable, or looks
    into it if it is a table. -/
def index (u : ℕ) (key : LuaObject G) (heap : ObjectHeap G) :
    LuaM (LuaObject G × ObjectHeap G) :=
  match heap.metatable u with
  | none => raise "attempt to index a value" []
  | some mt =>
    match heap.tables mt (.string (ansi "__index")) with
    | .table t => return (heap.tables t key, heap)
    | handler => callValue invoke handler [.userdata u, key] heap

/-- The ways to write an access to an object: `obj.k`, `obj['k']` and `obj:f('k')`. -/
inductive Access where
  | dot
  | bracket
  | method

def Access.eval (u : ℕ) (key : List CHAR) (heap : ObjectHeap G) :
    Access → LuaM (LuaObject G × ObjectHeap G)
  | .dot | .bracket => index invoke u (.string key) heap
  | .method => do
    let (f, heap) ← index invoke u (.string (ansi "f")) heap
    callValue invoke f [.userdata u, .string key] heap

end Api

end Objects

/-! ## Specification -/

section Specification

variable {F U : Type} {G : Type}

/-- The getter registered for a key. -/
def getter? (props : List (LuaClassProperty F)) (key : List CHAR) : Option F :=
  (props.find? fun prop => prop.name.chars = key).bind LuaClassProperty.get

/-- Everything but the tables. -/
def untouched (heap : Heap F U) := (heap.userdata, heap.metatable, heap.nextUserdata, heap.registry)

/-- Whatever it returns is not nil. -/
def NeverNil (f : ObjectFrame G → LuaM (LuaObject G × ObjectHeap G)) : Prop :=
  ∀ L, (f L).attempt.Leaves fun r => ∀ v heap, r = .ok (v, heap) → v ≠ .nil

/-- The userdatum is a typed object with valid typed data, and its metatable is `mt`. -/
structure IsTypedObject (heap : ObjectHeap G) (mt u : ℕ) : Prop where
  metatable : heap.metatable u = some mt
  registered : heap.registry TYPED_OBJECT_METATABLE = some mt
  valid : (heap.userdata u).typedDataValid = true

/-- A look for the user's interrupt. -/
def poll : LuaM Unit := do
  if (← Throws.lift (ask .getInterrupt)) = S_OK then raise "execution interrupted." []

/-- The object of a field, on the block `mem` of memory. -/
def fieldObject (mem : DbgScriptTypedObject) (name typeName moduleName : List CHAR)
    (field : DebugTypedData) : DbgScriptTypedObject :=
  { mem with
    name := mem.name.cchCopy name
    typeName := mem.typeName.cchCopy typeName
    moduleName := mem.moduleName.cchCopy moduleName
    typedData := field
    typedDataValid := true
    stored := .all
    valueBytes := 0 }

/-- The field in a new userdatum with the metatable of typed objects, unless the names of its
    type or module cannot be had. -/
def newField (name : AnsiStr) (field : DebugTypedData) (heap : ObjectHeap G) :
    LuaM (LuaObject G × ObjectHeap G) := do
  poll
  match ← Throws.lift (ask (.getCachedTypeName ⟨field.typeId, field.modBase⟩)) with
  | none =>
    Throws.lift (ask (.output "Error: Failed to get type name.\n" []))
    raise "DsWrapTypedData failed. Error 0x%08x." [.hr E_FAIL]
  | some typeName =>
    match ← Throws.lift (ask (.getCachedModuleName field.modBase)) with
    | none =>
      Throws.lift (ask (.output "Error: Failed to get module name.\n" []))
      raise "DsWrapTypedData failed. Error 0x%08x." [.hr E_FAIL]
    | some moduleName =>
      return (.userdata heap.nextUserdata, heap.newUserdata
        (fieldObject (heap.userdata heap.nextUserdata) name.chars typeName.chars moduleName.chars
          field) (heap.registry TYPED_OBJECT_METATABLE))

/-- What the debugger calls the field of that name, of the typed data of `u`. -/
def debuggerField (u : ℕ) (name : AnsiStr) (heap : ObjectHeap G) :
    LuaM (LuaObject G × ObjectHeap G) := do
  let (hr, field) ← Throws.lift (ask (.getField (heap.userdata u).typedData name))
  if hr = E_NOINTERFACE then
    Throws.lift (ask (.output "Error: No such field '%s'.\n" [.str name.chars]))
    raise "DsTypedObjectGetField failed. Error 0x%08x." [.hr hr]
  else if FAILED hr then
    Throws.lift (ask
      (.output "Error: EXT_TDOP_GET_FIELD operation failed. Error 0x%08x.\n" [.hr hr]))
    raise "DsTypedObjectGetField failed. Error 0x%08x." [.hr hr]
  else newField name field heap

/-- How a key is meant to be resolved: an entry of the metatable, the result of the getter
    registered for it, or the debugger's field of that name, as a C string. -/
def resolved [DecidableEq G]
    (invoke : LuaFunction G → ObjectFrame G → LuaM (LuaObject G × ObjectHeap G))
    (props : List (LuaClassProperty (LuaFunction G))) (mt u : ℕ) (key : List CHAR)
    (heap : ObjectHeap G) : LuaM (LuaObject G × ObjectHeap G) := do
  poll
  if heap.tables mt (.string key) ≠ .nil then return (heap.tables mt (.string key), heap)
  else
    match getter? props key with
    | some f => invoke f ⟨[.userdata u], heap⟩
    | none => do
      poll
      debuggerField u (cstrOfChars key) heap

/-- The field is requested, after two looks for an interrupt. -/
def fieldRequest (u : ℕ) (key : List CHAR) (heap : ObjectHeap G) :
    LuaM (LuaObject G × ObjectHeap G) := do
  poll
  poll
  debuggerField u (cstrOfChars key) heap

/-- The methods that serve accesses are registered. -/
structure ServesAccess (heap : ObjectHeap G) (mt : ℕ) : Prop where
  index : heap.tables mt (.string (ansi "__index")) = .function .typedObjectIndex
  method : heap.tables mt (.string (ansi "f")) = .function .typedObjectGetfield

end Specification

/-! ## The property table -/

section Build

variable {F U : Type} [DecidableEq F]

/-- What is stored for an accessor. -/
def accessor : Option F → Value F
  | none => .nil
  | some f => .function f

omit [DecidableEq F] in
theorem pushAccessor_eq (f : Option F) (L : CallFrame F U) :
    pushAccessor f L = push L (accessor f) := by
  cases f <;> rfl

/-- The table `pt` has the accessors of every property, and nothing else. -/
structure Properties (heap : Heap F U) (pt : ℕ) (props : List (LuaClassProperty F)) : Prop where
  accessors : ∀ prop ∈ props, ∃ t, heap.tables pt (.string prop.name.chars) = .table t ∧
    t < heap.nextTable ∧ pt < t ∧ heap.tables t (.string CLASSPROP_GET) = accessor prop.get ∧
    heap.tables t (.string CLASSPROP_SET) = accessor prop.set
  others : ∀ key, (∀ prop ∈ props, key ≠ .string prop.name.chars) → heap.tables pt key = .nil

/-- The heap after one turn of the loop. -/
def addProperty (prop : LuaClassProperty F) (pt : ℕ) (heap : Heap F U) : Heap F U :=
  (((heap.newTable.set heap.nextTable (.string CLASSPROP_GET) (accessor prop.get)).set
    heap.nextTable (.string CLASSPROP_SET) (accessor prop.set)).set pt
      (.string prop.name.chars) (.table heap.nextTable))

theorem setProperty_eq (prop : LuaClassProperty F) (pt : ℕ) (s : List (Value F)) (heap : Heap F U) :
    setProperty prop ⟨.table pt :: s, heap⟩ = some ⟨.table pt :: s, addProperty prop pt heap⟩ := by
  simp only [setProperty, createtable, pushAccessor_eq, push, setfield_table, Option.bind_eq_bind,
    Option.bind_some]
  rfl

variable {prop : LuaClassProperty F} {props done : List (LuaClassProperty F)} {pt t : ℕ}
  {heap : Heap F U} {key : Value F}

/-- A turn of the loop leaves the other tables alone. -/
theorem addProperty_tables (ht : t < heap.nextTable) (hne : t ≠ pt) :
    (addProperty prop pt heap).tables t = heap.tables t := by
  simp [addProperty, Heap.set, Heap.newTable, hne, Nat.ne_of_lt ht]

theorem addProperty_entry (hpt : pt < heap.nextTable) :
    (addProperty prop pt heap).tables pt =
      Function.update (heap.tables pt) (.string prop.name.chars) (.table heap.nextTable) := by
  simp [addProperty, Heap.set, Heap.newTable, Nat.ne_of_lt hpt]

theorem addProperty_new (prop : LuaClassProperty F) (hpt : pt < heap.nextTable) :
    (addProperty prop pt heap).tables heap.nextTable (.string CLASSPROP_GET) = accessor prop.get ∧
      (addProperty prop pt heap).tables heap.nextTable (.string CLASSPROP_SET) =
        accessor prop.set := by
  have hne : heap.nextTable ≠ pt := (Nat.ne_of_lt hpt).symm
  have hkeys : (Value.string CLASSPROP_GET : Value F) ≠ .string CLASSPROP_SET := by
    rw [Ne, Value.string.injEq]
    decide
  constructor <;> simp [addProperty, Heap.set, hne, hkeys]

/-- A property of a new name is added to those that are there. -/
theorem properties_addProperty (h : Properties heap pt done) (hpt : pt < heap.nextTable)
    (hnew : ∀ q ∈ done, prop.name.chars ≠ q.name.chars) :
    Properties (addProperty prop pt heap) pt (done ++ [prop]) := by
  constructor
  · intro q hq
    rw [addProperty_entry hpt]
    rcases List.mem_append.1 hq with hq | hq
    · obtain ⟨t, hentry, hlt, hpos, hget, hset⟩ := h.accessors q hq
      refine ⟨t, ?_, Nat.lt_succ_of_lt hlt, hpos, ?_, ?_⟩
      · rw [Function.update_of_ne, hentry]
        rw [Ne, Value.string.injEq]
        exact (hnew q hq).symm
      · rw [addProperty_tables hlt (Nat.ne_of_gt hpos), hget]
      · rw [addProperty_tables hlt (Nat.ne_of_gt hpos), hset]
    · obtain rfl := List.mem_singleton.1 hq
      obtain ⟨hget, hset⟩ := addProperty_new q hpt
      exact ⟨heap.nextTable, by simp, Nat.lt_succ_self _, hpt, hget, hset⟩
  · intro key hkey
    rw [addProperty_entry hpt, Function.update_of_ne]
    · exact h.others key fun q hq => hkey q (List.mem_append_left _ hq)
    · exact hkey prop (by simp)

/-- The loop, with the properties `done` in the table at its start. -/
theorem foldlM_setProperty (props : List (LuaClassProperty F)) (h : Properties heap pt done)
    (hpt : pt < heap.nextTable)
    (hnames : ((done ++ props).map fun prop => prop.name.chars).Nodup) (s : List (Value F)) :
    ∃ heap', props.foldlM (fun L prop => setProperty prop L) ⟨.table pt :: s, heap⟩ =
        some ⟨.table pt :: s, heap'⟩ ∧
      Properties heap' pt (done ++ props) ∧ heap.nextTable ≤ heap'.nextTable ∧
      (∀ t < heap.nextTable, t ≠ pt → heap'.tables t = heap.tables t) ∧
      untouched heap' = untouched heap := by
  induction props generalizing done heap with
  | nil => exact ⟨heap, rfl, by simpa using h, le_rfl, fun _ _ _ => rfl, rfl⟩
  | cons prop props ih =>
    have hnew : ∀ q ∈ done, prop.name.chars ≠ q.name.chars := by
      intro q hq heq
      rw [List.map_append, List.nodup_append] at hnames
      exact hnames.2.2 _ (List.mem_map_of_mem hq) _ (by simp) heq.symm
    obtain ⟨heap', hloop, hprops, hle, hkeep, hrest⟩ := ih (properties_addProperty h hpt hnew)
      (Nat.lt_succ_of_lt hpt) (by simpa using hnames)
    refine ⟨heap', ?_, by simpa using hprops, (Nat.le_succ _).trans hle, fun t ht hne => ?_, hrest⟩
    · rw [List.foldlM_cons, setProperty_eq]
      exact hloop
    · rw [hkeep t (Nat.lt_succ_of_lt ht) hne, addProperty_tables ht hne]

/-- The table that is built has the accessors of every property and nothing else; the tables
    that were there are as they were. -/
theorem luaBuildPropertyTable_spec (s : List (Value F)) (heap : Heap F U)
    (hnames : (props.map fun prop => prop.name.chars).Nodup) :
    ∃ heap', luaBuildPropertyTable props ⟨s, heap⟩ =
        some ⟨.table heap.nextTable :: s, heap'⟩ ∧
      Properties heap' heap.nextTable props ∧ heap.nextTable < heap'.nextTable ∧
      Extends heap heap' ∧ untouched heap' = untouched heap := by
  have hempty : Properties heap.newTable heap.nextTable [] :=
    ⟨fun _ h => absurd h List.not_mem_nil, fun key _ => by simp [Heap.newTable]⟩
  obtain ⟨heap', hloop, hprops, hle, hkeep, hrest⟩ := foldlM_setProperty props hempty
    (Nat.lt_succ_self heap.nextTable) (by simpa using hnames) s
  refine ⟨heap', hloop, hprops, hle, ⟨(Nat.le_succ _).trans hle, fun t ht => ?_⟩, hrest⟩
  rw [hkeep t (Nat.lt_succ_of_lt ht) (Nat.ne_of_lt ht)]
  simp [Heap.newTable, Nat.ne_of_lt ht]

/-- Writes to tables below the property table leave the properties alone. -/
theorem Properties.set {mt : ℕ} (h : Properties heap pt props) (hmt : mt < pt) (key v : Value F) :
    Properties (heap.set mt key v) pt props := by
  have hkeep : ∀ t, pt ≤ t → ∀ key', (heap.set mt key v).tables t key' = heap.tables t key' := by
    intro t ht key'
    exact heap.set_of_ne (fun h => absurd h (by omega)) v
  constructor
  · intro q hq
    obtain ⟨t, hentry, hlt, hpos, hget, hset⟩ := h.accessors q hq
    refine ⟨t, ?_, hlt, hpos, ?_, ?_⟩
    · rw [hkeep pt le_rfl, hentry]
    · rw [hkeep t hpos.le, hget]
    · rw [hkeep t hpos.le, hset]
  · intro key' hkey
    rw [hkeep pt le_rfl, h.others key' hkey]

omit [DecidableEq F] in
theorem Properties.extends {heap' : Heap F U} (h : Properties heap pt props)
    (hpt : pt < heap.nextTable) (hext : Extends heap heap') : Properties heap' pt props := by
  constructor
  · intro q hq
    obtain ⟨t, hentry, hlt, hpos, hget, hset⟩ := h.accessors q hq
    refine ⟨t, ?_, hlt.trans_le hext.nextTable, hpos, ?_, ?_⟩
    · rw [hext.tables pt hpt, hentry]
    · rw [hext.tables t hlt, hget]
    · rw [hext.tables t hlt, hset]
  · intro key hkey
    rw [hext.tables pt hpt, h.others key hkey]

/-- The table is stored in the metatable, which stays on the top of the stack. -/
theorem luaSetProperties_spec {mt : ℕ} (s : List (Value F)) (hmt : mt < heap.nextTable)
    (hnames : (props.map fun prop => prop.name.chars).Nodup) :
    ∃ heap' pt, luaSetProperties props ⟨.table mt :: s, heap⟩ = some ⟨.table mt :: s, heap'⟩ ∧
      Properties heap' pt props ∧ pt < heap'.nextTable ∧ mt < heap'.nextTable ∧
      heap'.tables mt (.string LUA_PROPERTIES_KEY) = .table pt ∧
      (∀ t < heap.nextTable, ∀ key, (t = mt → key ≠ .string LUA_PROPERTIES_KEY) →
        heap'.tables t key = heap.tables t key) ∧
      untouched heap' = untouched heap := by
  obtain ⟨heap', hbuild, hprops, hlt, hext, hrest⟩ :=
    luaBuildPropertyTable_spec (.table mt :: s) heap hnames
  refine ⟨heap'.set mt (.string LUA_PROPERTIES_KEY) (.table heap.nextTable), heap.nextTable, ?_,
    hprops.set hmt _ _, hlt, hmt.trans hlt, heap'.set_self _ _ _, fun t ht key hkey => ?_, hrest⟩
  · simp only [luaSetProperties, hbuild, Option.bind_eq_bind, Option.bind_some]
    rfl
  · rw [heap'.set_of_ne hkey, hext.tables t ht]

/-! ## Looking up a key -/

variable {u mt : ℕ}

omit [DecidableEq F] in
/-- The property table has an entry with a getter for the names of the properties, and no
    other. -/
theorem Properties.lookup (hprops : Properties heap pt props)
    (hget : ∀ prop ∈ props, prop.get ≠ none) (key : List CHAR) :
    heap.tables pt (.string key) = .nil ∧ getter? props key = none ∨
      ∃ t f, heap.tables pt (.string key) = .table t ∧
        heap.tables t (.string CLASSPROP_GET) = .function f ∧ getter? props key = some f := by
  rw [getter?]
  cases hfind : props.find? fun prop => prop.name.chars = key with
  | none =>
    refine .inl ⟨hprops.others _ ?_, rfl⟩
    intro prop hmem heq
    have hne := List.find?_eq_none.1 hfind prop hmem
    rw [Value.string.injEq] at heq
    simp [heq] at hne
  | some prop =>
    have hmem := List.mem_of_find?_eq_some hfind
    have hname : prop.name.chars = key := by simpa using List.find?_some hfind
    obtain ⟨t, hslot, -, -, hgetter, -⟩ := hprops.accessors prop hmem
    obtain ⟨f, hf⟩ := Option.ne_none_iff_exists'.1 (hget prop hmem)
    rw [hname] at hslot
    rw [hf] at hgetter
    exact .inr ⟨t, f, hslot, hgetter, hf⟩

/-- The indexer returns an entry of the metatable, or what the getter returns, or nil. -/
theorem luaClassPropIndexer_eq (invoke : F → CallFrame F U → LuaM (Value F × Heap F U))
    (key : List CHAR) (hmeta : heap.metatable u = some mt)
    (htable : heap.tables mt (.string LUA_PROPERTIES_KEY) = .table pt)
    (hprops : Properties heap pt props) (hget : ∀ prop ∈ props, prop.get ≠ none) :
    luaClassPropIndexer invoke ⟨[.string key, .userdata u], heap⟩ =
      if heap.tables mt (.string key) ≠ .nil then return (heap.tables mt (.string key), heap)
      else
        match getter? props key with
        | some f => do
          let (v, heap) ← invoke f ⟨[.userdata u], heap⟩
          return (v, heap)
        | none => return (.nil, heap) := by
  have hentry : gettable (pushvalue (getmetatable
      ⟨[.string key, .userdata u], heap⟩ 1) 2) (-2) =
        some ⟨[heap.tables mt (.string key), .table mt, .string key, .userdata u], heap⟩ := by
    have hmt : getmetatable ⟨[.string key, .userdata u], heap⟩ 1 =
        ⟨[.table mt, .string key, .userdata u], heap⟩ := by
      simp [getmetatable, valueAt, hmeta, push]
    rw [hmt]
    exact gettable_table
  have hfound : getfield (pop 1 ⟨[heap.tables mt (.string key), .table mt, .string key,
      .userdata u], heap⟩) (-1) LUA_PROPERTIES_KEY =
        some ⟨[.table pt, .table mt, .string key, .userdata u], heap⟩ := by
    rw [← htable]
    exact getfield_table
  have hprop : gettable (pushvalue ⟨[.table pt, .table mt, .string key, .userdata u], heap⟩ 2)
      (-2) = some ⟨[heap.tables pt (.string key), .table pt, .table mt, .string key, .userdata u],
        heap⟩ := gettable_table
  rw [luaClassPropIndexer, if_neg (by simp)]
  show (indexing _ >>= _) = _
  rw [hentry, indexing, Throws.pure_bind, valueAt_neg_one]
  by_cases hno : heap.tables mt (.string key) = .nil
  · rw [if_neg (not_not.2 hno), if_neg (not_not.2 hno), hfound, indexing, Throws.pure_bind,
      valueAt_neg_one]
    show (indexing _ >>= _) = _
    rw [hprop, indexing, Throws.pure_bind, valueAt_neg_one]
    obtain ⟨hslot, hnone⟩ | ⟨t, f, hslot, hgetter, hsome⟩ := hprops.lookup hget key
    · rw [hslot, hnone]
      rfl
    · rw [hslot, hsome]
      show (indexing _ >>= _) = _
      rw [getfield_table, indexing, Throws.pure_bind, valueAt_neg_one, hgetter]
      show (call _ (invoke f) 1 >>= returnTop) = _
      rw [call, Throws.bind_assoc]
      rfl
  · rw [if_pos hno, if_pos hno, returnTop, valueAt_neg_one]

end Build

/-! ## Accesses -/

section Access

variable {G : Type} [DecidableEq G]
  {invoke : LuaFunction G → ObjectFrame G → LuaM (LuaObject G × ObjectHeap G)}
  {props : List (LuaClassProperty (LuaFunction G))} {heap : ObjectHeap G} {mt u : ℕ}

omit [DecidableEq G] in
theorem checkObject_of_typedObject (h : IsTypedObject heap mt u) (key : LuaObject G) :
    checkObject ⟨[key, .userdata u], heap⟩ = pure u := by
  have hcheck : checkudata (⟨[key, .userdata u], heap⟩ : ObjectFrame G) 1
      TYPED_OBJECT_METATABLE = some u := by
    simp [checkudata, valueAt, h.metatable, h.registered]
  rw [checkObject, hcheck]

omit [DecidableEq G] in
theorem getter?_neverNil (hgetters : ∀ prop ∈ props, ∃ f, prop.get = some f ∧ NeverNil (invoke f))
    {key : List CHAR} {f : LuaFunction G} (h : getter? props key = some f) :
    NeverNil (invoke f) := by
  obtain ⟨prop, hfind, hget⟩ := Option.bind_eq_some_iff.1 h
  obtain ⟨f', hf', hnil⟩ := hgetters prop (List.mem_of_find?_eq_some hfind)
  rw [hget] at hf'
  exact (Option.some.inj hf').symm ▸ hnil

theorem checkAbort_eq_poll : checkAbort = poll := by
  refine congrArg (Dialogue.ask Request.getInterrupt) (funext fun hr => ?_)
  show (if decide (hr = S_OK) = true then raise "execution interrupted." [] else pure () :
    LuaM Unit) = if hr = S_OK then raise "execution interrupted." [] else pure ()
  simp only [decide_eq_true_eq]

omit [DecidableEq G] in
/-- The names and the typed data of the field make up the new object. -/
theorem pushSubTypedObject_eq (name : AnsiStr) (field : DebugTypedData) (heap : ObjectHeap G) :
    pushSubTypedObject name field heap = newField name field heap := by
  rw [pushSubTypedObject, allocSubTypedObject, checkAbort_eq_poll, Throws.bind_assoc, newField]
  congr 1
  funext _
  show Dialogue.ask _ _ = Dialogue.ask _ _
  congr 1
  funext typeName
  cases typeName with
  | none => rfl
  | some typeName =>
    show Dialogue.ask _ _ = Dialogue.ask _ _
    congr 1
    funext modName
    cases modName with
    | none => rfl
    | some modName => rfl

omit [DecidableEq G] in
/-- The code asks the debugger for the field that the key names. -/
theorem fieldOf_eq (u : ℕ) (key : List CHAR) (heap : ObjectHeap G) :
    fieldOf u key heap = debuggerField u (cstrOfChars key) heap := by
  rw [fieldOf, dsTypedObjectGetField, debuggerField]
  refine congrArg (Dialogue.ask _) (funext ?_)
  rintro ⟨hr, field⟩
  by_cases hmissing : hr = E_NOINTERFACE
  · subst hmissing
    rfl
  · show (Throws.lift (if hr = E_NOINTERFACE then _ else if FAILED hr = true then _ else _) >>= _ :
      LuaM _) = if hr = E_NOINTERFACE then _ else if FAILED hr = true then _ else _
    rw [if_neg hmissing, if_neg hmissing]
    by_cases hf : FAILED hr = true
    · rw [if_pos hf, if_pos hf]
      exact congrArg (Dialogue.ask _) (funext fun _ => if_pos hf)
    · rw [if_neg hf, if_neg hf, ← pushSubTypedObject_eq]
      exact if_neg hf

/-- `TypedObject_index` resolves a string key as it is meant to be. -/
theorem typedObjectIndex_eq (h : IsTypedObject heap mt u) {pt : ℕ}
    (htable : heap.tables mt (.string LUA_PROPERTIES_KEY) = .table pt)
    (hprops : Properties heap pt props)
    (hgetters : ∀ prop ∈ props, ∃ f, prop.get = some f ∧ NeverNil (invoke f)) (key : List CHAR) :
    Api.typedObjectIndex invoke ⟨[.string key, .userdata u], heap⟩ =
      resolved invoke props mt u key heap := by
  have hindexer := luaClassPropIndexer_eq invoke key h.metatable htable hprops
    fun prop hmem hnone => by
      obtain ⟨f, hf, -⟩ := hgetters prop hmem
      rw [hnone] at hf
      contradiction
  rw [Api.typedObjectIndex, resolved, checkAbort_eq_poll]
  congr 1
  funext _
  rw [checkObject_of_typedObject h, Throws.pure_bind]
  show (call _ (luaClassPropIndexer invoke) 2 >>= _) = _
  rw [call]
  show ((luaClassPropIndexer invoke ⟨[.string key, .userdata u], heap⟩ >>= _) >>= _) = _
  rw [hindexer, Throws.bind_assoc]
  by_cases hno : heap.tables mt (.string key) = .nil
  · rw [if_neg (not_not.2 hno), if_neg (not_not.2 hno)]
    cases hgetter : getter? props key with
    | none =>
      show (checkTypedData (heap.userdata u) >>= fun _ => getFieldHelper (some u) _) = _
      rw [checkTypedData, h.valid]
      show (checkAbort >>= fun _ => fieldOf u key heap) = _
      simp only [checkAbort_eq_poll, fieldOf_eq]
    | some f =>
      dsimp only
      rw [Throws.bind_assoc]
      refine Throws.bind_eq_self ((getter?_neverNil hgetters hgetter _).mono ?_)
      rintro r hnil ⟨v, heap'⟩ rfl
      have hne := hnil v heap' rfl
      rw [Throws.pure_bind, Throws.pure_bind, valueAt_neg_one, if_pos hne]
      rfl
  · rw [if_pos hno, if_pos hno, Throws.pure_bind, Throws.pure_bind, valueAt_neg_one, if_pos hno]
    rfl

theorem index_eq (h : IsTypedObject heap mt u) (hserves : ServesAccess heap mt)
    (key : LuaObject G) :
    Api.index invoke u key heap = Api.typedObjectIndex invoke ⟨[key, .userdata u], heap⟩ := by
  rw [Api.index, h.metatable]
  dsimp only
  rw [hserves.index]
  rfl

/-- A key that is neither an entry of the metatable nor a property names a field, however the
    access is written. -/
theorem access_eval_eq (h : IsTypedObject heap mt u) (hserves : ServesAccess heap mt) {pt : ℕ}
    (htable : heap.tables mt (.string LUA_PROPERTIES_KEY) = .table pt)
    (hprops : Properties heap pt props)
    (hgetters : ∀ prop ∈ props, ∃ f, prop.get = some f ∧ NeverNil (invoke f)) {key : List CHAR}
    (hentry : heap.tables mt (.string key) = .nil) (hgetter : getter? props key = none)
    (access : Api.Access) : access.eval invoke u key heap = fieldRequest u key heap := by
  have hindex : Api.index invoke u (.string key) heap = fieldRequest u key heap := by
    rw [index_eq h hserves, typedObjectIndex_eq h htable hprops hgetters, resolved, hentry, hgetter]
    rfl
  cases access with
  | dot => exact hindex
  | bracket => exact hindex
  | method =>
    rw [Api.Access.eval, index_eq h hserves, typedObjectIndex_eq h htable hprops hgetters, resolved,
      hserves.method, Throws.bind_assoc]
    congr 1
    funext _
    have hreceiver :
        receiver none (⟨[.string key, .userdata u], heap⟩ : ObjectFrame G) = pure u := by
      rw [receiver, checkObject_of_typedObject h, Throws.pure_bind, checkTypedData, h.valid]
      rfl
    show getFieldHelper none ⟨[.string key, .userdata u], heap⟩ = _
    rw [getFieldHelper, hreceiver]
    show (checkAbort >>= fun _ => fieldOf u key heap) = _
    simp only [checkAbort_eq_poll, fieldOf_eq]

/-! ## One object at a time

The functions of src/luaprov/typedobject.cpp on their own take an object and the memory of a
new one. -/

/-- The key on the stack. -/
def Key.value : Key → LuaObject G
  | .integer i => .integer i
  | .string s => .string s
  | .other => .nil

/-- A new object is the next userdatum. -/
def placed (heap : ObjectHeap G) : LuaResult → LuaObject G × ObjectHeap G
  | .userdata o =>
    (.userdata heap.nextUserdata, heap.newUserdata o (heap.registry TYPED_OBJECT_METATABLE))
  | .value _ => (.nil, heap)

omit [DecidableEq G] in
/-- The object of an answer is made, unless the request has failed. -/
theorem pushSubTypedObject_placed (name : AnsiStr) (format : String) (hr : HRESULT)
    (data : DebugTypedData) :
    (if FAILED hr then raise format [.hr hr] else pushSubTypedObject name data heap) =
      (if FAILED hr then raise format [.hr hr]
        else do
          return LuaResult.userdata
            (← allocSubTypedObject (heap.userdata heap.nextUserdata) name data)) >>= fun r =>
        pure (placed heap r) := by
  split_ifs
  · rfl
  · rw [pushSubTypedObject, Throws.bind_assoc]
    rfl

omit [DecidableEq G] in
/-- Both look for an interrupt before they go on. -/
theorem attempt_checkAbort_bind {α : Type} {o : DbgScriptTypedObject} {f : LuaM α} {d : DsM Outcome}
    {g : LuaResult → α} (h : f.attempt = d >>= fun r => .done (r.2.map g)) :
    (checkAbort >>= fun _ => f).attempt =
      (do
        if ← utilCheckAbort then return (o, .error (.error "execution interrupted." []))
        else d) >>= fun r => .done (r.2.map g) := by
  refine congrArg (Dialogue.ask Request.getInterrupt) (funext fun hr => ?_)
  by_cases hint : hr = S_OK
  · subst hint
    rfl
  · show ((if decide (hr = S_OK) = true then _ else _ : LuaM Unit) >>= fun _ => f).attempt =
      (if decide (hr = S_OK) = true then _ else d) >>= fun r => .done (r.2.map g)
    have hno : ¬ decide (hr = S_OK) = true := by simpa using hint
    rw [if_neg hno, if_neg hno]
    exact h

omit [DecidableEq G] in
theorem attempt_reading {α : Type} (o : DbgScriptTypedObject) (f : LuaM LuaResult)
    (g : LuaResult → α) :
    (f >>= fun r => pure (g r)).attempt = reading o f >>= fun r => .done (r.2.map g) := by
  rw [reading, Dialogue.bind_assoc, Throws.attempt_bind]
  congr 1
  funext r
  cases r <;> rfl

/-- The element, and the field that no entry of the metatable and no property hides, are
    got as from the object alone. -/
theorem typedObjectIndex_placed (h : IsTypedObject heap mt u) {pt : ℕ}
    (htable : heap.tables mt (.string LUA_PROPERTIES_KEY) = .table pt)
    (hprops : Properties heap pt props)
    (hgetters : ∀ prop ∈ props, ∃ f, prop.get = some f ∧ NeverNil (invoke f)) (key : Key)
    (hkey : ∀ s, key = .string s → s ∉ metatable ∧
      property? (heap.userdata heap.nextUserdata) (heap.userdata u) s = none ∧
      heap.tables mt (.string s) = .nil ∧ getter? props s = none) :
    (Api.typedObjectIndex invoke ⟨[key.value, .userdata u], heap⟩).attempt =
      typedObjectIndex (heap.userdata heap.nextUserdata) (heap.userdata u) key >>= fun r =>
        .done (r.2.map (placed heap)) := by
  cases key with
  | integer i =>
    refine attempt_checkAbort_bind ?_
    rw [checkObject_of_typedObject h, Throws.pure_bind, ← attempt_reading, Throws.bind_assoc]
    show (checkTypedData (heap.userdata u) >>= _).attempt = _
    congr 2
    funext _
    rw [getElement, Throws.bind_assoc]
    congr 1
    funext r
    exact pushSubTypedObject_placed _ _ r.1 r.2
  | string s =>
    obtain ⟨hentry, hproperty, htables, hgetter⟩ := hkey s rfl
    have hfield : typedObjectIndex (heap.userdata heap.nextUserdata) (heap.userdata u) (.string s) =
        (do
          if ← utilCheckAbort then
            return (heap.userdata u, .error (.error "execution interrupted." []))
          else
            reading (heap.userdata u) do
              checkTypedData (heap.userdata u)
              checkAbort
              getFieldOf (heap.userdata heap.nextUserdata) (heap.userdata u) (.string s)) := by
      rw [typedObjectIndex]
      simp only [if_neg hentry, hproperty]
    rw [hfield, Key.value, typedObjectIndex_eq h htable hprops hgetters, resolved, htables, hgetter,
      ← checkAbort_eq_poll]
    refine attempt_checkAbort_bind ?_
    rw [← attempt_reading, checkTypedData, h.valid, ← fieldOf_eq]
    show (checkAbort >>= fun _ => fieldOf u s heap).attempt =
      ((checkAbort >>= fun _ => getFieldOf _ _ (.string s)) >>= _).attempt
    rw [Throws.bind_assoc]
    congr 2
    funext _
    rw [fieldOf, getFieldOf, Throws.bind_assoc]
    congr 1
    funext r
    exact pushSubTypedObject_placed _ _ r.1 r.2
  | other =>
    refine attempt_checkAbort_bind ?_
    rw [checkObject_of_typedObject h, Throws.pure_bind]
    rfl

/-- `LuaSetProperties` leaves the metatable on the top of the stack and changes only its entry
    `__properties`. After it, a string key of a typed object with that metatable is an entry
    of the metatable, or else the property that is registered for it, or else a field; and
    then the ways to write the access request the same field. -/
theorem key_resolution (invoke : LuaFunction G → ObjectFrame G → LuaM (LuaObject G × ObjectHeap G))
    (props : List (LuaClassProperty (LuaFunction G)))
    (hnames : (props.map fun prop => prop.name.chars).Nodup)
    (hgetters : ∀ prop ∈ props, ∃ f, prop.get = some f ∧ NeverNil (invoke f))
    (mt : ℕ) (s : List (LuaObject G)) (before : ObjectHeap G) (hmt : mt < before.nextTable) :
    ∃ after, luaSetProperties props ⟨.table mt :: s, before⟩ = some ⟨.table mt :: s, after⟩ ∧
      (∀ t < before.nextTable, ∀ key, (t = mt → key ≠ .string LUA_PROPERTIES_KEY) →
        after.tables t key = before.tables t key) ∧
      untouched after = untouched before ∧
      ∀ heap, Extends after heap → ∀ u, IsTypedObject heap mt u → ∀ key,
        Api.typedObjectIndex invoke ⟨[.string key, .userdata u], heap⟩ =
            resolved invoke props mt u key heap ∧
          (ServesAccess heap mt → heap.tables mt (.string key) = .nil →
            getter? props key = none → ∀ access : Api.Access,
            access.eval invoke u key heap = fieldRequest u key heap) := by
  obtain ⟨after, pt, hset, hprops, hpt, hmt', htable, hkeep, hrest⟩ :=
    luaSetProperties_spec s hmt hnames
  refine ⟨after, hset, hkeep, hrest, fun heap hext u hobj key => ?_⟩
  have htable' : heap.tables mt (.string LUA_PROPERTIES_KEY) = .table pt := by
    rw [hext.tables mt hmt', htable]
  have hprops' := hprops.extends hpt hext
  exact ⟨typedObjectIndex_eq hobj htable' hprops' hgetters key, fun hserves hentry hgetter =>
    access_eval_eq hobj hserves htable' hprops' hgetters hentry hgetter⟩

end Access

/-! ## An example -/

/-- The property `size`, of objects whose size is always 4. -/
def sizeProperty : LuaClassProperty (LuaFunction Unit) := ⟨ansiStr "size", some (.native ()), none⟩

def fourBytes (_ : LuaFunction Unit) (L : ObjectFrame Unit) :
    LuaM (LuaObject Unit × ObjectHeap Unit) :=
  return (.integer 4, L.heap)

/-- A metatable with the methods that serve accesses, and one typed object. -/
def classHeap : ObjectHeap Unit where
  tables _ key :=
    if key = .string (ansi "__index") then .function .typedObjectIndex
    else if key = .string (ansi "f") then .function .typedObjectGetfield
    else .nil
  nextTable := 1
  userdata _ := { DbgScriptTypedObject.zero with typedDataValid := true }
  metatable _ := some 0
  nextUserdata := 1
  registry _ := some 0

/-- `obj.size` is the property, and `m_bar` is a field, once the property has been set. -/
theorem key_resolution_size :
    ∃ after, luaSetProperties [sizeProperty] ⟨[.table 0], classHeap⟩ = some ⟨[.table 0], after⟩ ∧
      Api.typedObjectIndex fourBytes ⟨[.string (ansi "size"), .userdata 0], after⟩ =
        resolved fourBytes [sizeProperty] 0 0 (ansi "size") after ∧
      ∀ access : Api.Access, access.eval fourBytes 0 (ansi "m_bar") after =
        fieldRequest 0 (ansi "m_bar") after := by
  obtain ⟨after, hset, hkeep, hrest, hindex⟩ := key_resolution fourBytes [sizeProperty]
    (by simp) (by
      intro prop hprop
      obtain rfl := List.mem_singleton.1 hprop
      refine ⟨_, rfl, fun L v heap h => ?_⟩
      cases h
      simp) 0 [] classHeap (by decide)
  have hobj : IsTypedObject after 0 0 := by
    have huser : after.userdata = classHeap.userdata := congrArg (·.1) hrest
    have hmeta : after.metatable = classHeap.metatable := congrArg (·.2.1) hrest
    have hregistry : after.registry = classHeap.registry := congrArg (·.2.2.2) hrest
    exact ⟨by rw [hmeta]; rfl, by rw [hregistry]; rfl, by rw [huser]; rfl⟩
  have hentry : ∀ name : List CHAR, name ≠ LUA_PROPERTIES_KEY →
      after.tables 0 (.string name) = classHeap.tables 0 (.string name) := by
    intro name hne
    exact hkeep 0 (by decide) _ fun _ heq => hne (Value.string.inj heq)
  refine ⟨after, hset, (hindex after (Extends.refl _) 0 hobj _).1, ?_⟩
  refine (hindex after (Extends.refl _) 0 hobj _).2 ⟨?_, ?_⟩ ?_ (by decide)
  · exact hentry _ (by decide)
  · exact hentry _ (by decide)
  · exact hentry _ (by decide)

end DbgScript.Lua
