import DbgScript.Lib.Runs
import DbgScript.Support.Requests

/-!
# The stack frames of Python scripts

`Thread` and `StackFrame` objects with their reference counts
(src/pythonprov/thread.cpp, src/pythonprov/stackframe.cpp). An object is named by its
position among all objects of its type that have been made; `held` counts the references
that the script has to it (those of tuples included), and an object whose count is zero
has been deallocated.

* `Heap.Ok`: a thread's count is that of the script's references and of its live frames.
* `ok_step`: operations that do not make a bare frame keep every frame on its thread.
-/

namespace DbgScript.Python

/-! ## Objects -/

/-- `ThreadObj`. -/
structure ThreadObj where
  thread : DbgScriptThread
  refcnt : ℕ
  held : ℕ
  deriving DecidableEq

/-- `StackFrameObj` (src/pythonprov/stackframe.cpp:8-19): `thread` is null in an object
    that has only been zeroed. -/
structure StackFrameObj where
  frame : DbgScriptStackFrame
  thread : Option ℕ
  refcnt : ℕ
  held : ℕ
  deriving DecidableEq

/-- What must not happen. -/
inductive Fault where
  | missingThread
  | freedThread
  | nullRelease
  deriving DecidableEq

structure Heap where
  threads : List ThreadObj
  frames : List StackFrameObj
  faults : List Fault

def Heap.empty : Heap := ⟨[], [], []⟩

/-- The thread that a live frame refers to. -/
def StackFrameObj.owned (f : StackFrameObj) : Option ℕ := if f.refcnt = 0 then none else f.thread

/-- The live frames made from the thread. -/
def Heap.framesOf (h : Heap) (t : ℕ) : ℕ := (h.frames.map StackFrameObj.owned).count (some t)

/-! ## The functions of the provider -/

/-- `AllocThreadObj` (src/pythonprov/thread.cpp:260-283). -/
def Heap.allocThreadObj (h : Heap) (thd : DbgScriptThread) : Heap :=
  { h with threads := h.threads ++ [⟨thd, 1, 1⟩] }

/-- `PyType_GenericNew`: a zeroed `StackFrame` object. -/
def Heap.genericNew (h : Heap) : Heap := { h with frames := h.frames ++ [⟨default, none, 1, 1⟩] }

/-- `AllocStackFrameObj` (src/pythonprov/stackframe.cpp:190-217): the frame takes a
    reference to the thread. -/
def Heap.allocStackFrameObj (h : Heap) (frame : DbgScriptStackFrame) (t : ℕ) : Heap :=
  { h with
    threads := h.threads.modify t fun thd => { thd with refcnt := thd.refcnt + 1 }
    frames := h.frames ++ [⟨frame, some t, 1, 1⟩] }

/-- `StackFrame_dealloc` (src/pythonprov/stackframe.cpp:128-138). -/
def Heap.stackFrameDealloc (h : Heap) (f : StackFrameObj) : Heap :=
  match f.thread with
  | none => { h with faults := h.faults ++ [.nullRelease] }
  | some t =>
    { h with threads := h.threads.modify t fun thd => { thd with refcnt := thd.refcnt - 1 } }

/-- The access of `getVariablesHelper` to the frame's thread
    (src/pythonprov/stackframe.cpp:71-77). -/
def Heap.getVariables (h : Heap) (f : StackFrameObj) : Heap :=
  match f.thread with
  | none => { h with faults := h.faults ++ [.missingThread] }
  | some t =>
    match h.threads[t]? with
    | none => { h with faults := h.faults ++ [.missingThread] }
    | some thd => if thd.refcnt = 0 then { h with faults := h.faults ++ [.freedThread] } else h

/-! ## The script -/

/-- The script takes another reference to the frame. -/
def Heap.holdFrame (h : Heap) (i : ℕ) : Heap :=
  match h.frames[i]? with
  | none => h
  | some f =>
    if f.held = 0 then h
    else { h with frames := h.frames.set i { f with refcnt := f.refcnt + 1, held := f.held + 1 } }

/-- The script drops one of its references to the frame. -/
def Heap.dropFrame (h : Heap) (i : ℕ) : Heap :=
  match h.frames[i]? with
  | none => h
  | some f =>
    if f.held = 0 then h
    else
      let h := { h with
        frames := h.frames.set i { f with refcnt := f.refcnt - 1, held := f.held - 1 } }
      if f.refcnt = 1 then h.stackFrameDealloc f else h

/-- What a script can do with threads and frames. -/
inductive FrameOp where
  -- `get_threads`, `current_thread`, or the type `Thread` called
  | newThread (thd : DbgScriptThread)
  -- `frames` have been made when the loop ends, or fails and releases them
  | getStack (t : ℕ) (frames : List DbgScriptStackFrame) (failed : Bool)
  | currentFrame (t : ℕ) (frame : DbgScriptStackFrame)
  -- `type(frame)(...)`
  | callType
  -- `copy.copy(frame)`, which the interpreter may refuse with a `TypeError`
  | copy (f : ℕ) (refused : Bool)
  -- `get_locals`, `get_args`
  | getVariables (f : ℕ)
  -- another reference to an object, and one less
  | holdThread (t : ℕ)
  | holdFrame (f : ℕ)
  | dropThread (t : ℕ)
  | dropFrame (f : ℕ)
  deriving DecidableEq

/-- The script has a reference to the thread. -/
def Heap.holdsThread (h : Heap) (t : ℕ) : Bool :=
  match h.threads[t]? with
  | none => false
  | some thd => thd.held ≠ 0

/-- The script has a reference to the frame. -/
def Heap.holdsFrame (h : Heap) (i : ℕ) : Bool :=
  match h.frames[i]? with
  | none => false
  | some f => f.held ≠ 0

/-- The loop of `Thread_get_stack` (src/pythonprov/thread.cpp:127-148) and its exit. -/
def Heap.getStack (h : Heap) (t : ℕ) (frames : List DbgScriptStackFrame) (failed : Bool) : Heap :=
  let h' := frames.foldl (fun h frame => h.allocStackFrameObj frame t) h
  if failed then (List.range' h.frames.length frames.length).foldl Heap.dropFrame h' else h'

/-- One operation; on an object that the script does not have, it is none. -/
def Heap.step (h : Heap) : FrameOp → Heap
  | .newThread thd => h.allocThreadObj thd
  | .getStack t frames failed => if h.holdsThread t then h.getStack t frames failed else h
  | .currentFrame t frame => if h.holdsThread t then h.allocStackFrameObj frame t else h
  | .callType => h.genericNew
  | .copy f refused => if h.holdsFrame f && !refused then h.genericNew else h
  | .getVariables i =>
    match h.frames[i]? with
    | none => h
    | some f => if f.held = 0 then h else h.getVariables f
  | .holdThread t =>
    if h.holdsThread t then
      { h with threads := h.threads.modify t fun thd =>
          { thd with refcnt := thd.refcnt + 1, held := thd.held + 1 } }
    else h
  | .holdFrame i => h.holdFrame i
  | .dropThread t =>
    if h.holdsThread t then
      { h with threads := h.threads.modify t fun thd =>
          { thd with refcnt := thd.refcnt - 1, held := thd.held - 1 } }
    else h
  | .dropFrame i => h.dropFrame i

/-- The operation makes a frame without a thread. -/
def Heap.MakesBareFrame (h : Heap) : FrameOp → Prop
  | .callType => True
  | .copy f refused => h.holdsFrame f ∧ refused = false
  | _ => False

/-- Every live frame has a live thread, the references that frames have taken on a
    thread are as many as its live frames, and nothing has gone wrong. -/
structure Heap.FramesOk (h : Heap) : Prop where
  frames : ∀ f ∈ h.frames, f.refcnt ≠ 0 →
    ∃ t thd, f.thread = some t ∧ h.threads[t]? = some thd ∧ thd.refcnt ≠ 0
  threads : ∀ t thd, h.threads[t]? = some thd → thd.refcnt = thd.held + h.framesOf t
  faults : h.faults = []

/-! ## The invariant -/

/-- A frame is referred to by the script only; a live one has a thread. A thread's count
    is that of the script's references and of its live frames. -/
structure Heap.Ok (h : Heap) : Prop where
  frames : ∀ f ∈ h.frames, f.refcnt = f.held ∧
    (f.refcnt ≠ 0 → ∃ t, t < h.threads.length ∧ f.thread = some t)
  threads : ∀ t thd, h.threads[t]? = some thd → thd.refcnt = thd.held + h.framesOf t
  faults : h.faults = []

theorem ok_empty : Heap.empty.Ok := by
  refine ⟨?_, ?_, rfl⟩
  · intro f hf
    exact absurd hf List.not_mem_nil
  · intro t thd ht
    simp [Heap.empty] at ht

variable {h : Heap} {t : ℕ} {f : StackFrameObj}

/-- A thread with a live frame has been made. -/
theorem Heap.Ok.lt_of_owned (hok : h.Ok) (hf : f ∈ h.frames) (ht : f.owned = some t) :
    t < h.threads.length := by
  rw [StackFrameObj.owned] at ht
  split_ifs at ht with h0
  obtain ⟨t', hlt, hthread⟩ := (hok.frames f hf).2 h0
  rw [hthread] at ht
  exact Option.some.inj ht ▸ hlt

theorem Heap.Ok.framesOf_eq_zero (hok : h.Ok) (ht : h.threads.length ≤ t) : h.framesOf t = 0 := by
  rw [Heap.framesOf, List.count_eq_zero, List.mem_map]
  rintro ⟨f, hf, hown⟩
  have hlt := hok.lt_of_owned hf hown
  omega

theorem Heap.framesOf_pos (hf : f ∈ h.frames) (hlive : f.refcnt ≠ 0) (ht : f.thread = some t) :
    0 < h.framesOf t := by
  apply List.count_pos_iff.mpr
  refine List.mem_map.mpr ⟨f, hf, ?_⟩
  rw [StackFrameObj.owned, if_neg hlive, ht]

theorem Heap.Ok.framesOk (hok : h.Ok) : h.FramesOk := by
  refine ⟨?_, hok.threads, hok.faults⟩
  intro f hf hlive
  obtain ⟨t, hlt, ht⟩ := (hok.frames f hf).2 hlive
  refine ⟨t, h.threads[t], ht, List.getElem?_eq_getElem hlt, ?_⟩
  have hcount := hok.threads t _ (List.getElem?_eq_getElem hlt)
  have hpos := Heap.framesOf_pos hf hlive ht
  omega

/-! ## What the operations do -/

theorem framesOf_allocStackFrameObj (frame : DbgScriptStackFrame) (t t' : ℕ) :
    (h.allocStackFrameObj frame t).framesOf t' = h.framesOf t' + if t = t' then 1 else 0 := by
  simp [Heap.framesOf, Heap.allocStackFrameObj, StackFrameObj.owned, List.count_singleton]

theorem ok_allocThreadObj (hok : h.Ok) (thd : DbgScriptThread) : (h.allocThreadObj thd).Ok := by
  refine ⟨?_, ?_, hok.faults⟩
  · intro f hf
    refine ⟨(hok.frames f hf).1, ?_⟩
    intro hlive
    obtain ⟨t, hlt, ht⟩ := (hok.frames f hf).2 hlive
    refine ⟨t, ?_, ht⟩
    rw [Heap.allocThreadObj, List.length_append]
    omega
  · intro t thd' ht
    show thd'.refcnt = thd'.held + h.framesOf t
    rw [Heap.allocThreadObj, List.getElem?_append] at ht
    split_ifs at ht with hlt
    · exact hok.threads t thd' ht
    · rw [List.getElem?_singleton] at ht
      split_ifs at ht with h0
      rw [hok.framesOf_eq_zero (by omega), ← Option.some.inj ht]

theorem ok_allocStackFrameObj (hok : h.Ok) (frame : DbgScriptStackFrame)
    (ht : t < h.threads.length) : (h.allocStackFrameObj frame t).Ok := by
  have hlen : (h.allocStackFrameObj frame t).threads.length = h.threads.length := by
    simp [Heap.allocStackFrameObj]
  refine ⟨?_, ?_, hok.faults⟩
  · intro f hf
    rw [hlen]
    rcases List.mem_append.mp hf with hf | hf
    · exact hok.frames f hf
    · rw [List.mem_singleton] at hf
      rw [hf]
      exact ⟨rfl, fun _ => ⟨t, ht, rfl⟩⟩
  · intro t' thd' ht'
    rw [framesOf_allocStackFrameObj]
    rw [Heap.allocStackFrameObj, List.getElem?_modify] at ht'
    obtain ⟨thd, hthd, hthd'⟩ := Option.map_eq_some_iff.mp ht'
    have hcount := hok.threads t' thd hthd
    split_ifs at hthd' ⊢ with heq
    · rw [← hthd']
      show thd.refcnt + 1 = thd.held + (h.framesOf t' + 1)
      omega
    · rw [← hthd']
      exact hcount

/-- A frame is replaced by `f'`. -/
theorem framesOf_set {i : ℕ} (hf : h.frames[i]? = some f) (f' : StackFrameObj) (t : ℕ) :
    ({ h with frames := h.frames.set i f' } : Heap).framesOf t +
        (if f.owned = some t then 1 else 0) =
      h.framesOf t + if f'.owned = some t then 1 else 0 := by
  obtain ⟨hi, hget⟩ := List.getElem?_eq_some_iff.mp hf
  have hi' : i < (h.frames.map StackFrameObj.owned).length := by simpa using hi
  have hpos : f.owned = some t → 0 < h.framesOf t := by
    intro hown
    apply List.count_pos_iff.mpr
    exact List.mem_map.mpr ⟨f, hget ▸ List.getElem_mem hi, hown⟩
  simp only [Heap.framesOf] at hpos ⊢
  rw [List.map_set, List.count_set hi', List.getElem_map, hget]
  simp only [beq_iff_eq]
  split_ifs with h1 h2
  · have := hpos h1
    omega
  · have := hpos h1
    omega
  · omega
  · omega

/-- The script's references to a frame have changed, not whether it is live. -/
theorem ok_setFrame {i : ℕ} (hok : h.Ok) (hf : h.frames[i]? = some f) {f' : StackFrameObj}
    (hcount : f'.refcnt = f'.held) (hlive : f.refcnt ≠ 0) (hlive' : f'.refcnt ≠ 0)
    (hthread : f'.thread = f.thread) : ({ h with frames := h.frames.set i f' } : Heap).Ok := by
  have howned : f'.owned = f.owned := by
    rw [StackFrameObj.owned, StackFrameObj.owned, if_neg hlive, if_neg hlive', hthread]
  refine ⟨?_, ?_, hok.faults⟩
  · intro g hg
    rcases List.mem_or_eq_of_mem_set hg with hg | rfl
    · exact hok.frames g hg
    · refine ⟨hcount, ?_⟩
      intro _
      rw [hthread]
      exact (hok.frames f (List.mem_of_getElem? hf)).2 hlive
  · intro t thd ht
    have hset := framesOf_set hf f' t
    rw [howned] at hset
    rw [Nat.add_right_cancel hset]
    exact hok.threads t thd ht

theorem ok_holdFrame (hok : h.Ok) (i : ℕ) : (h.holdFrame i).Ok := by
  rw [Heap.holdFrame]
  cases hf : h.frames[i]? with
  | none => exact hok
  | some f =>
    have hcount := (hok.frames f (List.mem_of_getElem? hf)).1
    show (if f.held = 0 then h else _).Ok
    split_ifs with hheld
    · exact hok
    · refine ok_setFrame hok hf ?_ ?_ ?_ rfl
      · exact congrArg (· + 1) hcount
      · omega
      · exact Nat.succ_ne_zero _

theorem stackFrameDealloc_of_some (ht : f.thread = some t) : h.stackFrameDealloc f =
    { h with threads := h.threads.modify t fun thd => { thd with refcnt := thd.refcnt - 1 } } := by
  rw [Heap.stackFrameDealloc]
  simp only [ht]

/-- The last reference to a frame is dropped: its thread loses a frame and a reference. -/
theorem ok_deallocFrame {i : ℕ} (hok : h.Ok) (hf : h.frames[i]? = some f) (hlast : f.refcnt = 1)
    {f' : StackFrameObj} (hfreed : f'.refcnt = 0) (hheld : f'.held = 0) :
    (({ h with frames := h.frames.set i f' } : Heap).stackFrameDealloc f).Ok := by
  obtain ⟨t, hlt, ht⟩ := (hok.frames f (List.mem_of_getElem? hf)).2 (by omega)
  have hown : f.owned = some t := by rw [StackFrameObj.owned, if_neg (by omega), ht]
  have hown' : f'.owned = none := by rw [StackFrameObj.owned, if_pos hfreed]
  rw [stackFrameDealloc_of_some ht]
  refine ⟨?_, ?_, hok.faults⟩
  · intro g hg
    rw [List.length_modify]
    rcases List.mem_or_eq_of_mem_set hg with hg | rfl
    · exact hok.frames g hg
    · exact ⟨hfreed.trans hheld.symm, fun hlive => absurd hfreed hlive⟩
  · intro t' thd' ht'
    have hset := framesOf_set hf f' t'
    have hnone : (none : Option ℕ) ≠ some t' := by simp
    rw [hown, hown', if_neg hnone] at hset
    rw [List.getElem?_modify] at ht'
    obtain ⟨thd, hthd, hthd'⟩ := Option.map_eq_some_iff.mp ht'
    have hrefs := hok.threads t' thd hthd
    show thd'.refcnt = thd'.held + ({ h with frames := h.frames.set i f' } : Heap).framesOf t'
    by_cases heq : t = t'
    · rw [if_pos heq] at hthd'
      rw [if_pos (congrArg some heq)] at hset
      rw [← hthd']
      show thd.refcnt - 1 = thd.held + _
      omega
    · rw [if_neg heq] at hthd'
      rw [if_neg (fun h => heq (Option.some.inj h))] at hset
      rw [← hthd']
      show thd.refcnt = thd.held + _
      omega

theorem ok_dropFrame (hok : h.Ok) (i : ℕ) : (h.dropFrame i).Ok := by
  rw [Heap.dropFrame]
  cases hf : h.frames[i]? with
  | none => exact hok
  | some f =>
    have hcount := (hok.frames f (List.mem_of_getElem? hf)).1
    dsimp only
    split_ifs with hheld hlast
    · exact hok
    · refine ok_deallocFrame hok hf hlast ?_ ?_
      · show f.refcnt - 1 = 0
        omega
      · show f.held - 1 = 0
        omega
    · refine ok_setFrame hok hf ?_ ?_ ?_ rfl
      · exact congrArg (· - 1) hcount
      · omega
      · show f.refcnt - 1 ≠ 0
        omega

/-- The script's references to a thread have changed. -/
theorem ok_modifyThread (hok : h.Ok) (t : ℕ) {g : ThreadObj → ThreadObj}
    (hg : ∀ thd n, h.threads[t]? = some thd → thd.refcnt = thd.held + n →
      (g thd).refcnt = (g thd).held + n) :
    ({ h with threads := h.threads.modify t g } : Heap).Ok := by
  refine ⟨?_, ?_, hok.faults⟩
  · intro f hf
    rw [List.length_modify]
    exact hok.frames f hf
  · intro t' thd' ht'
    show thd'.refcnt = thd'.held + h.framesOf t'
    rw [List.getElem?_modify] at ht'
    obtain ⟨thd, hthd, hthd'⟩ := Option.map_eq_some_iff.mp ht'
    rw [← hthd']
    split_ifs with heq
    · exact hg thd _ (heq ▸ hthd) (hok.threads t' thd hthd)
    · exact hok.threads t' thd hthd

theorem holdsThread_iff : h.holdsThread t ↔ ∃ thd, h.threads[t]? = some thd ∧ thd.held ≠ 0 := by
  rw [Heap.holdsThread]
  cases ht : h.threads[t]? with
  | none => simp
  | some thd => simp

theorem lt_of_holdsThread (ht : h.holdsThread t) : t < h.threads.length := by
  obtain ⟨thd, hthd, -⟩ := holdsThread_iff.mp ht
  exact (List.getElem?_eq_some_iff.mp hthd).1

/-- The thread of a frame is found. -/
theorem getVariables_eq (hok : h.Ok) (hf : f ∈ h.frames) (hlive : f.refcnt ≠ 0) :
    h.getVariables f = h := by
  obtain ⟨t, thd, ht, hthd, hrefs⟩ := hok.framesOk.frames f hf hlive
  simp [Heap.getVariables, ht, hthd, hrefs]

theorem ok_dropFrames (hok : h.Ok) (is : List ℕ) : (Runs.run Heap.dropFrame h is).Ok :=
  Runs.run_keeps (I := Heap.Ok) (fun _ i hok => ok_dropFrame hok i) hok is

theorem ok_allocFrames (hok : h.Ok) (ht : t < h.threads.length)
    (frames : List DbgScriptStackFrame) :
    (frames.foldl (fun h frame => h.allocStackFrameObj frame t) h).Ok := by
  induction frames generalizing h with
  | nil => exact hok
  | cons frame frames ih =>
    refine ih (ok_allocStackFrameObj hok frame ht) ?_
    simpa [Heap.allocStackFrameObj] using ht

theorem ok_getStack (hok : h.Ok) (ht : t < h.threads.length) (frames : List DbgScriptStackFrame)
    (failed : Bool) : (h.getStack t frames failed).Ok := by
  rw [Heap.getStack]
  split_ifs
  · exact ok_dropFrames (ok_allocFrames hok ht frames) _
  · exact ok_allocFrames hok ht frames

theorem ok_holdThread (hok : h.Ok) (t : ℕ) : (h.step (.holdThread t)).Ok := by
  show (if h.holdsThread t then _ else _ : Heap).Ok
  split_ifs with ht
  · refine ok_modifyThread hok t ?_
    intro thd n _ hrefs
    show thd.refcnt + 1 = thd.held + 1 + n
    omega
  · exact hok

theorem ok_dropThread (hok : h.Ok) (t : ℕ) : (h.step (.dropThread t)).Ok := by
  show (if h.holdsThread t then _ else _ : Heap).Ok
  split_ifs with ht
  · obtain ⟨thd', hthd', hheld⟩ := holdsThread_iff.mp ht
    refine ok_modifyThread hok t ?_
    intro thd n hthd hrefs
    have heq : thd = thd' := Option.some.inj (hthd.symm.trans hthd')
    show thd.refcnt - 1 = thd.held - 1 + n
    rw [heq] at hrefs ⊢
    omega
  · exact hok

/-- Every operation that does not make a bare frame keeps the invariant. -/
theorem ok_step (hok : h.Ok) {op : FrameOp} (hop : ¬ h.MakesBareFrame op) : (h.step op).Ok := by
  cases op with
  | newThread thd => exact ok_allocThreadObj hok thd
  | getStack t frames failed =>
    show (if h.holdsThread t then _ else _ : Heap).Ok
    split_ifs with ht
    · exact ok_getStack hok (lt_of_holdsThread ht) frames failed
    · exact hok
  | currentFrame t frame =>
    show (if h.holdsThread t then _ else _ : Heap).Ok
    split_ifs with ht
    · exact ok_allocStackFrameObj hok frame (lt_of_holdsThread ht)
    · exact hok
  | callType => exact absurd trivial hop
  | copy f refused =>
    have hno : ¬ (h.holdsFrame f && !refused) = true := by
      intro hyes
      rw [Bool.and_eq_true, Bool.not_eq_true'] at hyes
      exact hop hyes
    show (if h.holdsFrame f && !refused then _ else _ : Heap).Ok
    rw [if_neg hno]
    exact hok
  | getVariables i =>
    rw [Heap.step]
    cases hf : h.frames[i]? with
    | none => exact hok
    | some f =>
      have hmem := List.mem_of_getElem? hf
      show (if f.held = 0 then h else h.getVariables f).Ok
      split_ifs with hheld
      · exact hok
      · rw [getVariables_eq hok hmem ((hok.frames f hmem).1 ▸ hheld)]
        exact hok
  | holdThread t => exact ok_holdThread hok t
  | holdFrame i => exact ok_holdFrame hok i
  | dropThread t => exact ok_dropThread hok t
  | dropFrame i => exact ok_dropFrame hok i

/-- An operation that makes a bare frame breaks the promise at once. -/
theorem not_framesOk_step {op : FrameOp} (hop : h.MakesBareFrame op) : ¬ (h.step op).FramesOk := by
  have hbare : ¬ h.genericNew.FramesOk := by
    intro hok
    obtain ⟨t, thd, ht, -⟩ := hok.frames ⟨default, none, 1, 1⟩ (by simp [Heap.genericNew]) (by simp)
    cases ht
  cases op with
  | callType => exact hbare
  | copy f refused =>
    obtain ⟨hf, hrefused⟩ := hop
    simpa [Heap.step, hf, hrefused] using hbare
  | _ => exact hop.elim

end DbgScript.Python
