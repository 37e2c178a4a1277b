import DbgScript.Lib.Runs
import DbgScript.Support.Requests

/-!
# The stack frames of Ruby scripts

`Thread` and `StackFrame` objects of src/rubyprov/thread.cpp and
src/rubyprov/stackframe.cpp on a heap that is collected by mark and sweep: a frame marks
its thread. The class methods that `LockDownClass` leaves defined can still make a frame
that has only been zeroed.

* `ok_collect`: a collection keeps the threads of the frames that it keeps.
* `ok_step`: operations that do not make a bare frame keep every frame on its thread.
-/

namespace DbgScript.Ruby

/-! ## Classes -/

/-- The methods of `Class` and `Object` that make an object of a class. -/
inductive Maker where
  | new
  | allocate
  | dup
  | clone
  deriving DecidableEq

/-- `LockDownClass(klass)` (src/rubyprov/util.cpp:28-43): the methods it undefines. -/
def lockDownClass : List Maker := [.new, .dup, .clone]

/-- The class answers to the method: `Init_StackFrame`
    (src/rubyprov/stackframe.cpp:269-309) defines an allocator and locks the class
    down. -/
def respondsTo (m : Maker) : Bool := m ∉ lockDownClass

/-! ## Objects -/

/-- A `DbgScriptThread` in an object; `held` says that the script refers to it. -/
structure ThreadObj where
  thread : DbgScriptThread
  held : Bool
  freed : Bool
  deriving DecidableEq

/-- `StackFrameObj`; `thread` is `0` in an object that has only been zeroed. -/
structure StackFrameObj where
  frame : DbgScriptStackFrame
  thread : Option ℕ
  held : Bool
  freed : Bool
  deriving DecidableEq

/-- What must not happen. -/
inductive Fault where
  | missingThread
  | freedThread
  | freedFrame
  deriving DecidableEq

structure Heap where
  threads : List ThreadObj
  frames : List StackFrameObj
  faults : List Fault

def Heap.empty : Heap := ⟨[], [], []⟩

/-! ## The functions of the provider -/

/-- `AllocThreadObj` (src/rubyprov/thread.cpp:268-287). -/
def Heap.allocThreadObj (h : Heap) (thd : DbgScriptThread) : Heap :=
  { h with threads := h.threads ++ [⟨thd, true, false⟩] }

/-- `StackFrame_alloc` (src/rubyprov/stackframe.cpp:248-255): a zeroed object. -/
def Heap.stackFrameAlloc (h : Heap) : Heap :=
  { h with frames := h.frames ++ [⟨default, none, true, false⟩] }

/-- A new object whose fields are filled in, as in `Thread_get_stack` and
    `Thread_current_frame` (src/rubyprov/thread.cpp:112-128, 199-213). -/
def Heap.newFrame (h : Heap) (t : ℕ) (frame : DbgScriptStackFrame) : Heap :=
  { h with frames := h.frames ++ [⟨frame, some t, true, false⟩] }

/-- The access of `getVariablesHelper` to the frame's thread
    (src/rubyprov/stackframe.cpp:111-135). -/
def Heap.getVariables (h : Heap) (f : StackFrameObj) : Heap :=
  match f.thread with
  | none => { h with faults := h.faults ++ [.missingThread] }
  | some t =>
    match h.threads[t]? with
    | none => { h with faults := h.faults ++ [.missingThread] }
    | some thd => if thd.freed then { h with faults := h.faults ++ [.freedThread] } else h

/-! ## Collection -/

/-- The frame is marked: the script or the machine stack refers to it. -/
def marksFrame (stackFrames : List ℕ) (i : ℕ) (f : StackFrameObj) : Bool :=
  !f.freed && (f.held || i ∈ stackFrames)

/-- The thread is marked: the script or the machine stack refers to it, or a marked frame
    does (`StackFrame_mark`, src/rubyprov/stackframe.cpp:229-234). -/
def Heap.marksThread (h : Heap) (stackThreads stackFrames : List ℕ) (t : ℕ) (thd : ThreadObj) :
    Bool :=
  !thd.freed && (thd.held || t ∈ stackThreads ||
    (h.frames.zipIdx.any fun (f, i) => marksFrame stackFrames i f && f.thread = some t))

/-- Mark and sweep. `stackThreads` and `stackFrames` are what the conservative scan of the
    machine stack takes for references. -/
def Heap.collect (h : Heap) (stackThreads stackFrames : List ℕ) : Heap :=
  { h with
    threads := h.threads.mapIdx fun t thd =>
      { thd with freed := !h.marksThread stackThreads stackFrames t thd }
    frames := h.frames.mapIdx fun i f => { f with freed := !marksFrame stackFrames i f } }

/-! ## The script -/

/-- What a script can do with threads and frames. -/
inductive FrameOp where
  -- `get_threads`, `current_thread`, `DbgScript::Thread.allocate`
  | newThread (thd : DbgScriptThread)
  | getStack (t : ℕ) (frames : List DbgScriptStackFrame)
  | currentFrame (t : ℕ) (frame : DbgScriptStackFrame)
  -- `DbgScript::StackFrame.new`, `.allocate`, `frame.dup`, `frame.clone`
  | make (m : Maker)
  -- `Marshal.dump(frame)`, a `TypeError` as there is no `_dump_data`
  | marshal (f : ℕ)
  -- `get_locals`, `get_args`
  | getVariables (f : ℕ)
  | dropThread (t : ℕ)
  | dropFrame (f : ℕ)
  | collect (stackThreads stackFrames : List ℕ)
  deriving DecidableEq

/-- The script refers to the thread. -/
def Heap.holdsThread (h : Heap) (t : ℕ) : Bool :=
  match h.threads[t]? with
  | none => false
  | some thd => thd.held

/-- One operation; on an object that the script does not have, it is none. -/
def Heap.step (h : Heap) : FrameOp → Heap
  | .newThread thd => h.allocThreadObj thd
  | .getStack t frames => if h.holdsThread t then frames.foldl (·.newFrame t ·) h else h
  | .currentFrame t frame => if h.holdsThread t then h.newFrame t frame else h
  | .make m => if respondsTo m then h.stackFrameAlloc else h
  | .marshal _ => h
  | .getVariables i =>
    match h.frames[i]? with
    | none => h
    | some f =>
      if f.held then
        if f.freed then { h with faults := h.faults ++ [.freedFrame] } else h.getVariables f
      else h
  | .dropThread t => { h with threads := h.threads.modify t fun thd => { thd with held := false } }
  | .dropFrame i => { h with frames := h.frames.modify i fun f => { f with held := false } }
  | .collect stackThreads stackFrames => h.collect stackThreads stackFrames

/-- The operation makes a frame without a thread. -/
def MakesBareFrame : FrameOp → Prop
  | .make m => respondsTo m
  | _ => False

/-- Every frame on the heap has a thread there, no frame of the script has been freed, and
    nothing has gone wrong. -/
structure Heap.FramesOk (h : Heap) : Prop where
  frames : ∀ f ∈ h.frames, f.freed = false →
    ∃ t thd, f.thread = some t ∧ h.threads[t]? = some thd ∧ thd.freed = false
  held : ∀ f ∈ h.frames, f.held = true → f.freed = false
  faults : h.faults = []

/-! ## The invariant -/

/-- The thread has been made and is still there. -/
def Heap.Live (h : Heap) (t : ℕ) : Prop := ∃ thd, h.threads[t]? = some thd ∧ thd.freed = false

structure Heap.Ok (h : Heap) : Prop where
  frames : ∀ f ∈ h.frames, f.freed = false → ∃ t, f.thread = some t ∧ h.Live t
  heldFrames : ∀ f ∈ h.frames, f.held = true → f.freed = false
  heldThreads : ∀ thd ∈ h.threads, thd.held = true → thd.freed = false
  faults : h.faults = []

theorem ok_empty : Heap.empty.Ok := by
  refine ⟨?_, ?_, ?_, rfl⟩
  · exact fun f hf => absurd hf List.not_mem_nil
  · exact fun f hf => absurd hf List.not_mem_nil
  · exact fun thd hthd => absurd hthd List.not_mem_nil

variable {h : Heap} {t : ℕ} {f : StackFrameObj}

theorem Heap.Ok.framesOk (hok : h.Ok) : h.FramesOk := by
  refine ⟨?_, hok.heldFrames, hok.faults⟩
  intro f hf hlive
  obtain ⟨t, ht, thd, hthd⟩ := hok.frames f hf hlive
  exact ⟨t, thd, ht, hthd⟩

theorem live_of_holdsThread (hok : h.Ok) (ht : h.holdsThread t) : h.Live t := by
  rw [Heap.holdsThread] at ht
  cases hthd : h.threads[t]? with
  | none => simp [hthd] at ht
  | some thd =>
    rw [hthd] at ht
    exact ⟨thd, hthd, hok.heldThreads thd (List.mem_of_getElem? hthd) ht⟩

/-! ## What the operations do -/

theorem ok_allocThreadObj (hok : h.Ok) (thd : DbgScriptThread) : (h.allocThreadObj thd).Ok := by
  refine ⟨?_, hok.heldFrames, ?_, hok.faults⟩
  · intro f hf hlive
    obtain ⟨t, ht, thd', hthd', hfreed⟩ := hok.frames f hf hlive
    refine ⟨t, ht, thd', ?_, hfreed⟩
    rw [Heap.allocThreadObj, List.getElem?_append_left (List.getElem?_eq_some_iff.mp hthd').1]
    exact hthd'
  · intro thd' hthd' hheld
    rcases List.mem_append.mp hthd' with hthd' | hthd'
    · exact hok.heldThreads thd' hthd' hheld
    · rw [List.mem_singleton.mp hthd']

theorem ok_newFrame (hok : h.Ok) (ht : h.Live t) (frame : DbgScriptStackFrame) :
    (h.newFrame t frame).Ok := by
  refine ⟨?_, ?_, hok.heldThreads, hok.faults⟩
  · intro f hf hlive
    rcases List.mem_append.mp hf with hf | hf
    · exact hok.frames f hf hlive
    · rw [List.mem_singleton.mp hf]
      exact ⟨t, rfl, ht⟩
  · intro f hf hheld
    rcases List.mem_append.mp hf with hf | hf
    · exact hok.heldFrames f hf hheld
    · rw [List.mem_singleton.mp hf]

theorem ok_newFrames (hok : h.Ok) (ht : h.Live t) (frames : List DbgScriptStackFrame) :
    (frames.foldl (·.newFrame t ·) h).Ok := by
  induction frames generalizing h with
  | nil => exact hok
  | cons frame frames ih => exact ih (ok_newFrame hok ht frame) ht

theorem ok_dropThread (hok : h.Ok) (t : ℕ) : (h.step (.dropThread t)).Ok := by
  refine ⟨?_, hok.heldFrames, ?_, hok.faults⟩
  · intro f hf hlive
    obtain ⟨t', ht', thd, hthd, hfreed⟩ := hok.frames f hf hlive
    refine ⟨t', ht', if t = t' then { thd with held := false } else thd, ?_, ?_⟩
    · rw [Heap.step, List.getElem?_modify, hthd]
      split_ifs <;> rfl
    · split_ifs
      · exact hfreed
      · exact hfreed
  · intro thd hthd hheld
    obtain ⟨t', ht'⟩ := List.mem_iff_getElem?.mp hthd
    rw [Heap.step, List.getElem?_modify] at ht'
    obtain ⟨thd', hthd', heq⟩ := Option.map_eq_some_iff.mp ht'
    rw [← heq] at hheld ⊢
    split_ifs at hheld ⊢
    exact hok.heldThreads thd' (List.mem_of_getElem? hthd') hheld

/-- What is dropped is as it was, but for the script's reference. -/
theorem mem_dropFrame {i : ℕ} (hf : f ∈ (h.step (.dropFrame i)).frames) :
    ∃ f' ∈ h.frames, f.thread = f'.thread ∧ f.freed = f'.freed ∧
      (f.held = true → f'.held = true) := by
  obtain ⟨j, hj⟩ := List.mem_iff_getElem?.mp hf
  rw [Heap.step, List.getElem?_modify] at hj
  obtain ⟨f', hf', heq⟩ := Option.map_eq_some_iff.mp hj
  refine ⟨f', List.mem_of_getElem? hf', ?_⟩
  rw [← heq]
  split_ifs
  · exact ⟨rfl, rfl, by simp⟩
  · exact ⟨rfl, rfl, id⟩

theorem ok_dropFrame (hok : h.Ok) (i : ℕ) : (h.step (.dropFrame i)).Ok := by
  refine ⟨?_, ?_, hok.heldThreads, hok.faults⟩
  · intro f hf hlive
    obtain ⟨f', hf', hthread, hfreed, -⟩ := mem_dropFrame hf
    rw [hthread]
    exact hok.frames f' hf' (hfreed ▸ hlive)
  · intro f hf hheld
    obtain ⟨f', hf', -, hfreed, hheld'⟩ := mem_dropFrame hf
    rw [hfreed]
    exact hok.heldFrames f' hf' (hheld' hheld)

/-- The thread of a frame is found. -/
theorem getVariables_eq (hok : h.Ok) (hf : f ∈ h.frames) (hlive : f.freed = false) :
    h.getVariables f = h := by
  obtain ⟨t, ht, thd, hthd, hfreed⟩ := hok.frames f hf hlive
  simp [Heap.getVariables, ht, hthd, hfreed]

/-- The threads of the marked frames are marked. -/
theorem marksThread_of_frame {stackThreads stackFrames : List ℕ} {i : ℕ} {thd : ThreadObj}
    (hf : h.frames[i]? = some f) (hmark : marksFrame stackFrames i f = true)
    (ht : f.thread = some t) (hfreed : thd.freed = false) :
    h.marksThread stackThreads stackFrames t thd = true := by
  have hany : (h.frames.zipIdx.any fun (f, i) =>
      marksFrame stackFrames i f && f.thread = some t) = true := by
    rw [List.any_eq_true]
    refine ⟨(f, i), List.mem_zipIdx_iff_getElem?.mpr hf, ?_⟩
    simp [hmark, ht]
  rw [Heap.marksThread, hfreed, hany]
  simp

/-- A collection keeps what the script refers to and the threads of the frames it keeps. -/
theorem ok_collect (hok : h.Ok) (stackThreads stackFrames : List ℕ) :
    (h.collect stackThreads stackFrames).Ok := by
  refine ⟨?_, ?_, ?_, hok.faults⟩
  · intro f hf hlive
    obtain ⟨i, hi⟩ := List.mem_iff_getElem?.mp hf
    rw [Heap.collect, List.getElem?_mapIdx] at hi
    obtain ⟨f', hf', heq⟩ := Option.map_eq_some_iff.mp hi
    rw [← heq] at hlive ⊢
    have hmark : marksFrame stackFrames i f' = true := by simpa using hlive
    have hlive' : f'.freed = false := by
      rw [marksFrame, Bool.and_eq_true, Bool.not_eq_true'] at hmark
      exact hmark.1
    obtain ⟨t, ht, thd, hthd, hfreed⟩ := hok.frames f' (List.mem_of_getElem? hf') hlive'
    refine ⟨t, ht, { thd with freed := !h.marksThread stackThreads stackFrames t thd }, ?_, ?_⟩
    · rw [Heap.collect, List.getElem?_mapIdx, hthd]
      rfl
    · rw [marksThread_of_frame hf' hmark ht hfreed]
      rfl
  · intro f hf hheld
    obtain ⟨i, hi⟩ := List.mem_iff_getElem?.mp hf
    rw [Heap.collect, List.getElem?_mapIdx] at hi
    obtain ⟨f', hf', heq⟩ := Option.map_eq_some_iff.mp hi
    rw [← heq] at hheld ⊢
    have hheld' : f'.held = true := hheld
    show (!marksFrame stackFrames i f') = false
    simp [marksFrame, hok.heldFrames f' (List.mem_of_getElem? hf') hheld', hheld']
  · intro thd hthd hheld
    obtain ⟨t, ht⟩ := List.mem_iff_getElem?.mp hthd
    rw [Heap.collect, List.getElem?_mapIdx] at ht
    obtain ⟨thd', hthd', heq⟩ := Option.map_eq_some_iff.mp ht
    rw [← heq] at hheld ⊢
    have hheld' : thd'.held = true := hheld
    show (!h.marksThread stackThreads stackFrames t thd') = false
    simp [Heap.marksThread, hok.heldThreads thd' (List.mem_of_getElem? hthd') hheld', hheld']

/-- Every operation that does not make a bare frame keeps the invariant. -/
theorem ok_step (hok : h.Ok) {op : FrameOp} (hop : ¬ MakesBareFrame op) : (h.step op).Ok := by
  cases op with
  | newThread thd => exact ok_allocThreadObj hok thd
  | getStack t frames =>
    show (if h.holdsThread t then _ else _ : Heap).Ok
    split_ifs with ht
    · exact ok_newFrames hok (live_of_holdsThread hok ht) frames
    · exact hok
  | currentFrame t frame =>
    show (if h.holdsThread t then _ else _ : Heap).Ok
    split_ifs with ht
    · exact ok_newFrame hok (live_of_holdsThread hok ht) frame
    · exact hok
  | make m =>
    have hm : ¬ respondsTo m = true := hop
    rw [Heap.step, if_neg hm]
    exact hok
  | marshal f => exact hok
  | getVariables i =>
    rw [Heap.step]
    cases hf : h.frames[i]? with
    | none => exact hok
    | some f =>
      have hmem := List.mem_of_getElem? hf
      dsimp only
      split_ifs with hheld hfreed
      · rw [hok.heldFrames f hmem hheld] at hfreed
        exact Bool.noConfusion hfreed
      · rw [getVariables_eq hok hmem (by simpa using hfreed)]
        exact hok
      · exact hok
  | dropThread t => exact ok_dropThread hok t
  | dropFrame i => exact ok_dropFrame hok i
  | collect stackThreads stackFrames => exact ok_collect hok stackThreads stackFrames

/-- Of the methods that make an object, `allocate` is left. -/
theorem respondsTo_iff (m : Maker) : respondsTo m ↔ m = .allocate := by
  cases m <;> decide

/-- An operation that makes a bare frame breaks the promise at once. -/
theorem not_framesOk_step {op : FrameOp} (hop : MakesBareFrame op) : ¬ (h.step op).FramesOk := by
  cases op with
  | make m =>
    intro hok
    have hm : respondsTo m = true := hop
    rw [Heap.step, if_pos hm] at hok
    obtain ⟨t, thd, ht, -⟩ := hok.frames ⟨default, none, true, false⟩
      (by simp [Heap.stackFrameAlloc]) rfl
    cases ht
  | _ => exact hop.elim

end DbgScript.Ruby
