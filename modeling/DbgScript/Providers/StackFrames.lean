import DbgScript.Python.StackFrames
import DbgScript.Ruby.StackFrames

/-!
# Frames and their threads

The scripts of the Python and of the Ruby provider in one session, each with its own
heap. A frame that `Thread.get_stack` or `current_frame` has made keeps its thread alive;
the classes still let a script make one without a thread (`bare_frames`).

* `frames_keep_threads_iff`: in which runs every frame has its thread at every time.
-/

namespace DbgScript

open Runs (run Along)

/-- The heaps of the two interpreters. -/
structure ScriptHeaps where
  python : Python.Heap
  ruby : Ruby.Heap

def ScriptHeaps.empty : ScriptHeaps := ⟨.empty, .empty⟩

/-- An operation of a Python or a Ruby script. -/
inductive ScriptOp where
  | python (op : Python.FrameOp)
  | ruby (op : Ruby.FrameOp)

def ScriptHeaps.step (s : ScriptHeaps) : ScriptOp → ScriptHeaps
  | .python op => { s with python := s.python.step op }
  | .ruby op => { s with ruby := s.ruby.step op }

/-- The operation makes a frame without a thread: in Python the type is called, or an object
    is copied by the default protocol and the interpreter does not refuse it; in Ruby the
    class answers to the method. -/
def ScriptHeaps.MakesBareFrame (s : ScriptHeaps) : ScriptOp → Prop
  | .python op => s.python.MakesBareFrame op
  | .ruby op => Ruby.MakesBareFrame op

/-- Every frame of either language has its thread. -/
structure ScriptHeaps.FramesOk (s : ScriptHeaps) : Prop where
  python : s.python.FramesOk
  ruby : s.ruby.FramesOk

structure ScriptHeaps.Ok (s : ScriptHeaps) : Prop where
  python : s.python.Ok
  ruby : s.ruby.Ok

theorem ScriptHeaps.ok_step {s : ScriptHeaps} {op : ScriptOp} (hok : s.Ok)
    (hop : ¬ s.MakesBareFrame op) : (s.step op).Ok := by
  cases op with
  | python op => exact ⟨Python.ok_step hok.python hop, hok.ruby⟩
  | ruby op => exact ⟨hok.python, Ruby.ok_step hok.ruby hop⟩

theorem ScriptHeaps.not_framesOk_step {s : ScriptHeaps} {op : ScriptOp}
    (hop : s.MakesBareFrame op) : ¬ (s.step op).FramesOk := by
  intro hok
  cases op with
  | python op => exact Python.not_framesOk_step hop hok.python
  | ruby op => exact Ruby.not_framesOk_step hop hok.ruby

/-- In every state of a run every frame has its thread, and the references are balanced,
    iff no operation of the run makes a bare frame. -/
theorem frames_keep_threads_iff (ops : List ScriptOp) :
    (∀ n, (run ScriptHeaps.step .empty (ops.take n)).FramesOk) ↔
      Along ScriptHeaps.step (fun s op => ¬ s.MakesBareFrame op) .empty ops := by
  refine Runs.take_iff_along (I := ScriptHeaps.Ok) ?_ ?_ ?_ ⟨Python.ok_empty, Ruby.ok_empty⟩ ops
  · exact fun s hok => ⟨hok.python.framesOk, hok.ruby.framesOk⟩
  · exact fun s op hok hop => ScriptHeaps.ok_step hok hop
  · intro s op hop
    exact ScriptHeaps.not_framesOk_step (not_not.mp hop)

/-- `type(frame)()` in Python, and `DbgScript::StackFrame.allocate` in Ruby. -/
theorem bare_frames :
    ¬ (run ScriptHeaps.step .empty [.python .callType]).FramesOk ∧
      ¬ (run ScriptHeaps.step .empty [.ruby (.make .allocate)]).FramesOk := by
  have hpython : ScriptHeaps.empty.MakesBareFrame (.python .callType) := trivial
  have hruby : ScriptHeaps.empty.MakesBareFrame (.ruby (.make .allocate)) :=
    (Ruby.respondsTo_iff .allocate).2 rfl
  exact ⟨ScriptHeaps.not_framesOk_step hpython, ScriptHeaps.not_framesOk_step hruby⟩

/-- Such a frame is dereferenced and released like any other. -/
example : (run Python.Heap.step .empty [.callType, .getVariables 0, .dropFrame 0]).faults =
    [.missingThread, .nullRelease] := rfl

end DbgScript
