import DbgScript.Lua.ScriptApi
import DbgScript.Python.ScriptApi
import DbgScript.Ruby.ScriptApi

/-!
# One script in three languages

A script calls the interface, one call after the other, and decides on the next call by what
it has seen so far. It names what it has got by its position, and of the rest it sees the
values. The same script can be written in each of the three languages.

* `Conforms.run`: whatever a provider's functions keep to, call by call, its runs keep to.
* `run_conforms`: in a run in which nobody presses Ctrl-C and CPython does what it is asked,
  the debugger is asked what the interface asks it.
* `run_interchangeable`: such a run can be had in another language, and the script sees the
  same, unless the interface gives up on the way.
-/

namespace DbgScript.ScriptApi

open Dialogue (Covers Exchange Talk)
open Python (PyAnswer PyErr)

/-! ## Scripts -/

/-- A call of the interface; what it is made on is given by its position among the entities
    that the script has got. -/
inductive Op where
  | module (c : ModuleCall)
  | object (i : ℕ) (c : ObjectCall)
  | thread (i : ℕ) (c : ThreadCall)
  | frame (i : ℕ) (c : FrameCall)

inductive Kind where
  | object
  | thread
  | frame
  deriving DecidableEq

/-- What a script sees of the outcome of a call. -/
inductive Seen where
  | error
  | other
  | nothing
  | integer (i : UINT64)
  | boolean (b : Bool)
  | single (bits : BitVec 32)
  | double (bits : BitVec 64)
  | text (s : List CHAR)
  | entity (kind : Kind)
  | entities (kinds : List Kind)
  deriving DecidableEq

/-- The next call, if any, after what has been seen. -/
abbrev Script := List Seen → Option Op

variable {O : Type}

def Entity.kind : Entity O → Kind
  | .object _ => .object
  | .thread _ => .thread
  | .frame _ _ => .frame

def Reply.seen : Reply O → Seen
  | .other => .other
  | .nothing => .nothing
  | .integer i => .integer i
  | .boolean b => .boolean b
  | .single bits => .single bits
  | .double bits => .double bits
  | .text s => .text s
  | .entity e => .entity e.kind
  | .entities es => .entities (es.map Entity.kind)

/-- What the reply adds to the entities of the script. -/
def Reply.got : Reply O → List (Entity O)
  | .entity e => [e]
  | .entities es => es
  | _ => []

/-- The entities that the script has got, and what it has seen. -/
structure World (O : Type) where
  entities : List (Entity O)
  seen : List Seen

def World.empty : World O := ⟨[], []⟩

/-- The next world, as long as anything is promised. -/
def World.after (w : World O) : Outcome O → Option (World O)
  | .error .unspecified => none
  | .error .raised => some ⟨w.entities, w.seen ++ [.error]⟩
  | .ok r => some ⟨w.entities ++ r.got, w.seen ++ [r.seen]⟩

/-! ## Implementations -/

/-- The functions behind the interface. A call on an object returns what it leaves of it. -/
structure Implementation (O : Type) where
  moduleCall : ModuleCall → Dialogue PyAnswer (Outcome O)
  objectCall : O → ObjectCall → Dialogue PyAnswer (O × Outcome O)
  threadCall : DbgScriptThread → ThreadCall → Dialogue PyAnswer (Outcome O)
  frameCall : DbgScriptStackFrame → DbgScriptThread → FrameCall → Dialogue PyAnswer (Outcome O)

/-- One call. What is not an entity of the right kind does not answer to it. -/
def World.step (I : Implementation O) (w : World O) : Op → Dialogue PyAnswer (Option (World O))
  | .module c => Dialogue.bind (I.moduleCall c) fun r => .done (w.after r)
  | .object i c =>
    match w.entities[i]? with
    | some (.object o) => Dialogue.bind (I.objectCall o c) fun r =>
      .done (({ w with entities := w.entities.set i (.object r.1) } : World O).after r.2)
    | _ => .done (w.after (.error .raised))
  | .thread i c =>
    match w.entities[i]? with
    | some (.thread thd) => Dialogue.bind (I.threadCall thd c) fun r => .done (w.after r)
    | _ => .done (w.after (.error .raised))
  | .frame i c =>
    match w.entities[i]? with
    | some (.frame frame thd) =>
      Dialogue.bind (I.frameCall frame thd c) fun r => .done (w.after r)
    | _ => .done (w.after (.error .raised))

/-- At most `n` calls of the script; `I` says what stands behind the interface at each. -/
def runScript (I : ℕ → Implementation O) (script : Script) :
    ℕ → World O → Dialogue PyAnswer (Option (World O))
  | 0, w => .done (some w)
  | n + 1, w =>
    match script w.seen with
    | none => .done (some w)
    | some op => Dialogue.bind (w.step (I w.seen.length) op) fun
      | none => .done none
      | some w => runScript I script n w

/-! ## The interface and the three providers -/

/-- The interface itself. -/
def interface : Implementation Datum where
  moduleCall c := (moduleCall c).attempt.inl
  objectCall x c := Dialogue.bind (objectCall x c).attempt.inl fun r => .done (x, r)
  threadCall thd c := (threadCall thd c).attempt.inl
  frameCall frame thd c := (frameCall frame thd c).attempt.inl

/-- What the script sees of an error. -/
def outcome {ε : Type} : Except ε (Reply O) → Outcome O
  | .error _ => .error .raised
  | .ok r => .ok r

/-- The Lua provider; the `i`-th object that a call makes is on the block `mem i`. -/
def luaProvider (mem : ℕ → DbgScriptTypedObject) : Implementation DbgScriptTypedObject where
  moduleCall c := Dialogue.bind (Lua.moduleCall (mem 0) c).attempt.inl fun r => .done (outcome r)
  objectCall o c := Dialogue.bind (Lua.objectCall (mem 0) o c).inl fun r =>
    .done (r.1, outcome (r.2.map Lua.reply))
  threadCall thd c := Dialogue.bind (Lua.threadCall thd c).attempt.inl fun r => .done (outcome r)
  frameCall frame thd c := Dialogue.bind (Lua.frameCall mem frame thd c).attempt.inl fun r =>
    .done (outcome r)

def rubyProvider : Implementation DbgScriptTypedObject where
  moduleCall c := Dialogue.bind (Ruby.moduleCall c).attempt.inl fun r => .done (outcome r)
  objectCall o c := Dialogue.bind (Ruby.objectCall o c).inl fun r =>
    .done (r.1, outcome (r.2.map Ruby.reply))
  threadCall thd c := Dialogue.bind (Ruby.threadCall thd c).attempt.inl fun r => .done (outcome r)
  frameCall frame thd c := Dialogue.bind (Ruby.frameCall frame thd c).attempt.inl fun r =>
    .done (outcome r)

/-- What the script sees of null. -/
def pyOutcome : Option (Reply O) × Option PyErr → Outcome O
  | (some r, _) => .ok r
  | (none, _) => .error .raised

/-- Every call is made without an exception pending. -/
def pythonProvider : Implementation DbgScriptTypedObject where
  moduleCall c := Dialogue.bind ((Python.moduleCall c).attempt none) fun r => .done (pyOutcome r)
  objectCall o c := Dialogue.bind (Python.objectCall o c) fun r => .done (r.1, pyOutcome r.2)
  threadCall thd c := Dialogue.bind ((Python.threadCall thd c).attempt none) fun r =>
    .done (pyOutcome r)
  frameCall frame thd c := Dialogue.bind ((Python.frameCall frame thd c).attempt none) fun r =>
    .done (pyOutcome r)

/-- The provider of a language. -/
def provider (mem : ℕ → DbgScriptTypedObject) : Language → Implementation DbgScriptTypedObject
  | .lua => luaProvider mem
  | .python => pythonProvider
  | .ruby => rubyProvider

/-! ## Conformance -/

/-- An error for an error, or the reply that is promised. -/
inductive Answers : Outcome DbgScriptTypedObject → Outcome Datum → Prop
  | raised : Answers (.error .raised) (.error .raised)
  | replied {r : Reply DbgScriptTypedObject} {b : Reply Datum} (h : Promised r b) :
      Answers (.ok r) (.ok b)

/-- The functions do what the interface promises. -/
structure Conforms (I : Implementation DbgScriptTypedObject) : Prop where
  moduleCall : ∀ c, Covers quiet Unspecified Answers (I.moduleCall c) (interface.moduleCall c)
  objectCall : ∀ o x, Represents o x → ∀ c, Covers quiet (fun r => Unspecified r.2)
    (fun r r' => Represents r.1 r'.1 ∧ Answers r.2 r'.2) (I.objectCall o c)
    (interface.objectCall x c)
  threadCall : ∀ thd c, Covers quiet Unspecified Answers (I.threadCall thd c)
    (interface.threadCall thd c)
  frameCall : ∀ frame thd c, Covers quiet Unspecified Answers (I.frameCall frame thd c)
    (interface.frameCall frame thd c)

theorem answers_outcome {ε ρ : Type} {r : Except ε ρ} {f : ρ → Reply DbgScriptTypedObject}
    {b : Outcome Datum} (h : Caught (fun a b => Promised (f a) b) r b) :
    Answers (outcome (r.map f)) b := by
  cases h with
  | error e => exact .raised
  | ok h => exact .replied h

theorem answers_pyOutcome {r : Option (Reply DbgScriptTypedObject) × Option PyErr}
    {b : Outcome Datum} (h : Pending Promised r b) : Answers (pyOutcome r) b := by
  cases h with
  | null flag => exact .raised
  | value h => exact .replied h

theorem covers_outcome {ε : Type} {f : Throws Request.Answer ε (Reply DbgScriptTypedObject)}
    {g : ApiM (Reply Datum)} (h : Refines Promised f g) :
    Covers quiet Unspecified Answers (Dialogue.bind f.attempt.inl fun r => .done (outcome r))
      g.attempt.inl := by
  refine Covers.bind_left h ?_
  rintro _ _ (e | hab)
  · exact .done .raised
  · exact .done (.replied hab)

theorem covers_pyOutcome {f : Python.PyM (Reply DbgScriptTypedObject)} {g : ApiM (Reply Datum)}
    (h : PyRefines Promised f g) :
    Covers quiet Unspecified Answers (Dialogue.bind (f.attempt none) fun r => .done (pyOutcome r))
      g.attempt.inl :=
  Covers.bind_left h fun _ _ hr => .done (answers_pyOutcome hr)

/-- The interface leaves an object as it is. -/
theorem covers_interface {α : Type} {R : DbgScriptTypedObject × Outcome DbgScriptTypedObject →
      Datum × Outcome Datum → Prop} {S : α → Outcome Datum → Prop}
    {d : Dialogue PyAnswer α} {v : α → DbgScriptTypedObject × Outcome DbgScriptTypedObject}
    {x : Datum} {c : ObjectCall} (h : Covers quiet Unspecified S d (objectCall x c).attempt.inl)
    (hv : ∀ a b, S a b → R (v a) (x, b)) :
    Covers quiet (fun r => Unspecified r.2) R (Dialogue.bind d fun a => .done (v a))
      (interface.objectCall x c) :=
  h.bind (fun b hb => ⟨(x, b), hb, rfl⟩) fun a b hab => .done (hv a b hab)

theorem conforms_lua (mem : ℕ → DbgScriptTypedObject) : Conforms (luaProvider mem) where
  moduleCall c := covers_outcome (Lua.moduleCall_refines (mem 0) c)
  objectCall _ _ h c := covers_interface (Lua.objectCall_refines (mem 0) h c)
    fun _ _ hr => ⟨hr.1, answers_outcome hr.2⟩
  threadCall thd c := covers_outcome (Lua.threadCall_refines thd c)
  frameCall frame thd c := covers_outcome (Lua.frameCall_refines mem frame thd c)

theorem conforms_ruby : Conforms rubyProvider where
  moduleCall c := covers_outcome (Ruby.moduleCall_refines c)
  objectCall _ _ h c := covers_interface (Ruby.objectCall_refines h c)
    fun _ _ hr => ⟨hr.1, answers_outcome hr.2⟩
  threadCall thd c := covers_outcome (Ruby.threadCall_refines thd c)
  frameCall frame thd c := covers_outcome (Ruby.frameCall_refines frame thd c)

theorem conforms_python : Conforms pythonProvider where
  moduleCall c := covers_pyOutcome (Python.moduleCall_refines c)
  objectCall _ _ h c := covers_interface (Python.objectCall_refines h c)
    fun _ _ hr => ⟨hr.1, answers_pyOutcome hr.2⟩
  threadCall thd c := covers_pyOutcome (Python.threadCall_refines thd c)
  frameCall frame thd c := covers_pyOutcome (Python.frameCall_refines frame thd c)

theorem conforms_provider (mem : ℕ → DbgScriptTypedObject) (l : Language) :
    Conforms (provider mem l) := by
  cases l with
  | lua => exact conforms_lua mem
  | python => exact conforms_python
  | ruby => exact conforms_ruby

/-! ## Worlds -/

/-- The script holds objects that represent those of the interface, and has seen the same. -/
structure Mirrors (w : World DbgScriptTypedObject) (v : World Datum) : Prop where
  entities : List.Forall₂ (EntityRel Represents) w.entities v.entities
  seen : w.seen = v.seen

/-- Both worlds go on. -/
inductive Tracks : Option (World DbgScriptTypedObject) → Option (World Datum) → Prop
  | on {w : World DbgScriptTypedObject} {v : World Datum} (h : Mirrors w v) :
      Tracks (some w) (some v)

variable {w : World DbgScriptTypedObject} {v : World Datum}

theorem kind_eq {e : Entity DbgScriptTypedObject} {e' : Entity Datum}
    (h : EntityRel Represents e e') : e.kind = e'.kind := by
  cases h with
  | object h => rfl
  | thread thd => rfl
  | frame frame thd => rfl

theorem seen_eq {r : Reply DbgScriptTypedObject} {b : Reply Datum} (h : Promised r b) :
    r.seen = b.seen := by
  cases h with
  | entity h => exact congrArg Seen.entity (kind_eq h)
  | entities h =>
    refine congrArg Seen.entities ?_
    induction h with
    | nil => rfl
    | cons h _ ih => rw [List.map_cons, List.map_cons, kind_eq h, ih]
  | _ => rfl

theorem got_rel {r : Reply DbgScriptTypedObject} {b : Reply Datum} (h : Promised r b) :
    List.Forall₂ (EntityRel Represents) r.got b.got := by
  cases h with
  | entity h => exact .cons h .nil
  | entities h => exact h
  | _ => exact .nil

theorem Mirrors.after (h : Mirrors w v) {r : Outcome DbgScriptTypedObject} {b : Outcome Datum}
    (hr : Answers r b) : Tracks (w.after r) (v.after b) := by
  cases hr with
  | raised => exact .on ⟨h.entities, congrArg (· ++ [.error]) h.seen⟩
  | replied hb =>
    refine .on ⟨List.rel_append h.entities (got_rel hb), ?_⟩
    show w.seen ++ _ = v.seen ++ _
    rw [h.seen, seen_eq hb]

theorem entities_get {es : List (Entity DbgScriptTypedObject)} {es' : List (Entity Datum)}
    (h : List.Forall₂ (EntityRel Represents) es es') (i : ℕ) :
    Option.Rel (EntityRel Represents) es[i]? es'[i]? := by
  induction h generalizing i with
  | nil => exact .none
  | cons h _ ih =>
    cases i with
    | zero => exact .some h
    | succ i => exact ih i

theorem entities_set {es : List (Entity DbgScriptTypedObject)} {es' : List (Entity Datum)}
    (h : List.Forall₂ (EntityRel Represents) es es') (i : ℕ) {o : DbgScriptTypedObject} {x : Datum}
    (hx : Represents o x) :
    List.Forall₂ (EntityRel Represents) (es.set i (.object o)) (es'.set i (.object x)) := by
  induction h generalizing i with
  | nil => exact .nil
  | cons h htail ih =>
    cases i with
    | zero => exact .cons (.object hx) htail
    | succ i => exact .cons h (ih i)

theorem Mirrors.set (h : Mirrors w v) (i : ℕ) {o : DbgScriptTypedObject} {x : Datum}
    (hx : Represents o x) :
    Mirrors { w with entities := w.entities.set i (.object o) }
      { v with entities := v.entities.set i (.object x) } :=
  ⟨entities_set h.entities i hx, h.seen⟩

/-! ## Runs -/

variable {I : Implementation DbgScriptTypedObject}

/-- The end of what is promised of the call is the end of what is promised of the run. -/
theorem after_unspecified {b : Outcome Datum} (hb : Unspecified b) : v.after b = none := by
  obtain rfl : b = .error .unspecified := hb
  rfl

/-- One call keeps the worlds together. -/
theorem Conforms.step (hI : Conforms I) (h : Mirrors w v) (op : Op) :
    Covers quiet (· = none) Tracks (w.step I op) (v.step interface op) := by
  have hcall : ∀ {d : Dialogue PyAnswer (Outcome DbgScriptTypedObject)}
      {e : Dialogue PyAnswer (Outcome Datum)}, Covers quiet Unspecified Answers d e →
      Covers quiet (· = none) Tracks (Dialogue.bind d fun r => .done (w.after r))
        (Dialogue.bind e fun r => .done (v.after r)) := by
    intro d e hcovers
    refine hcovers.bind (fun b hb => ⟨_, rfl, ?_⟩) fun r b hr => .done (h.after hr)
    rw [after_unspecified hb]
  have herror : Covers quiet (· = none) Tracks
      (.done (w.after (.error .raised)) : Dialogue PyAnswer _) (.done (v.after (.error .raised))) :=
    .done (h.after .raised)
  cases op with
  | module c => exact hcall (hI.moduleCall c)
  | object i c =>
    have hi := entities_get h.entities i
    rw [World.step, World.step]
    revert hi
    generalize w.entities[i]? = e
    generalize v.entities[i]? = e'
    intro hi
    cases hi with
    | none => exact herror
    | some he =>
      cases he with
      | object hx =>
        refine (hI.objectCall _ _ hx c).bind (fun b hb => ⟨_, rfl, ?_⟩) ?_
        · rw [after_unspecified hb]
        · rintro r b ⟨hx', hr⟩
          exact .done ((h.set i hx').after hr)
      | thread thd => exact herror
      | frame frame thd => exact herror
  | thread i c =>
    have hi := entities_get h.entities i
    rw [World.step, World.step]
    revert hi
    generalize w.entities[i]? = e
    generalize v.entities[i]? = e'
    intro hi
    cases hi with
    | none => exact herror
    | some he =>
      cases he with
      | object hx => exact herror
      | thread thd => exact hcall (hI.threadCall thd c)
      | frame frame thd => exact herror
  | frame i c =>
    have hi := entities_get h.entities i
    rw [World.step, World.step]
    revert hi
    generalize w.entities[i]? = e
    generalize v.entities[i]? = e'
    intro hi
    cases hi with
    | none => exact herror
    | some he =>
      cases he with
      | object hx => exact herror
      | thread thd => exact herror
      | frame frame thd => exact hcall (hI.frameCall frame thd c)

/-- At any call something else may stand behind the interface, as long as it does what is
    promised. -/
theorem Conforms.run {I : ℕ → Implementation DbgScriptTypedObject} (hI : ∀ n, Conforms (I n))
    (script : Script) (n : ℕ) (h : Mirrors w v) :
    Covers quiet (· = none) Tracks (runScript I script n w)
      (runScript (fun _ => interface) script n v) := by
  induction n generalizing w v with
  | zero => exact .done (.on h)
  | succ n ih =>
    rw [runScript, runScript, h.seen]
    cases script v.seen with
    | none => exact .done (.on h)
    | some op =>
      refine ((hI _).step h op).bind ?_ ?_
      · rintro _ rfl
        exact ⟨none, rfl, rfl⟩
      · rintro _ _ ⟨h⟩
        exact ih h

theorem mirrors_empty : Mirrors .empty .empty := ⟨.nil, rfl⟩

/-- A run of the script with the provider of the language; `mem` is the memory that Lua gives
    the objects of each call. -/
def runIn (l : Language) (mem : ℕ → ℕ → DbgScriptTypedObject) (script : Script) (n : ℕ) :
    Dialogue PyAnswer (Option (World DbgScriptTypedObject)) :=
  runScript (fun k => provider (mem k) l) script n .empty

/-- What is promised of the run. -/
def promisedRun (script : Script) (n : ℕ) : Dialogue PyAnswer (Option (World Datum)) :=
  runScript (fun _ => interface) script n .empty

theorem covers_runIn (l : Language) (mem : ℕ → ℕ → DbgScriptTypedObject) (script : Script)
    (n : ℕ) : Covers quiet (· = none) Tracks (runIn l mem script n) (promisedRun script n) :=
  Conforms.run (fun k => conforms_provider (mem k) l) script n mirrors_empty

/-! ## A script -/

/-- Read the pointer at the address of the PEB. -/
def readPeb : Script
  | [] => some (.module .getPeb)
  | [.integer peb] => some (.module (.readPtr peb))
  | _ => none

/-- What the debugger answers. -/
def pebAnswers : List (Exchange PyAnswer) :=
  [⟨.inl .getCurrentProcessPeb, (S_OK, (0x7ff0 : UINT64))⟩,
    ⟨.inl (.readPointer 0x7ff0), (S_OK, (0x1234 : UINT64))⟩]

/-- The same in Lua, where each call first looks for Ctrl-C. -/
def luaPebAnswers : List (Exchange PyAnswer) :=
  [⟨.inl .getInterrupt, S_FALSE⟩, ⟨.inl .getCurrentProcessPeb, (S_OK, (0x7ff0 : UINT64))⟩,
    ⟨.inl .getInterrupt, S_FALSE⟩, ⟨.inl (.readPointer 0x7ff0), (S_OK, (0x1234 : UINT64))⟩]

theorem quiet_luaPebAnswers : quiet.Quiet luaPebAnswers := by
  intro q hq hsilent
  simp only [luaPebAnswers, List.mem_cons, List.not_mem_nil, or_false] at hq
  rcases hq with rfl | rfl | rfl | rfl
  · exact show S_FALSE ≠ S_OK by decide
  · exact Bool.noConfusion hsilent
  · exact show S_FALSE ≠ S_OK by decide
  · exact Bool.noConfusion hsilent

theorem talk_luaPeb (mem : ℕ → ℕ → DbgScriptTypedObject) :
    Talk (runIn .lua mem readPeb 2) luaPebAnswers
      (some ⟨[], [.integer 0x7ff0, .integer 0x1234]⟩) :=
  .ask (.ask (.ask (.ask (.done _))))

theorem promised_readPeb :
    Talk (promisedRun readPeb 2) pebAnswers (some ⟨[], [.integer 0x7ff0, .integer 0x1234]⟩) :=
  .ask (.ask (.done _))

/-- What goes on to the end has not given up on the way. -/
theorem not_givenUp {script : Script} {n : ℕ} {qs : List (Exchange PyAnswer)} {v : World Datum}
    (h : Talk (promisedRun script n) qs (some v)) :
    ¬ ∃ qs', qs' <+: qs ∧ Talk (promisedRun script n) qs' none := by
  rintro ⟨qs', hpre, h'⟩
  obtain ⟨-, heq⟩ := h.unique h' hpre
  exact Option.some_ne_none v heq.symm

/-! ## The three languages -/

/-- While nobody presses Ctrl-C and CPython does what it is asked, the debugger is asked what
    the interface asks it, and the script sees what it promises, until it gives up. -/
theorem run_conforms (l : Language) (mem : ℕ → ℕ → DbgScriptTypedObject) (script : Script) (n : ℕ)
    {qs : List (Exchange PyAnswer)} {w : Option (World DbgScriptTypedObject)}
    (ht : Talk (runIn l mem script n) qs w) (hq : quiet.Quiet qs) :
    (∃ qs', qs' <+: quiet.visible qs ∧ Talk (promisedRun script n) qs' none) ∨
      ∃ v, Talk (promisedRun script n) (quiet.visible qs) v ∧ Tracks w v := by
  obtain ⟨qs', v, hpre, ht', hend⟩ := (covers_runIn l mem script n).talk ht hq
  rcases hend with rfl | ⟨rfl, htracks⟩
  · exact .inl ⟨qs', hpre, ht'⟩
  · exact .inr ⟨v, ht', htracks⟩

/-- The script in Lua. -/
theorem readPeb_conforms : ∃ v, Talk (promisedRun readPeb 2) pebAnswers v ∧
    Tracks (some ⟨[], [.integer 0x7ff0, .integer 0x1234]⟩) v :=
  (run_conforms .lua (fun _ _ => .zero) readPeb 2 (talk_luaPeb _) quiet_luaPebAnswers).resolve_left
    (not_givenUp promised_readPeb)

/-- What a script sees, as long as it goes on. -/
def seenOf (w : Option (World O)) : Option (List Seen) := w.map World.seen

theorem Tracks.seenOf {w : Option (World DbgScriptTypedObject)} {v : Option (World Datum)}
    (h : Tracks w v) : seenOf w = seenOf v := by
  obtain ⟨h⟩ := h
  exact congrArg some h.seen

/-- Such a run can be had in any other language, whatever memory Lua gives the objects: the
    debugger is asked the same, and the script sees the same and can see nothing else, unless
    the interface has given up on the way. -/
theorem run_interchangeable (l l' : Language) (mem mem' : ℕ → ℕ → DbgScriptTypedObject)
    (script : Script) (n : ℕ) {qs : List (Exchange PyAnswer)}
    {w : Option (World DbgScriptTypedObject)} (ht : Talk (runIn l mem script n) qs w)
    (hq : quiet.Quiet qs) :
    (∃ qs', qs' <+: quiet.visible qs ∧ Talk (promisedRun script n) qs' none) ∨
      ((∃ qs' w', Talk (runIn l' mem' script n) qs' w' ∧ quiet.Quiet qs' ∧
          quiet.visible qs' = quiet.visible qs) ∧
        ∀ qs' w', Talk (runIn l' mem' script n) qs' w' → quiet.Quiet qs' →
          quiet.visible qs' = quiet.visible qs → seenOf w' = seenOf w) := by
  have hcovers := covers_runIn l' mem' script n
  obtain ⟨qs', v, hpre, ht', hend⟩ := (covers_runIn l mem script n).talk ht hq
  rcases hend with rfl | ⟨rfl, htracks⟩
  · exact .inl ⟨qs', hpre, ht'⟩
  · have hsome : v ≠ none := by
      obtain ⟨h⟩ := htracks
      exact Option.some_ne_none _
    obtain ⟨qs', w', ht'', hq', hvis, -⟩ := hcovers.follow ht' hsome
    refine .inr ⟨⟨qs', w', ht'', hq', hvis⟩, ?_⟩
    intro qs' w' ht'' hq' hvis
    exact (hcovers.result ht' hsome ht'' hq' hvis).seenOf.trans htracks.seenOf.symm

/-- The script in Lua, and in Python. -/
theorem readPeb_interchangeable :
    (∃ qs' w', Talk (runIn .python (fun _ _ => .zero) readPeb 2) qs' w' ∧ quiet.Quiet qs' ∧
        quiet.visible qs' = pebAnswers) ∧
      ∀ qs' w', Talk (runIn .python (fun _ _ => .zero) readPeb 2) qs' w' → quiet.Quiet qs' →
        quiet.visible qs' = pebAnswers →
        seenOf w' = some [.integer 0x7ff0, .integer 0x1234] :=
  (run_interchangeable .lua .python (fun _ _ => .zero) (fun _ _ => .zero) readPeb 2
    (talk_luaPeb _) quiet_luaPebAnswers).resolve_left (not_givenUp promised_readPeb)

end DbgScript.ScriptApi
