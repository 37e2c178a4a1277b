import DbgScript.Lib.LinkedList
import DbgScript.Host.Commands
import DbgScript.Support.TargetMemory

/-!
# The script path as a linked list

`scriptpath` (src/dllmain.cpp:743-839) deletes the nodes at `g_HostCtxt.ScriptPath`, and
makes a new one for each part of its argument between commas, the last of them outside its
loop. `DbgScriptHostContext.scriptPath` is the list of the paths in the nodes.

* `setScriptPath_replaces`: the new list, as long as the lengths are those of an `int`.
* `splitLoop_of_long`: with a longer part the loop does not end, or leaves the string.
* `scriptpath_refines`: the command on the nodes is the command on the list of paths.
* `scriptpath_iff`: the list is replaced by the split at the commas iff no part that a comma
  ends has 2^31 - 1 characters or more.
-/

namespace DbgScript

open LinkedList (Chain Heap ids)

/-! ## Model -/

/-- `ScriptPathElem`s (include/hostcontext.h:10-19), by the string in `Path`. -/
abbrev PathHeap := Heap (List CHAR)

/-- `StringCchCopyNA(STRING_AND_CCH(elem->Path), str, len)`: a length above
    `STRSAFE_MAX_LENGTH`, and so a negative one, is rejected. -/
def cchCopyN (str : List CHAR) (len : CInt) : List CHAR :=
  if 0 ≤ len.toInt ∧ len.toInt ≤ 2147483646 then (str.take len.toNat).take (MAX_PATH - 1) else []

/-- The variables of the loop: the nodes and `g_HostCtxt.ScriptPath`, `prev`, and `str` as a
    position in the argument. -/
structure SplitState where
  heap : PathHeap
  scriptPath : Option ℕ
  prev : Option ℕ
  str : ℕ

/-- A new node becomes the head, or is linked behind `prev`; then it is `prev`. -/
def appendElem (path : List CHAR) (s : SplitState) : Option SplitState :=
  let elem := s.heap.fresh
  let heap := s.heap.alloc path
  match s.scriptPath, s.prev with
  | none, _ => some { s with heap := heap, scriptPath := some elem, prev := some elem }
  | some _, some prev =>
    some { s with heap := heap.setNext prev (some elem), prev := some elem }
  | some _, none => none

/-- `strchr(str, ',') - str`. -/
def nextComma (args : List CHAR) (str : ℕ) : Option ℕ := (args.drop str).idxOf? 44

/-- The loop over the commas (src/dllmain.cpp:777-802). `len` and `len + 1` are of type `int`;
    there is no result if `str` is moved before the string, or if the fuel runs out. -/
def splitLoop (args : List CHAR) : ℕ → SplitState → Option SplitState
  | 0, _ => none
  | fuel + 1, s =>
    match nextComma args s.str with
    | none => some s
    | some d =>
      let len : CInt := BitVec.ofNat 32 d
      match appendElem (cchCopyN (args.drop s.str) len) s with
      | none => none
      | some s =>
        let str := s.str + (len + 1).toInt
        if str < 0 then none else splitLoop args fuel { s with str := str.toNat }

/-- The list is deleted and made anew (src/dllmain.cpp:764-820). -/
def setScriptPath (fuel : ℕ) (args : List CHAR) (heap : PathHeap) (scriptPath : Option ℕ) :
    Option (PathHeap × Option ℕ) := do
  let heap ← LinkedList.freeAll fuel heap scriptPath
  let s ← splitLoop args fuel ⟨heap, none, none, 0⟩
  let s ← appendElem ((args.drop s.str).take (MAX_PATH - 1)) s
  return (s.heap, s.scriptPath)

/-- The loop that prints the script path (src/dllmain.cpp:825-836). -/
def printElems (output : ℕ → HRESULT) (heap : PathHeap) :
    ℕ → Option ℕ → ℕ → HRESULT → Host → Option (Host × HRESULT)
  | _, none, _, hr, h => some (h, hr)
  | 0, some _, _, _, _ => none
  | fuel + 1, some elem, k, _, h =>
    match heap.cells elem with
    | none => none
    | some node =>
      let h := h.output DEBUG_OUTPUT_NORMAL "Script path: '%s'\n" [.str node.value]
      if FAILED (output k) then some (h, output k)
      else printElems output heap fuel node.next (k + 1) (output k) h

/-- `scriptpath` on the nodes (src/dllmain.cpp:743-839). The host's list of paths is not
    looked at. -/
def scriptpathElems (fuel : ℕ) (e : CommandEnv) (client : ClientId) (args : AnsiStr) (h : Host)
    (heap : PathHeap) (scriptPath : Option ℕ) :
    Option ((Host × HRESULT) × PathHeap × Option ℕ) := do
  let (h, hr) := reAcquireIfacesIfNeeded e.qi client h
  if FAILED hr then return ((h, hr), heap, scriptPath)
  let (heap, scriptPath) ←
    if 0 < args.chars.length then setScriptPath fuel args.chars heap scriptPath
    else some (heap, scriptPath)
  let out ← printElems e.output heap fuel scriptPath 0 hr h
  return (out, heap, scriptPath)

/-! ## Specification -/

def INT_MAX : ℕ := 2147483647

/-- The lengths of the parts that a comma ends can be computed with in an `int`. -/
def PartsFitInt (args : List CHAR) : Prop :=
  ∀ part ∈ (args.splitOn 44).dropLast, part.length < INT_MAX

/-- The list at `g_HostCtxt.ScriptPath`, with its nodes up to the null pointer. -/
structure ScriptPathList where
  heap : PathHeap
  scriptPath : Option ℕ
  nodes : List (ℕ × List CHAR)
  chain : Chain heap scriptPath nodes

/-- What the nodes of the new list are, when it replaces `old`. -/
structure SplitNodes (args : List CHAR) (old : ScriptPathList) (heap : PathHeap)
    (nodes : List (ℕ × List CHAR)) : Prop where
  paths : nodes.map Prod.snd = (args.splitOn 44).map (List.take (MAX_PATH - 1))
  length : nodes.length = args.count 44 + 1
  joined : (∀ part ∈ args.splitOn 44, part.length < MAX_PATH) →
    [44].intercalate (nodes.map Prod.snd) = args
  new : ∀ p ∈ ids nodes, p ∉ ids old.nodes
  deleted : ∀ p ∈ ids old.nodes, heap.cells p = none

/-- The list of the split is terminated by a null pointer, and it is not the old one. -/
def Replaces (args : List CHAR) (old : ScriptPathList) (heap : PathHeap) (scriptPath : Option ℕ) :
    Prop := ∃ nodes, Chain heap scriptPath nodes ∧ SplitNodes args old heap nodes

/-! ## Commas -/

/-- A comma that is found splits the rest of the argument. -/
theorem nextComma_eq_some_iff {args : List CHAR} {str d : ℕ} :
    nextComma args str = some d ↔ ∃ part rest, args.drop str = part ++ 44 :: rest ∧ 44 ∉ part ∧
      part.length = d := by
  rw [nextComma, List.idxOf?_eq_some_iff]
  generalize args.drop str = s
  constructor
  · rintro ⟨hd, hcomma, hno⟩
    refine ⟨s.take d, s.drop (d + 1), ?_, ?_, List.length_take_of_le hd.le⟩
    · rw [← hcomma, List.getElem_cons_drop, List.take_append_drop]
    · intro hmem
      obtain ⟨i, hi, hget⟩ := List.mem_take_iff_getElem.1 hmem
      exact hno i (by omega) hget
  · rintro ⟨part, rest, rfl, hno, rfl⟩
    refine ⟨by simp, by simp, fun j hj heq => hno ?_⟩
    rw [← heq, List.getElem_append_left hj]
    exact List.getElem_mem hj

theorem nextComma_eq_none_iff {args : List CHAR} {str : ℕ} :
    nextComma args str = none ↔ 44 ∉ args.drop str := List.idxOf?_eq_none_iff

/-- The lengths of the parts make `len` and `len + 1` exact. -/
theorem toInt_len {d : ℕ} (hd : d < INT_MAX) :
    (BitVec.ofNat 32 d).toInt = d ∧ (BitVec.ofNat 32 d + 1).toInt = d + 1 := by
  unfold INT_MAX at hd
  rw [BitVec.toInt_eq_toNat_cond, BitVec.toInt_eq_toNat_cond, BitVec.toNat_add,
    BitVec.toNat_ofNat]
  simp only [BitVec.reduceToNat]
  constructor
  · split_ifs <;> omega
  · split_ifs <;> omega

theorem cchCopyN_of_lt {part rest : List CHAR} (hpart : part.length < INT_MAX) :
    cchCopyN (part ++ rest) (BitVec.ofNat 32 part.length) = part.take (MAX_PATH - 1) := by
  have hint := (toInt_len hpart).1
  unfold INT_MAX at hpart
  rw [cchCopyN, hint, if_pos (by omega), BitVec.toNat_ofNat, Nat.mod_eq_of_lt (by omega),
    List.take_left]

/-! ## The new list -/

/-- The nodes made so far, since the heap was `heap₀`. -/
structure Built (heap₀ : PathHeap) (s : SplitState) (nodes : List (ℕ × List CHAR)) : Prop where
  chain : Chain s.heap s.scriptPath nodes
  prev : s.prev = nodes.getLast?.map Prod.fst
  grown : heap₀.fresh ≤ s.heap.fresh
  new : ∀ p ∈ ids nodes, heap₀.fresh ≤ p
  old : ∀ p < heap₀.fresh, s.heap.cells p = heap₀.cells p

variable {heap₀ : PathHeap} {s : SplitState} {nodes : List (ℕ × List CHAR)}

theorem str_appendElem {path : List CHAR} {s s' : SplitState}
    (happend : appendElem path s = some s') : s'.str = s.str := by
  unfold appendElem at happend
  dsimp only at happend
  split at happend
  · exact (Option.some.inj happend) ▸ rfl
  · exact (Option.some.inj happend) ▸ rfl
  · contradiction

theorem built_start (heap₀ : PathHeap) (str : ℕ) : Built heap₀ ⟨heap₀, none, none, str⟩ [] :=
  ⟨rfl, rfl, Nat.le_refl _, by simp, fun _ _ => rfl⟩

/-- A new element comes last. -/
theorem appendElem_built (hb : Built heap₀ s nodes) (path : List CHAR) :
    ∃ s', appendElem path s = some s' ∧ Built heap₀ s' (nodes ++ [(s.heap.fresh, path)]) := by
  have hgrown := hb.grown
  have hnew : ∀ p ∈ ids (nodes ++ [(s.heap.fresh, path)]), heap₀.fresh ≤ p := by
    intro p hp
    rw [LinkedList.ids_append, List.mem_append, LinkedList.ids_cons, LinkedList.ids_nil,
      List.mem_singleton] at hp
    obtain hp | rfl := hp
    · exact hb.new p hp
    · exact hgrown
  have hold : ∀ p < heap₀.fresh, (s.heap.alloc path).cells p = heap₀.cells p := by
    intro p hp
    rw [LinkedList.cells_alloc_of_ne path (by omega), hb.old p hp]
  obtain rfl | ⟨l, ⟨p, w⟩, rfl⟩ := nodes.eq_nil_or_concat'
  · have hhead : s.scriptPath = none := hb.chain
    refine ⟨{ s with
      heap := s.heap.alloc path, scriptPath := some s.heap.fresh, prev := some s.heap.fresh },
      by rw [appendElem, hhead], ?_, rfl, ?_, hnew, hold⟩
    · exact LinkedList.chain_alloc s.heap path
    · exact Nat.le_succ_of_le hgrown
  · have hprev : s.prev = some p := by
      rw [hb.prev, List.getLast?_concat]
      rfl
    obtain ⟨elem, hhead⟩ : ∃ elem, s.scriptPath = some elem := by
      cases l with
      | nil => exact ⟨p, hb.chain.1⟩
      | cons node l => exact ⟨node.1, hb.chain.1⟩
    have hchain := hb.chain.append_alloc path
    refine ⟨{ s with
      heap := (s.heap.alloc path).setNext p (some s.heap.fresh), prev := some s.heap.fresh },
      by rw [appendElem, hhead, hprev], ?_, ?_, ?_, hnew, ?_⟩
    · rw [List.append_assoc]
      exact hhead ▸ hchain
    · rw [List.getLast?_concat]
      rfl
    · exact Nat.le_succ_of_le hgrown
    · intro q hq
      have hp := hb.new p (by simp)
      rw [LinkedList.cells_setNext_of_ne _ (by omega), hold q hq]

/-! ## The loop -/

/-- A part that a comma ends is the first of the split. -/
theorem splitOn_part {part : List CHAR} (hno : 44 ∉ part) (rest : List CHAR) :
    (part ++ 44 :: rest).splitOn 44 = part :: rest.splitOn 44 :=
  List.splitOn_append_cons_self_of_not_mem hno rest

theorem partsFitInt_cons {part rest : List CHAR} (hno : 44 ∉ part) :
    PartsFitInt (part ++ 44 :: rest) ↔ part.length < INT_MAX ∧ PartsFitInt rest := by
  rw [PartsFitInt, splitOn_part hno, List.dropLast_cons_of_ne_nil (List.splitOn_ne_nil 44 rest),
    List.forall_mem_cons, PartsFitInt]

/-- With enough fuel the loop makes an element of each part but the last. -/
theorem splitLoop_built {args : List CHAR} {fuel : ℕ} (hb : Built heap₀ s nodes)
    (hfit : PartsFitInt (args.drop s.str)) (hfuel : (args.drop s.str).count 44 < fuel) :
    ∃ s' nodes', splitLoop args fuel s = some s' ∧ Built heap₀ s' nodes' ∧
      nodes'.map Prod.snd ++ [(args.drop s'.str).take (MAX_PATH - 1)] =
        nodes.map Prod.snd ++ ((args.drop s.str).splitOn 44).map (List.take (MAX_PATH - 1)) := by
  induction fuel generalizing s nodes with
  | zero => omega
  | succ fuel ih =>
    cases hcomma : nextComma args s.str with
    | none =>
      have hno := nextComma_eq_none_iff.1 hcomma
      refine ⟨s, nodes, by rw [splitLoop, hcomma], hb, ?_⟩
      rw [List.splitOn_eq_singleton hno, List.map_singleton]
    | some d =>
      obtain ⟨part, rest, hrest, hno, rfl⟩ := nextComma_eq_some_iff.1 hcomma
      rw [hrest] at hfit hfuel
      obtain ⟨hpart, hfit⟩ := (partsFitInt_cons hno).1 hfit
      have hdrop : args.drop (s.str + (part.length + 1)) = rest := by
        rw [← List.drop_drop, hrest, ← List.drop_drop, List.drop_left]
        rfl
      obtain ⟨s₁, happend, hb₁⟩ := appendElem_built hb (part.take (MAX_PATH - 1))
      have hnext : (s₁.str + (BitVec.ofNat 32 part.length + 1).toInt) =
          ((s.str + (part.length + 1) : ℕ) : ℤ) := by
        rw [(toInt_len hpart).2, str_appendElem happend]
        push_cast
        rfl
      have hstep : splitLoop args (fuel + 1) s =
          splitLoop args fuel { s₁ with str := s.str + (part.length + 1) } := by
        rw [splitLoop, hcomma]
        simp only [hrest, cchCopyN_of_lt hpart, happend, hnext]
        rw [if_neg (by omega), Int.toNat_natCast]
      have hb₂ : Built heap₀ { s₁ with str := s.str + (part.length + 1) }
          (nodes ++ [(s.heap.fresh, part.take (MAX_PATH - 1))]) :=
        ⟨hb₁.chain, hb₁.prev, hb₁.grown, hb₁.new, hb₁.old⟩
      have hcount : rest.count 44 < fuel := by
        rw [List.count_append, List.count_cons_self, List.count_eq_zero_of_not_mem hno] at hfuel
        omega
      rw [← hdrop] at hfit hcount
      obtain ⟨s', nodes', hloop, hb', hpaths⟩ := ih hb₂ hfit hcount
      refine ⟨s', nodes', hstep.trans hloop, hb', hpaths.trans ?_⟩
      simp only [hdrop, hrest, splitOn_part hno, List.map_append, List.map_cons, List.map_nil,
        List.append_assoc, List.singleton_append]

/-! ## Replacing the list -/

/-- A split has one part more than there are separators. -/
theorem length_splitOn {α : Type*} [DecidableEq α] (a : α) (s : List α) :
    (s.splitOn a).length = s.count a + 1 := by
  induction s with
  | nil => simp
  | cons c s ih =>
    rw [List.splitOn_cons_eq_if_modifyHead, List.count_cons]
    split_ifs
    · rw [List.length_cons, ih]
    · rw [List.length_modifyHead, ih]

/-- Parts that are not cut give the argument back. -/
theorem intercalate_cut_parts {args : List CHAR}
    (hshort : ∀ part ∈ args.splitOn 44, part.length < MAX_PATH) :
    [44].intercalate ((args.splitOn 44).map (List.take (MAX_PATH - 1))) = args := by
  have huncut : (args.splitOn 44).map (List.take (MAX_PATH - 1)) = args.splitOn 44 := by
    rw [List.map_congr_left fun part hpart =>
      List.take_of_length_le (Nat.le_sub_one_of_lt (hshort part hpart)), List.map_id']
  rw [huncut, List.intercalate_splitOn]

/-- The old list is deleted, and the new one is that of the split. -/
theorem setScriptPath_replaces {args : List CHAR} (hfit : PartsFitInt args) (old : ScriptPathList)
    {fuel : ℕ} (hfuel : old.nodes.length + args.count 44 < fuel) :
    ∃ heap scriptPath, setScriptPath fuel args old.heap old.scriptPath = some (heap, scriptPath) ∧
      Replaces args old heap scriptPath := by
  obtain ⟨heap₁, hfree, hfresh, hcells⟩ :=
    LinkedList.freeAll_chain old.chain (show old.nodes.length ≤ fuel by omega)
  have hcommas : (args.drop 0).count 44 < fuel := by
    rw [List.drop_zero]
    omega
  obtain ⟨s, nodes, hloop, hb, hpaths⟩ := splitLoop_built (built_start heap₁ 0) hfit hcommas
  obtain ⟨s', happend, hb'⟩ := appendElem_built hb ((args.drop s.str).take (MAX_PATH - 1))
  have hset : setScriptPath fuel args old.heap old.scriptPath = some (s'.heap, s'.scriptPath) := by
    simp [setScriptPath, hfree, hloop, happend]
  refine ⟨s'.heap, s'.scriptPath, hset, _, hb'.chain, ?_⟩
  have hvalues : (nodes ++ [(s.heap.fresh, (args.drop s.str).take (MAX_PATH - 1))]).map Prod.snd =
      (args.splitOn 44).map (List.take (MAX_PATH - 1)) := by
    rw [List.map_append, List.map_singleton, hpaths, List.drop_zero, List.map_nil, List.nil_append]
  have hlength := congrArg List.length hvalues
  rw [List.length_map, List.length_map, length_splitOn] at hlength
  have hlive : ∀ p ∈ ids old.nodes, p < heap₁.fresh := fun p hp =>
    hfresh ▸ old.chain.lt_fresh hp
  refine ⟨hvalues, hlength, fun hshort => ?_, fun p hp hold => ?_, fun p hp => ?_⟩
  · rw [hvalues, intercalate_cut_parts hshort]
  · have hge := hb'.new p hp
    have hlt := hlive p hold
    omega
  · rw [hb'.old p (hlive p hp), hcells p, if_pos hp]

/-! ## Long parts -/

/-- From `b` to the comma at `c` there are `INT_MAX` characters or more; before `b` every
    part ends in time. -/
structure LongPart (args : List CHAR) (b c : ℕ) : Prop where
  le : b ≤ c
  comma : nextComma args b = some (c - b)
  long : INT_MAX ≤ c - b
  before : ∀ p < b, ∃ d, nextComma args p = some d ∧ d < INT_MAX ∧ p + d < b

/-- The commas after a position in the second part of a list. -/
theorem nextComma_append (s t : List CHAR) (p : ℕ) :
    nextComma (s ++ t) (s.length + p) = nextComma t p := by
  rw [nextComma, ← List.drop_drop, List.drop_left, nextComma]

/-- A comma that is not passed remains the next one. -/
theorem nextComma_add {args : List CHAR} {p d k : ℕ} (h : nextComma args p = some d) (hk : k ≤ d) :
    nextComma args (p + k) = some (d - k) := by
  obtain ⟨part, rest, hrest, hno, rfl⟩ := nextComma_eq_some_iff.1 h
  refine nextComma_eq_some_iff.2 ⟨part.drop k, rest, ?_,
    fun hmem => hno (List.mem_of_mem_drop hmem),
    List.length_drop⟩
  rw [← List.drop_drop, hrest, List.drop_append_of_le_length hk]

theorem nextComma_zero {part : List CHAR} (hno : 44 ∉ part) (rest : List CHAR) :
    nextComma (part ++ 44 :: rest) 0 = some part.length :=
  nextComma_eq_some_iff.2 ⟨part, rest, rfl, hno, rfl⟩

/-- The first part that is too long. -/
theorem exists_longPart {args : List CHAR} (hlong : ¬ PartsFitInt args) :
    ∃ b c, LongPart args b c := by
  induction hn : args.length using Nat.strongRecOn generalizing args with
  | ind n ih =>
    cases hcomma : nextComma args 0 with
    | none =>
      have hno := nextComma_eq_none_iff.1 hcomma
      rw [List.drop_zero] at hno
      exact absurd (by simp [PartsFitInt, List.splitOn_eq_singleton hno]) hlong
    | some d =>
      obtain ⟨part, rest, hrest, hno, rfl⟩ := nextComma_eq_some_iff.1 hcomma
      rw [List.drop_zero] at hrest
      subst hrest
      rw [partsFitInt_cons hno, not_and_or, Nat.not_lt] at hlong
      obtain hpart | hpart := Nat.lt_or_ge part.length INT_MAX
      · obtain ⟨b, c, hb⟩ := ih rest.length (by simp at hn; omega)
          (hlong.resolve_left (by omega)) rfl
        have hshift : ∀ p, nextComma (part ++ 44 :: rest) (part.length + 1 + p) =
            nextComma rest p := fun p => by
          have h := nextComma_append (part ++ [44]) rest p
          rwa [List.append_assoc, List.singleton_append, List.length_append,
            List.length_singleton] at h
        refine ⟨part.length + 1 + b, part.length + 1 + c, ?_, ?_, ?_, fun p hp => ?_⟩
        · have := hb.le
          omega
        · rw [hshift, hb.comma, Nat.add_sub_add_left]
        · rw [Nat.add_sub_add_left]
          exact hb.long
        · obtain hin | hout := Nat.lt_or_ge p (part.length + 1)
          · have h := nextComma_add (nextComma_zero hno rest) (Nat.le_of_lt_succ hin)
            rw [Nat.zero_add] at h
            exact ⟨_, h, by omega, by omega⟩
          · obtain ⟨q, rfl⟩ := Nat.exists_eq_add_of_le hout
            obtain ⟨d, hd, hshort, hlt⟩ := hb.before q (by omega)
            exact ⟨d, (hshift q).trans hd, hshort, by omega⟩
      · exact ⟨0, part.length, Nat.zero_le _, nextComma_zero hno rest, hpart, fun p hp => by omega⟩

/-- Positions that the loop does not get away from: those up to the long part, and those in
    it from which `len` is -1. -/
def Trapped (b c p : ℕ) : Prop := p ≤ b ∨ (b < p ∧ p ≤ c ∧ 2 ^ 32 ∣ c - p + 1)

/-- `len + 1`, as it is computed. -/
theorem toInt_len_add_one (d : ℕ) :
    (BitVec.ofNat 32 d + 1).toInt =
      if (d + 1) % 2 ^ 32 < 2 ^ 31 then (((d + 1) % 2 ^ 32 : ℕ) : ℤ)
      else (((d + 1) % 2 ^ 32 : ℕ) : ℤ) - 2 ^ 32 := by
  rw [BitVec.toInt_eq_toNat_cond, BitVec.toNat_add, BitVec.toNat_ofNat]
  simp only [BitVec.reduceToNat]
  split_ifs <;> omega

/-- The next position is before the string, or a trap again. -/
theorem LongPart.trapped_step {args : List CHAR} {b c p : ℕ} (hl : LongPart args b c)
    (hp : Trapped b c p) :
    ∃ d, nextComma args p = some d ∧ ∀ str : ℤ, str = p + (BitVec.ofNat 32 d + 1).toInt →
      str < 0 ∨ Trapped b c str.toNat := by
  have hlong := hl.long
  unfold INT_MAX at hlong
  obtain hle | ⟨hlt, hle, k, hk⟩ := hp
  · obtain hlt | rfl := Nat.lt_or_eq_of_le hle
    · obtain ⟨d, hd, hshort, hend⟩ := hl.before p hlt
      refine ⟨d, hd, fun str hstr => .inr (.inl ?_)⟩
      rw [(toInt_len hshort).2] at hstr
      omega
    · refine ⟨c - p, hl.comma, fun str hstr => ?_⟩
      rw [toInt_len_add_one] at hstr
      by_cases hback : (c - p + 1) % 2 ^ 32 < 2 ^ 31
      · -- the low part of the length is taken for it, and the rest is a multiple of 2^32
        rw [if_pos hback] at hstr
        by_cases hzero : (c - p + 1) % 2 ^ 32 = 0
        · exact .inr (.inl (by omega))
        · exact .inr (.inr ⟨by omega, by omega, by omega⟩)
      · rw [if_neg hback] at hstr
        by_cases hneg : str < 0
        · exact .inl hneg
        · exact .inr (.inl (by omega))
  · have hd := nextComma_add hl.comma (show p - b ≤ c - b by omega)
    rw [Nat.add_sub_of_le hlt.le, Nat.sub_sub_sub_cancel_right hlt.le] at hd
    refine ⟨c - p, hd, fun str hstr => .inr (.inr ?_)⟩
    rw [toInt_len_add_one, hk, Nat.mul_mod_right, if_pos (by decide)] at hstr
    exact ⟨by omega, by omega, k, by omega⟩

/-- The loop does not get past a part that is too long. -/
theorem splitLoop_of_long {args : List CHAR} {b c : ℕ} (hl : LongPart args b c) (fuel : ℕ)
    {s : SplitState} (hs : Trapped b c s.str) : splitLoop args fuel s = none := by
  induction fuel generalizing s with
  | zero => rfl
  | succ fuel ih =>
    obtain ⟨d, hd, hstep⟩ := hl.trapped_step hs
    rw [splitLoop, hd]
    dsimp only
    cases happend : appendElem (cchCopyN (args.drop s.str) (BitVec.ofNat 32 d)) s with
    | none => rfl
    | some s' =>
      have hstr : s'.str = s.str := str_appendElem happend
      dsimp only
      rw [hstr]
      obtain hneg | htrap := hstep _ rfl
      · rw [if_pos hneg]
      · split_ifs
        · rfl
        · exact ih htrap

/-! ## Printing -/

/-- What is printed is the list of the paths. -/
theorem printElems_chain (output : ℕ → HRESULT) {heap : PathHeap} {head : Option ℕ}
    {nodes : List (ℕ × List CHAR)} (hc : Chain heap head nodes) {fuel : ℕ}
    (hfuel : nodes.length ≤ fuel) (k : ℕ) (hr : HRESULT) (h : Host) :
    printElems output heap fuel head k hr h =
      some (printScriptPath output (nodes.map Prod.snd) k hr h) := by
  induction nodes generalizing head fuel k hr h with
  | nil =>
    obtain rfl : head = none := hc
    cases fuel <;> rfl
  | cons node nodes ih =>
    obtain ⟨rfl, next, hcell, hrest⟩ := hc
    obtain ⟨fuel, rfl⟩ : ∃ n, fuel = n + 1 := Nat.exists_eq_add_one.2 (by simp at hfuel; omega)
    rw [printElems, hcell, List.map_cons, printScriptPath]
    dsimp only
    split_ifs
    · rfl
    · exact ih hrest (by simpa using hfuel) ..

/-! ## The command -/

section Command

variable (e : CommandEnv) (client : ClientId) (args : AnsiStr) (h : Host) (old : ScriptPathList)

theorem scriptpathElems_of_failed (hr : FAILED (reAcquireIfacesIfNeeded e.qi client h).2 = true)
    (fuel : ℕ) :
    scriptpathElems fuel e client args h old.heap old.scriptPath =
      some (reAcquireIfacesIfNeeded e.qi client h, old.heap, old.scriptPath) := by
  simp [scriptpathElems, hr]

/-- Without an argument the list is printed. -/
theorem scriptpathElems_of_empty (hr : FAILED (reAcquireIfacesIfNeeded e.qi client h).2 = false)
    (hargs : args.chars = []) {fuel : ℕ} (hfuel : old.nodes.length ≤ fuel) :
    scriptpathElems fuel e client args h old.heap old.scriptPath =
      some (printScriptPath e.output (old.nodes.map Prod.snd) 0
        (reAcquireIfacesIfNeeded e.qi client h).2 (reAcquireIfacesIfNeeded e.qi client h).1,
        old.heap, old.scriptPath) := by
  simp [scriptpathElems, hr, hargs, printElems_chain e.output old.chain hfuel]

/-- With an argument the new list is printed. -/
theorem scriptpathElems_of_set (hr : FAILED (reAcquireIfacesIfNeeded e.qi client h).2 = false)
    (hargs : args.chars ≠ []) {fuel : ℕ} {heap : PathHeap} {scriptPath : Option ℕ}
    {nodes : List (ℕ × List CHAR)}
    (hset : setScriptPath fuel args.chars old.heap old.scriptPath = some (heap, scriptPath))
    (hc : Chain heap scriptPath nodes) (hfuel : nodes.length ≤ fuel) :
    scriptpathElems fuel e client args h old.heap old.scriptPath =
      some (printScriptPath e.output (nodes.map Prod.snd) 0
        (reAcquireIfacesIfNeeded e.qi client h).2 (reAcquireIfacesIfNeeded e.qi client h).1,
        heap, scriptPath) := by
  have hpos : 0 < args.chars.length := List.length_pos_iff.2 hargs
  simp [scriptpathElems, hr, hpos, hset, printElems_chain e.output hc hfuel]

/-- A part that is too long leaves the command without a result. -/
theorem scriptpathElems_of_long (hr : FAILED (reAcquireIfacesIfNeeded e.qi client h).2 = false)
    (hlong : ¬ PartsFitInt args.chars) (fuel : ℕ) :
    scriptpathElems fuel e client args h old.heap old.scriptPath = none := by
  have hpos : 0 < args.chars.length := by
    refine List.length_pos_iff.2 fun hnil => hlong ?_
    simp [PartsFitInt, hnil]
  have hset : setScriptPath fuel args.chars old.heap old.scriptPath = none := by
    obtain ⟨b, c, hl⟩ := exists_longPart hlong
    unfold setScriptPath
    cases LinkedList.freeAll fuel old.heap old.scriptPath with
    | none => rfl
    | some heap =>
      have hloop := splitLoop_of_long hl fuel (s := ⟨heap, none, none, 0⟩) (.inl (Nat.zero_le b))
      simp [hloop]
  simp [scriptpathElems, hr, hpos, hset]

/-- The list after the command: unchanged if there is no argument or no interface, and
    replaced by the parts of the argument otherwise. -/
def ListAfter (heap : PathHeap) (scriptPath : Option ℕ) : Prop :=
  if FAILED (reAcquireIfacesIfNeeded e.qi client h).2 ∨ args.chars = [] then
    heap = old.heap ∧ scriptPath = old.scriptPath
  else Replaces args.chars old heap scriptPath

/-- The command ends with that list iff no part that a comma ends is too long for an `int`;
    without interfaces the argument is not looked at. -/
theorem scriptpath_iff :
    (∃ fuel out heap scriptPath,
        scriptpathElems fuel e client args h old.heap old.scriptPath =
          some (out, heap, scriptPath) ∧
        ListAfter e client args h old heap scriptPath) ↔
      (FAILED (reAcquireIfacesIfNeeded e.qi client h).2 = true ∨ PartsFitInt args.chars) := by
  unfold ListAfter
  cases hr : FAILED (reAcquireIfacesIfNeeded e.qi client h).2 with
  | true =>
    refine iff_of_true ?_ (.inl rfl)
    refine ⟨0, _, _, _, scriptpathElems_of_failed e client args h old hr 0, ?_⟩
    simp
  | false =>
    by_cases hargs : args.chars = []
    · refine iff_of_true ⟨_, _, _, _,
        scriptpathElems_of_empty e client args h old hr hargs (Nat.le_refl _), ?_⟩ (.inr ?_)
      · simp [hargs]
      · simp [PartsFitInt, hargs]
    · by_cases hfit : PartsFitInt args.chars
      · obtain ⟨heap, scriptPath, hset, nodes, hc, hsplit⟩ :=
          setScriptPath_replaces hfit old (Nat.lt_succ_self _)
        have hlen := hsplit.length
        refine iff_of_true ⟨_, _, _, _,
          scriptpathElems_of_set e client args h old hr hargs hset hc (by omega), ?_⟩ (.inr hfit)
        simpa [hargs] using ⟨nodes, hc, hsplit⟩
      · refine iff_of_false ?_ (by simp [hfit])
        rintro ⟨fuel, out, heap, scriptPath, hout, -⟩
        rw [scriptpathElems_of_long e client args h old hr hfit fuel] at hout
        contradiction

end Command

/-! ## A part that is too long -/

/-- No path is set. -/
def ScriptPathList.empty : ScriptPathList := ⟨Heap.empty _, none, [], rfl⟩

/-- 2^31 - 1 times `a`. -/
@[irreducible] def longPart : List CHAR := List.replicate INT_MAX 97

theorem not_mem_longPart {c : CHAR} (hc : c ≠ 97) : c ∉ longPart := by
  rw [longPart]
  intro hmem
  exact hc (List.eq_of_mem_replicate hmem)

theorem not_partsFitInt_longPart : ¬ PartsFitInt (longPart ++ [44]) := by
  rw [partsFitInt_cons (not_mem_longPart (by decide)), longPart, List.length_replicate]
  simp

/-- A long part and a comma: the new list is never finished. -/
theorem scriptpath_of_long_part_fails :
    let h := Host.fresh fun _ => none
    let args : AnsiStr := ⟨longPart ++ [44], by simp [not_mem_longPart]⟩
    ¬ ∃ fuel out heap scriptPath,
      scriptpathElems fuel CommandEnv.succeeding 0 args h ScriptPathList.empty.heap none =
          some (out, heap, scriptPath) ∧
        ListAfter CommandEnv.succeeding 0 args h ScriptPathList.empty heap scriptPath := by
  rintro h args ⟨fuel, out, heap, scriptPath, hout, -⟩
  have hr : FAILED (reAcquireIfacesIfNeeded CommandEnv.succeeding.qi 0 h).2 = false := by decide
  have hlong := scriptpathElems_of_long CommandEnv.succeeding 0 args h ScriptPathList.empty hr
    not_partsFitInt_longPart fuel
  rw [show (none : Option ℕ) = ScriptPathList.empty.scriptPath from rfl, hlong] at hout
  contradiction

/-! ## The list of the paths -/

/-- The host with other paths. -/
def Host.withScriptPath (h : Host) (paths : List (List CHAR)) : Host :=
  { h with ctx := { h.ctx with scriptPath := paths } }

theorem printScriptPath_withScriptPath (output : ℕ → HRESULT) (printed paths : List (List CHAR))
    (k : ℕ) (hr : HRESULT) (h : Host) :
    printScriptPath output printed k hr (h.withScriptPath paths) =
      ((printScriptPath output printed k hr h).1.withScriptPath paths,
        (printScriptPath output printed k hr h).2) := by
  induction printed generalizing k hr h with
  | nil => rfl
  | cons path printed ih =>
    rw [printScriptPath, printScriptPath]
    split_ifs
    · rfl
    · exact ih (k + 1) (output k) (h.output DEBUG_OUTPUT_NORMAL "Script path: '%s'\n" [.str path])

/-- With an argument, the command on the nodes does what the command on the paths does: the
    new nodes hold the new paths, and the same is printed and returned. -/
theorem scriptpath_refines (e : CommandEnv) (client : ClientId) {args : AnsiStr} (h : Host)
    (old : ScriptPathList) (hr : FAILED (reAcquireIfacesIfNeeded e.qi client h).2 = false)
    (hargs : args.chars ≠ []) (hfit : PartsFitInt args.chars) :
    ∃ fuel out heap scriptPath nodes,
      scriptpathElems fuel e client args h old.heap old.scriptPath =
          some (out, heap, scriptPath) ∧
        Chain heap scriptPath nodes ∧
        scriptpath e client args h = (out.1.withScriptPath (nodes.map Prod.snd), out.2) := by
  obtain ⟨heap, scriptPath, hset, nodes, hc, hsplit⟩ :=
    setScriptPath_replaces hfit old (Nat.lt_succ_self _)
  have hlen := hsplit.length
  refine ⟨_, _, heap, scriptPath, nodes,
    scriptpathElems_of_set e client args h old hr hargs hset hc (by omega), hc, ?_⟩
  rw [← printScriptPath_withScriptPath, hsplit.paths, scriptpath]
  simp only [hr, Bool.false_eq_true, if_false, if_neg hargs]
  rfl

end DbgScript
