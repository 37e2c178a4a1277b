import Mathlib.Data.List.TakeWhile
import Mathlib.Algebra.GroupWithZero.Nat
import Mathlib.Algebra.Notation.Defs

/-!
# NUL-terminated strings in fixed-size character arrays

A C string is a list of characters without a NUL (`CStr`). A character array of
`n` elements (`CharBuf`) is the list of its cells together with a proof that
there are `n` of them. `memcpy` writes a block of characters; a write that
leaves the array is not performed but remembered in `overrun`, so that
`overrun = false` says that no write so far has left the array.

* `str_setCell_zero`: writing a NUL after `k` characters makes the array hold
  exactly those characters as a string.
* `str_cchCopy`: the truncating copy keeps the longest prefix that leaves room
  for the NUL.

Where an array is only written by such copies, it is represented by the string it
holds (`FixedStr`), which is shorter than the array.
-/

namespace CharBuf

variable {α : Type*} [Zero α]

/-! ## Strings -/

/-- A NUL-terminated string, without its terminator. -/
@[ext]
structure CStr (α : Type*) [Zero α] where
  chars : List α
  nulFree : (0 : α) ∉ chars
  deriving DecidableEq

/-- The empty string. -/
instance : Inhabited (CStr α) := ⟨⟨[], List.not_mem_nil⟩⟩

theorem not_mem_take {s : List α} (hs : (0 : α) ∉ s) (k : ℕ) : (0 : α) ∉ s.take k :=
  fun h => hs (List.mem_of_mem_take h)

section Cstr

variable [DecidableEq α]

/-- The C string that starts at the first of `cells`. -/
def cstr (cells : List α) : List α := cells.takeWhile (· ≠ 0)

theorem nulFree_cstr (cells : List α) : (0 : α) ∉ cstr cells := by
  intro h
  simpa using List.mem_takeWhile_imp h

theorem cstr_append_zero {s : List α} (hs : (0 : α) ∉ s) (rest : List α) :
    cstr (s ++ 0 :: rest) = s := by
  induction s with
  | nil => simp [cstr]
  | cons c s ih =>
    simp only [List.mem_cons, not_or] at hs
    have hc : c ≠ 0 := fun h => hs.1 h.symm
    rw [cstr, List.cons_append, List.takeWhile_cons_of_pos (by simpa using hc)]
    exact congrArg (c :: ·) (ih hs.2)

end Cstr

/-! ## Arrays -/

/-- A character array of `n` elements. `overrun` records that some write has
    gone outside it. -/
structure Buf (α : Type*) (n : ℕ) where
  cells : List α
  length_cells : cells.length = n
  overrun : Bool

/-- A zero-initialised array. -/
def Buf.zero (α : Type*) [Zero α] (n : ℕ) : Buf α n :=
  ⟨List.replicate n 0, List.length_replicate, false⟩

/-- The C string at the start of the array. -/
def Buf.str [DecidableEq α] {n : ℕ} (b : Buf α n) : List α := cstr b.cells

section Writes

variable {α : Type*} {n : ℕ}

/-- `memcpy(b + off, src, len)`, `len` being the length of `src`. -/
def Buf.memcpy (b : Buf α n) (off : ℕ) (src : List α) : Buf α n :=
  if h : off + src.length ≤ n then
    { cells := b.cells.take off ++ src ++ b.cells.drop (off + src.length)
      length_cells := by
        have := b.length_cells
        simp only [List.length_append, List.length_take, List.length_drop]
        omega
      overrun := b.overrun }
  else { b with overrun := true }

/-- `b[i] = c`. -/
def Buf.setCell (b : Buf α n) (i : ℕ) (c : α) : Buf α n := b.memcpy i [c]

theorem overrun_memcpy (b : Buf α n) {off : ℕ} {src : List α} (h : off + src.length ≤ n) :
    (b.memcpy off src).overrun = b.overrun := by
  simp [Buf.memcpy, h]

theorem cells_memcpy (b : Buf α n) {off : ℕ} {src : List α} (h : off + src.length ≤ n) :
    (b.memcpy off src).cells = b.cells.take off ++ src ++ b.cells.drop (off + src.length) := by
  simp [Buf.memcpy, h]

/-- A block written right after the first `off` characters extends them. -/
theorem take_memcpy (b : Buf α n) {off : ℕ} {src : List α} (h : off + src.length ≤ n) :
    (b.memcpy off src).cells.take (off + src.length) = b.cells.take off ++ src := by
  rw [cells_memcpy b h]
  apply List.take_left'
  have := b.length_cells
  simp only [List.length_append, List.length_take]
  omega

/-- A write is inside, and so are those before it, exactly if nothing is recorded. -/
theorem overrun_memcpy_eq_false {b : Buf α n} {off : ℕ} {src : List α} :
    (b.memcpy off src).overrun = false ↔ b.overrun = false ∧ off + src.length ≤ n := by
  unfold Buf.memcpy
  split_ifs with h
  · simp [h]
  · simp [h]

theorem overrun_setCell_eq_false {b : Buf α n} {i : ℕ} {c : α} :
    (b.setCell i c).overrun = false ↔ b.overrun = false ∧ i < n :=
  overrun_memcpy_eq_false

/-- Setting a cell keeps those before it. -/
theorem take_succ_setCell (b : Buf α n) {i : ℕ} (hi : i < n) (c : α) :
    (b.setCell i c).cells.take (i + 1) = b.cells.take i ++ [c] :=
  take_memcpy b (show i + [c].length ≤ n from hi)

theorem take_setCell (b : Buf α n) {i : ℕ} (hi : i < n) (c : α) :
    (b.setCell i c).cells.take i = b.cells.take i := by
  have hlen : (b.cells.take i).length = i := by
    rw [List.length_take, b.length_cells, Nat.min_eq_left hi.le]
  have h := congrArg (List.take i) (take_succ_setCell b hi c)
  rwa [List.take_take, Nat.min_eq_left (Nat.le_succ i), List.take_append_of_le_length hlen.ge,
    List.take_take, Nat.min_self] at h

theorem overrun_setCell (b : Buf α n) {i : ℕ} (hi : i < n) (c : α) :
    (b.setCell i c).overrun = b.overrun :=
  overrun_memcpy b (by simpa using Nat.succ_le_of_lt hi)

end Writes

/-! ## Arrays as strings -/

variable {n : ℕ}

/-- `StringCchCopy(b, n, src)`: as much of `src` as leaves room for the NUL. -/
def Buf.cchCopy (b : Buf α n) (src : List α) : Buf α n := b.memcpy 0 (src.take (n - 1) ++ [0])

@[simp] theorem str_zero [DecidableEq α] (n : ℕ) : (Buf.zero α n).str = [] := by
  cases n <;> simp [Buf.zero, Buf.str, cstr, List.replicate_succ]

/-- Terminating the array after `i` characters. -/
theorem str_setCell_zero [DecidableEq α] (b : Buf α n) {i : ℕ} (hi : i < n)
    (h0 : (0 : α) ∉ b.cells.take i) : (b.setCell i 0).str = b.cells.take i := by
  rw [Buf.str, Buf.setCell, cells_memcpy b (by simpa using Nat.succ_le_of_lt hi),
    List.append_assoc]
  exact cstr_append_zero h0 _

/-- A string without room for a NUL is left as it is by the zeros after it. -/
theorem cells_memcpy_zero {s : List α} (h : s.length ≤ n) :
    ((Buf.zero α n).memcpy 0 s).cells = s ++ List.replicate (n - s.length) 0 := by
  rw [cells_memcpy _ (by omega), List.take_zero, List.nil_append, Nat.zero_add, Buf.zero,
    List.drop_replicate]

/-- A string copied to a zero-initialised array. -/
theorem str_memcpy_zero [DecidableEq α] {s : List α} (hs : (0 : α) ∉ s) (h : s.length < n) :
    ((Buf.zero α n).memcpy 0 s).str = s := by
  obtain ⟨k, hk⟩ := Nat.exists_eq_add_of_lt h
  rw [Buf.str, cells_memcpy_zero h.le, show n - s.length = k + 1 by omega, List.replicate_succ]
  exact cstr_append_zero hs _

/-- A terminated string written after `off` characters extends them. -/
theorem str_memcpy_append [DecidableEq α] (b : Buf α n) {off : ℕ} {t : List α}
    (h : off + t.length < n) (h0 : (0 : α) ∉ b.cells.take off) (ht : (0 : α) ∉ t) :
    (b.memcpy off (t ++ [0])).str = b.cells.take off ++ t := by
  have hlen : off + (t ++ [(0 : α)]).length ≤ n := by
    rw [List.length_append, List.length_singleton]
    omega
  rw [Buf.str, cells_memcpy b hlen, ← List.append_assoc, List.append_assoc]
  apply cstr_append_zero
  simp [h0, ht]

/-- A copy of at most `k` characters of a terminated string to a zero-initialised array,
    terminated by hand where it has been cut. -/
theorem str_copy_counted [DecidableEq α] {s : List α} (hs : (0 : α) ∉ s) {k : ℕ}
    (hlen : s.length < n) :
    let b := (Buf.zero α n).memcpy 0 ((s ++ [0]).take k)
    let b' := if k < s.length + 1 then b.setCell k 0 else b
    b'.overrun = false ∧ b'.str = s.take k := by
  intro b b'
  have hfits : 0 + ((s ++ [(0 : α)]).take k).length ≤ n := by
    simp only [List.length_take, List.length_append, List.length_singleton]
    omega
  have hover : b.overrun = false := overrun_memcpy _ hfits
  have htake : (s ++ [(0 : α)]).take k = if k < s.length + 1 then s.take k else s ++ [0] := by
    split_ifs with hk
    · exact List.take_append_of_le_length (by omega)
    · exact List.take_of_length_le (by simpa using hk)
  by_cases hk : k < s.length + 1
  · have hcells : b.cells.take k = s.take k := by
      have hpre := take_memcpy (Buf.zero α n) hfits
      rw [htake, if_pos hk, List.length_take, Nat.zero_add, Nat.min_eq_left (by omega),
        List.take_zero, List.nil_append] at hpre
      rw [← hpre]
      simp only [b, htake, if_pos hk]
    simp only [b', if_pos hk]
    refine ⟨(overrun_setCell b (by omega) 0).trans hover, ?_⟩
    rw [str_setCell_zero b (by omega) (hcells ▸ not_mem_take hs k), hcells]
  · simp only [b', if_neg hk]
    refine ⟨hover, ?_⟩
    have hstr := str_memcpy_append (Buf.zero α n) (by omega : 0 + s.length < n) (by simp) hs
    rw [List.take_zero, List.nil_append] at hstr
    rw [List.take_of_length_le (by omega), ← hstr]
    simp only [b, htake, if_neg hk]

theorem str_cchCopy [DecidableEq α] (b : Buf α n) (hn : 0 < n) {src : List α} (hs : (0 : α) ∉ src) :
    (b.cchCopy src).str = src.take (n - 1) := by
  have hlen : 0 + (src.take (n - 1) ++ [(0 : α)]).length ≤ n := by
    simp only [List.length_append, List.length_take, List.length_singleton]
    omega
  rw [Buf.str, Buf.cchCopy, cells_memcpy b hlen, List.take_zero, List.nil_append,
    List.append_assoc]
  exact cstr_append_zero (not_mem_take hs _) _

/-! ## Contents of arrays -/

/-- The string that an array of `n` characters holds, with room for its NUL. -/
structure FixedStr (α : Type*) [Zero α] (n : ℕ) extends CStr α where
  fits : chars.length < n

/-- The empty string. -/
def FixedStr.empty (α : Type*) [Zero α] {n : ℕ} (hn : 0 < n) : FixedStr α n :=
  ⟨⟨[], List.not_mem_nil⟩, hn⟩

instance {n : ℕ} [NeZero n] : Inhabited (FixedStr α n) := ⟨.empty α (Nat.pos_of_neZero n)⟩

/-- What a terminating copy of `src` leaves in the array. -/
def FixedStr.cchCopy {n : ℕ} (hn : 0 < n) (src : CStr α) : FixedStr α n where
  chars := src.chars.take (n - 1)
  nulFree := not_mem_take src.nulFree _
  fits := by
    rw [List.length_take]
    omega

end CharBuf
