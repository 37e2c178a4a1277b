import Mathlib.Data.List.Nodup
import Mathlib.Logic.Function.Basic

/-!
# Singly linked lists

Nodes with a value and a link are kept in a heap under identities that are never used
again. A list is given by its head, and `Chain` relates it to the nodes that are met on
the way to the null link.

* `Chain.nodup`: a chain that ends meets no node twice.
* `chain_alloc`, `Chain.append_alloc`: a new node alone, and linked behind the last one.
* `freeAll_chain`: deleting node by node deletes those of the list, and no others.
-/

namespace LinkedList

variable {α : Type*}

structure Node (α : Type*) where
  value : α
  next : Option ℕ

/-- The nodes that are alive. Those from `fresh` on have not been allocated. -/
structure Heap (α : Type*) where
  cells : ℕ → Option (Node α)
  fresh : ℕ
  unused : ∀ p, fresh ≤ p → cells p = none

/-- No node is alive. -/
def Heap.empty (α : Type*) : Heap α := ⟨fun _ => none, 0, fun _ _ => rfl⟩

/-- A new node, with a null link. Its identity is `h.fresh`. -/
def Heap.alloc (h : Heap α) (v : α) : Heap α where
  cells := Function.update h.cells h.fresh (some ⟨v, none⟩)
  fresh := h.fresh + 1
  unused p hp := by
    rw [Function.update_of_ne (by omega)]
    exact h.unused p (by omega)

def Heap.free (h : Heap α) (p : ℕ) : Heap α where
  cells := Function.update h.cells p none
  fresh := h.fresh
  unused q hq := by
    by_cases hqp : q = p
    · rw [hqp, Function.update_self]
    · rw [Function.update_of_ne hqp, h.unused q hq]

/-- `p->next = q`. -/
def Heap.setNext (h : Heap α) (p : ℕ) (q : Option ℕ) : Heap α where
  cells := Function.update h.cells p ((h.cells p).map fun node => { node with next := q })
  fresh := h.fresh
  unused r hr := by
    by_cases hrp : r = p
    · rw [hrp, Function.update_self, ← hrp, h.unused r hr, Option.map_none]
    · rw [Function.update_of_ne hrp, h.unused r hr]

/-- The nodes that are met from `head` to the null link, with their values. -/
def Chain (h : Heap α) : Option ℕ → List (ℕ × α) → Prop
  | head, [] => head = none
  | head, (p, v) :: l => head = some p ∧ ∃ next, h.cells p = some ⟨v, next⟩ ∧ Chain h next l

/-- The identities of nodes. -/
def ids (l : List (ℕ × α)) : List ℕ := l.map Prod.fst

variable {h h' : Heap α} {head : Option ℕ} {l l' : List (ℕ × α)} {p : ℕ} {v w : α}

@[simp] theorem ids_nil : ids ([] : List (ℕ × α)) = [] := rfl

@[simp] theorem ids_cons (node : ℕ × α) (l : List (ℕ × α)) : ids (node :: l) = node.1 :: ids l :=
  rfl

@[simp] theorem ids_append (l l' : List (ℕ × α)) : ids (l ++ l') = ids l ++ ids l' :=
  List.map_append

@[simp] theorem cells_alloc_fresh (h : Heap α) (v : α) :
    (h.alloc v).cells h.fresh = some ⟨v, none⟩ := Function.update_self ..

theorem cells_alloc_of_ne (v : α) (hp : p ≠ h.fresh) : (h.alloc v).cells p = h.cells p :=
  Function.update_of_ne hp ..

theorem cells_setNext_self (h : Heap α) (p : ℕ) (next : Option ℕ) :
    (h.setNext p next).cells p = (h.cells p).map fun node => { node with next := next } :=
  Function.update_self ..

theorem cells_setNext_of_ne {q : ℕ} (next : Option ℕ) (hp : p ≠ q) :
    (h.setNext q next).cells p = h.cells p := Function.update_of_ne hp ..

/-! ## Chains -/

theorem Chain.live (hc : Chain h head l) (hp : p ∈ ids l) : h.cells p ≠ none := by
  induction l generalizing head with
  | nil => simp at hp
  | cons node l ih =>
    obtain ⟨q, v⟩ := node
    obtain ⟨-, next, hcell, hrest⟩ := hc
    rw [ids_cons, List.mem_cons] at hp
    obtain rfl | hp := hp
    · simp [hcell]
    · exact ih hrest hp

theorem Chain.lt_fresh (hc : Chain h head l) (hp : p ∈ ids l) : p < h.fresh := by
  by_contra hge
  exact hc.live hp (h.unused p (by omega))

/-- The nodes determine the chain. -/
theorem Chain.unique (hc : Chain h head l) (hc' : Chain h head l') : l = l' := by
  induction l generalizing head l' with
  | nil =>
    cases l' with
    | nil => rfl
    | cons node l' => exact absurd (hc.symm.trans hc'.1) (by simp)
  | cons node l ih =>
    cases l' with
    | nil => exact absurd (hc'.symm.trans hc.1) (by simp)
    | cons node' l' =>
      obtain ⟨hhead, next, hcell, hrest⟩ := hc
      obtain ⟨hhead', next', hcell', hrest'⟩ := hc'
      have hp : node.1 = node'.1 := Option.some.inj (hhead.symm.trans hhead')
      rw [hp, hcell'] at hcell
      obtain ⟨hv, hnext⟩ := Node.mk.inj (Option.some.inj hcell)
      rw [← hnext] at hrest
      rw [ih hrest hrest', Prod.ext hp hv.symm]

/-- What comes after some of the nodes is a chain too. -/
theorem Chain.suffix (hc : Chain h head (l ++ l')) : ∃ next, Chain h next l' := by
  induction l generalizing head with
  | nil => exact ⟨head, hc⟩
  | cons node l ih =>
    obtain ⟨-, next, -, hrest⟩ := hc
    exact ih hrest

theorem Chain.nodup (hc : Chain h head l) : (ids l).Nodup := by
  induction l generalizing head with
  | nil => exact List.nodup_nil
  | cons node l ih =>
    obtain ⟨hhead, next, hcell, hrest⟩ := id hc
    refine List.nodup_cons.2 ⟨fun hp => ?_, ih hrest⟩
    -- a node that comes again would start the same chain, with fewer nodes
    obtain ⟨node', hmem, hid⟩ := List.mem_map.1 hp
    obtain ⟨before, after, rfl⟩ := List.append_of_mem hmem
    obtain ⟨head', hc'⟩ := hrest.suffix
    have hsame : head' = head := by rw [hc'.1, hhead, hid]
    rw [hsame] at hc'
    have hlen := congrArg List.length (hc.unique hc')
    simp only [List.length_cons, List.length_append] at hlen
    omega

/-- The frame rule. -/
theorem Chain.congr (hc : Chain h head l) (hcells : ∀ p ∈ ids l, h'.cells p = h.cells p) :
    Chain h' head l := by
  induction l generalizing head with
  | nil => exact hc
  | cons node l ih =>
    obtain ⟨hhead, next, hcell, hrest⟩ := hc
    refine ⟨hhead, next, ?_, ih hrest fun p hp => hcells p (List.mem_cons_of_mem _ hp)⟩
    rw [hcells node.1 List.mem_cons_self, hcell]

/-! ## Lists that grow -/

theorem chain_alloc (h : Heap α) (v : α) : Chain (h.alloc v) (some h.fresh) [(h.fresh, v)] :=
  ⟨rfl, none, cells_alloc_fresh h v, rfl⟩

/-- A new node is linked behind the last one. -/
theorem Chain.append_alloc (hc : Chain h head (l ++ [(p, w)])) (v : α) :
    Chain ((h.alloc v).setNext p (some h.fresh)) head (l ++ [(p, w), (h.fresh, v)]) := by
  induction l generalizing head with
  | nil =>
    obtain ⟨hhead, next, hcell, hnil⟩ := hc
    have hne : p ≠ h.fresh := by
      rintro rfl
      rw [h.unused h.fresh (Nat.le_refl _)] at hcell
      contradiction
    refine ⟨hhead, some h.fresh, ?_, rfl, none, ?_, rfl⟩
    · rw [cells_setNext_self, cells_alloc_of_ne v hne, hcell]
      rfl
    · rw [cells_setNext_of_ne _ hne.symm, cells_alloc_fresh]
  | cons node l ih =>
    have hnodup := hc.nodup
    have hlt := hc.lt_fresh (p := node.1) List.mem_cons_self
    obtain ⟨hhead, next, hcell, hrest⟩ := hc
    have hne : node.1 ≠ p := by
      rintro heq
      simp [heq] at hnodup
    refine ⟨hhead, next, ?_, ih hrest⟩
    rw [cells_setNext_of_ne _ hne, cells_alloc_of_ne v (by omega), hcell]

/-! ## Deletion -/

/-- `while (p) { next = p->next; delete p; p = next; }`. -/
def freeAll : ℕ → Heap α → Option ℕ → Option (Heap α)
  | _, h, none => some h
  | 0, _, some _ => none
  | fuel + 1, h, some p =>
    match h.cells p with
    | none => none
    | some node => freeAll fuel (h.free p) node.next

theorem freeAll_chain (hc : Chain h head l) {fuel : ℕ} (hfuel : l.length ≤ fuel) :
    ∃ h', freeAll fuel h head = some h' ∧ h'.fresh = h.fresh ∧
      ∀ p, h'.cells p = if p ∈ ids l then none else h.cells p := by
  induction l generalizing h head fuel with
  | nil =>
    obtain rfl : head = none := hc
    exact ⟨h, by cases fuel <;> rfl, rfl, by simp⟩
  | cons node l ih =>
    have hnodup := List.nodup_cons.1 hc.nodup
    obtain ⟨rfl, next, hcell, hrest⟩ := hc
    obtain ⟨fuel, rfl⟩ : ∃ k, fuel = k + 1 := Nat.exists_eq_add_one.2 (by simp at hfuel; omega)
    have hframe : ∀ p ∈ ids l, (h.free node.1).cells p = h.cells p := fun p hp =>
      Function.update_of_ne (fun heq : p = node.1 => hnodup.1 (heq ▸ hp)) ..
    obtain ⟨h', hfree, hfresh, hcells⟩ := ih (hrest.congr hframe) (by simpa using hfuel)
    refine ⟨h', ?_, hfresh, fun p => ?_⟩
    · rw [freeAll, hcell]
      exact hfree
    · rw [hcells p, ids_cons]
      by_cases hp : p ∈ ids l
      · simp [hp]
      · by_cases hpn : p = node.1
        · simp [hpn, Heap.free]
        · simp [hp, hpn, Heap.free]

end LinkedList
