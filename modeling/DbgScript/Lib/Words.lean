import Mathlib.Data.List.TakeWhile

/-!
# Words between separators

A list is read as words between separators: maximal non-empty runs of elements that
are not separators. `words` lists them, and `dropWords k` is what follows the `k`-th
one, separators included.

* `words_of_dropWhile`: the first word, and the words after it.
* `words_afterWord`: what follows the first word has the other words.
* `Trims rest r`: `r` is `rest` without some of its leading separators.
-/

namespace Words

variable {α : Type*} (sep : α → Bool)

/-- The words of a list. -/
def words : List α → List (List α)
  | [] => []
  | c :: s =>
    if sep c then words s
    else if s.head?.all sep then [c] :: words s
    else (words s).modifyHead (c :: ·)

/-- What follows the first word. -/
def afterWord (s : List α) : List α := (s.dropWhile sep).dropWhile (!sep ·)

/-- What follows the first `k` words. -/
def dropWords : ℕ → List α → List α
  | 0, s => s
  | k + 1, s => dropWords k (afterWord sep s)

/-- `r` is `rest` without some of its leading separators. -/
def Trims (rest r : List α) : Prop := ∃ b, (∀ c ∈ b, sep c = true) ∧ rest = b ++ r

/-! ## The first word -/

theorem words_cons_sep {c : α} (hc : sep c = true) (s : List α) :
    words sep (c :: s) = words sep s := by
  rw [words, if_pos hc]

/-- Leading separators do not matter. -/
theorem words_dropWhile (s : List α) : words sep (s.dropWhile sep) = words sep s := by
  induction s with
  | nil => rfl
  | cons c s ih =>
    by_cases hc : sep c = true
    · rw [List.dropWhile_cons_of_pos hc, words_cons_sep sep hc, ih]
    · rw [List.dropWhile_cons_of_neg hc]

/-- A list that starts with a word: the word, and the words after it. -/
theorem words_cons {c : α} (hc : sep c = false) (s : List α) :
    words sep (c :: s) =
      (c :: s).takeWhile (!sep ·) :: words sep ((c :: s).dropWhile (!sep ·)) := by
  induction s generalizing c with
  | nil => simp [words, hc]
  | cons d s ih =>
    rw [words, if_neg (by simp [hc])]
    by_cases hd : sep d = true
    · simp [hd, hc]
    · have hd' : sep d = false := by simpa using hd
      rw [if_neg (by simp [hd']), ih hd']
      simp [hc]

theorem words_of_dropWhile_nil {s : List α} (h : s.dropWhile sep = []) : words sep s = [] := by
  rw [← words_dropWhile, h, words]

theorem sep_of_dropWhile_cons {s t : List α} {c : α} (h : s.dropWhile sep = c :: t) :
    sep c = false := by
  have := List.head_dropWhile_not sep (l := s) (by simp [h])
  simpa [h] using this

/-- The first word of a list, and the words after it. -/
theorem words_of_dropWhile {s t : List α} {c : α} (h : s.dropWhile sep = c :: t) :
    words sep s = (c :: t).takeWhile (!sep ·) :: words sep (afterWord sep s) := by
  rw [← words_dropWhile, h, words_cons sep (sep_of_dropWhile_cons sep h), afterWord, h]

theorem words_eq_nil_iff {s : List α} : words sep s = [] ↔ s.dropWhile sep = [] := by
  refine ⟨fun h => ?_, words_of_dropWhile_nil sep⟩
  cases hd : s.dropWhile sep with
  | nil => rfl
  | cons c t => rw [words_of_dropWhile sep hd] at h; cases h

/-- The words after the first one. -/
theorem words_afterWord (s : List α) : words sep (afterWord sep s) = (words sep s).tail := by
  cases hd : s.dropWhile sep with
  | nil => rw [words_of_dropWhile_nil sep hd, afterWord, hd]; rfl
  | cons c t => rw [words_of_dropWhile sep hd, List.tail_cons]

/-- A word is not empty, and no separator is in it. -/
theorem mem_words {s w : List α} (hw : w ∈ words sep s) : w ≠ [] ∧ ∀ c ∈ w, sep c = false := by
  induction s generalizing w with
  | nil => simp [words] at hw
  | cons c s ih =>
    rw [words] at hw
    split_ifs at hw with hc hs
    · exact ih hw
    · rcases List.mem_cons.mp hw with rfl | hw
      · simpa using hc
      · exact ih hw
    · cases hws : words sep s with
      | nil => simp [hws] at hw
      | cons v ws =>
        rw [hws] at hw
        rcases List.mem_cons.mp hw with rfl | hw
        · have hv := (ih (w := v) (by simp [hws])).2
          refine ⟨List.cons_ne_nil _ _, ?_⟩
          rw [List.forall_mem_cons]
          exact ⟨by simpa using hc, hv⟩
        · exact ih (by simp [hws, hw])

/-- Words of the image under a map that respects separators. -/
theorem words_map {β : Type*} {sep' : β → Bool} {f : α → β} (hf : ∀ c, sep' (f c) = sep c)
    (s : List α) : words sep' (s.map f) = (words sep s).map (List.map f) := by
  induction s with
  | nil => rfl
  | cons c s ih =>
    have hhead : (s.map f).head?.all sep' = s.head?.all sep := by
      cases s with
      | nil => rfl
      | cons d s => exact hf d
    rw [List.map_cons, words, words, hf, hhead, ih]
    split_ifs
    · rfl
    · rfl
    · cases words sep s <;> rfl

/-! ## Dropping leading separators -/

theorem dropWords_add (j k : ℕ) (s : List α) :
    dropWords sep (j + k) s = dropWords sep k (dropWords sep j s) := by
  induction j generalizing s with
  | zero => rw [Nat.zero_add, dropWords]
  | succ j ih => rw [Nat.add_right_comm, dropWords, ih, dropWords]

theorem trims_refl (s : List α) : Trims sep s s := ⟨[], by simp, rfl⟩

theorem Trims.dropWhile_eq {rest r : List α} (h : Trims sep rest r) :
    rest.dropWhile sep = r.dropWhile sep := by
  obtain ⟨b, hb, rfl⟩ := h
  exact List.dropWhile_append_of_pos hb

theorem Trims.words_eq {rest r : List α} (h : Trims sep rest r) :
    words sep rest = words sep r := by
  rw [← words_dropWhile, h.dropWhile_eq, words_dropWhile]

theorem Trims.afterWord_eq {rest r : List α} (h : Trims sep rest r) :
    afterWord sep rest = afterWord sep r := by
  rw [afterWord, h.dropWhile_eq, afterWord]

theorem trims_tail_of_sep {s : List α} (h : ∀ c ∈ s.head?, sep c = true) : Trims sep s s.tail := by
  cases s with
  | nil => exact trims_refl sep _
  | cons c s => exact ⟨[c], by simpa using h, rfl⟩

end Words
