import Mathlib.Data.UInt
import Mathlib.Data.Nat.Notation

/-!
# UTF-16 and UTF-8

A text is a list of characters, and its encodings are lists of code units.

* `utf16Units_append_inj`, `utf16Encode_prefix`: no encoding of a character begins
  another one, so encodings are compared character by character.
* `length_utf8Encode_le`: a code unit becomes at most three bytes.
-/

namespace Utf

/-- The UTF-16 code units of a character: two surrogates beyond `U+FFFF`. -/
def utf16Units (c : Char) : List UInt16 :=
  if c.toNat < 0x10000 then [c.toNat.toUInt16]
  else
    [(0xd800 + (c.toNat - 0x10000) / 0x400).toUInt16,
      (0xdc00 + (c.toNat - 0x10000) % 0x400).toUInt16]

def utf16Encode (s : List Char) : List UInt16 := s.flatMap utf16Units

def utf8Encode (s : List Char) : List UInt8 := s.flatMap String.utf8EncodeChar

@[simp] theorem utf16Encode_nil : utf16Encode [] = [] := rfl

@[simp] theorem utf16Encode_cons (c : Char) (s : List Char) :
    utf16Encode (c :: s) = utf16Units c ++ utf16Encode s := rfl

@[simp] theorem utf8Encode_nil : utf8Encode [] = [] := rfl

@[simp] theorem utf8Encode_cons (c : Char) (s : List Char) :
    utf8Encode (c :: s) = String.utf8EncodeChar c ++ utf8Encode s := rfl

/-! ## Code points -/

/-- A character is no surrogate, and its number is below 0x110000. -/
theorem toNat_bounds (c : Char) :
    c.toNat < 0xd800 ∨ 0xdfff < c.toNat ∧ c.toNat < 0x110000 := c.valid

theorem toUInt16_inj {m n : ℕ} (hm : m < 2 ^ 16) (hn : n < 2 ^ 16) :
    m.toUInt16 = n.toUInt16 ↔ m = n := by
  rw [← UInt16.toNat_inj]
  simp only [Nat.toUInt16_eq, UInt16.toNat_ofNat']
  omega

theorem utf16Units_of_lt {c : Char} (h : c.toNat < 0x10000) :
    utf16Units c = [c.toNat.toUInt16] := if_pos h

theorem utf16Units_of_le {c : Char} (h : 0x10000 ≤ c.toNat) :
    utf16Units c = [(0xd800 + (c.toNat - 0x10000) / 0x400).toUInt16,
      (0xdc00 + (c.toNat - 0x10000) % 0x400).toUInt16] := if_neg (by omega)

/-- A character up to `U+FFFF` is not encoded as a surrogate. -/
theorem utf16Units_ne {c d : Char} {s t : List UInt16} (hc : c.toNat < 0x10000)
    (hd : 0x10000 ≤ d.toNat) : utf16Units c ++ s ≠ utf16Units d ++ t := by
  have hc' := toNat_bounds c
  have hd' := toNat_bounds d
  intro h
  rw [utf16Units_of_lt hc, utf16Units_of_le hd] at h
  have hfirst := (List.cons.inj h).1
  rw [toUInt16_inj (by omega) (by omega)] at hfirst
  omega

/-- No encoding of a character begins that of another one. -/
theorem utf16Units_append_inj {c d : Char} {s t : List UInt16}
    (h : utf16Units c ++ s = utf16Units d ++ t) : c = d ∧ s = t := by
  have hc' := toNat_bounds c
  have hd' := toNat_bounds d
  obtain hc | hc := Nat.lt_or_ge c.toNat 0x10000 <;>
    obtain hd | hd := Nat.lt_or_ge d.toNat 0x10000
  · rw [utf16Units_of_lt hc, utf16Units_of_lt hd] at h
    obtain ⟨hunit, hrest⟩ := List.cons.inj h
    rw [toUInt16_inj (by omega) (by omega)] at hunit
    exact ⟨Char.toNat_inj.1 hunit, hrest⟩
  · exact absurd h (utf16Units_ne hc hd)
  · exact absurd h.symm (utf16Units_ne hd hc)
  · rw [utf16Units_of_le hc, utf16Units_of_le hd] at h
    obtain ⟨hhigh, htail⟩ := List.cons.inj h
    obtain ⟨hlow, hrest⟩ := List.cons.inj htail
    rw [toUInt16_inj (by omega) (by omega)] at hhigh hlow
    exact ⟨Char.toNat_inj.1 (by omega), hrest⟩

/-! ## Texts -/

theorem utf16Units_ne_nil (c : Char) : utf16Units c ≠ [] := by
  unfold utf16Units
  split <;> simp

/-- A text whose encoding begins that of another one begins that text. -/
theorem utf16Encode_prefix {s t : List Char} (h : utf16Encode s <+: utf16Encode t) : s <+: t := by
  induction s generalizing t with
  | nil => exact List.nil_prefix
  | cons c s ih =>
    obtain ⟨rest, hrest⟩ := h
    rw [utf16Encode_cons, List.append_assoc] at hrest
    cases t with
    | nil =>
      have hnil := (List.append_eq_nil_iff.1 hrest).1
      exact absurd hnil (utf16Units_ne_nil c)
    | cons d t =>
      obtain ⟨rfl, htail⟩ := utf16Units_append_inj hrest
      exact List.cons_prefix_cons.2 ⟨rfl, ih ⟨rest, htail⟩⟩

/-- A code unit becomes at most three bytes. -/
theorem utf8Size_le (c : Char) : c.utf8Size ≤ 3 * (utf16Units c).length := by
  obtain h | h := Nat.lt_or_ge c.toNat 0x10000
  · have hle : c.utf8Size ≤ 3 := by
      have hval : c.val ≤ 65535 := UInt32.le_iff_toNat_le.2 (by change c.toNat ≤ 65535; omega)
      simp only [Char.utf8Size]
      split_ifs <;> simp_all
    simpa [utf16Units_of_lt h] using hle
  · have hle := c.utf8Size_le_four
    rw [utf16Units_of_le h]
    simp only [List.length_cons, List.length_nil]
    omega

theorem length_utf8Encode_le (s : List Char) :
    (utf8Encode s).length ≤ 3 * (utf16Encode s).length := by
  induction s with
  | nil => simp
  | cons c s ih =>
    have hc := utf8Size_le c
    rw [utf8Encode_cons, utf16Encode_cons, List.length_append, List.length_append,
      String.length_utf8EncodeChar]
    omega

end Utf
