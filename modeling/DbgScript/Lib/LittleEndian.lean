import Mathlib.Data.Nat.Digits.Lemmas

/-!
# Little-endian numbers

The number that a sequence of bytes denotes, least significant byte first: `leNat` as an
unsigned number, `leInt` in two's complement.

* `leNat_append`, `leNat_lt`, `leNat_eq_zero`: what the bytes of a part contribute.
* `leNat_eq_leInt`: the two readings agree below half of the range only.
-/

/-- The number that `bytes` denote, least significant byte first. -/
def leNat (bytes : List UInt8) : ℕ := Nat.ofDigits 256 (bytes.map UInt8.toNat)

@[simp] theorem leNat_nil : leNat [] = 0 := rfl

theorem leNat_cons (b : UInt8) (bytes : List UInt8) :
    leNat (b :: bytes) = b.toNat + 256 * leNat bytes := by
  simp [leNat, Nat.ofDigits_cons]

theorem leNat_append (l m : List UInt8) : leNat (l ++ m) = leNat l + 256 ^ l.length * leNat m := by
  simp [leNat, Nat.ofDigits_append]

theorem leNat_lt (bytes : List UInt8) : leNat bytes < 256 ^ bytes.length := by
  have h : ∀ d ∈ bytes.map UInt8.toNat, d < 256 := by
    intro d hd
    obtain ⟨b, -, rfl⟩ := List.mem_map.1 hd
    exact b.toNat_lt
  simpa [leNat] using Nat.ofDigits_lt_base_pow_length (by omega) h

/-- Only zero bytes denote zero. -/
theorem leNat_eq_zero {bytes : List UInt8} : leNat bytes = 0 ↔ ∀ b ∈ bytes, b = 0 := by
  induction bytes with
  | nil => simp
  | cons b bytes ih =>
    have hb : b.toNat = 0 ↔ b = 0 := by
      rw [← UInt8.toNat_inj]
      rfl
    rw [leNat_cons, List.forall_mem_cons, ← ih, ← hb]
    omega

/-- The number that `bytes` denote in two's complement. -/
def leInt (bytes : List UInt8) : ℤ := (BitVec.ofNat (8 * bytes.length) (leNat bytes)).toInt

theorem toNat_ofNat_leNat (bytes : List UInt8) {w : ℕ} (hw : 8 * bytes.length ≤ w) :
    (BitVec.ofNat w (leNat bytes)).toNat = leNat bytes := by
  have hlt := leNat_lt bytes
  have hpow : 256 ^ bytes.length ≤ 2 ^ w := by
    rw [show (256 : ℕ) = 2 ^ 8 from rfl, ← pow_mul]
    exact Nat.pow_le_pow_right (by omega) hw
  rw [BitVec.toNat_ofNat, Nat.mod_eq_of_lt (by omega)]

/-- Above half of the range the two readings differ by the range. -/
theorem leInt_eq (bytes : List UInt8) :
    leInt bytes =
      if 2 * leNat bytes < 2 ^ (8 * bytes.length) then (leNat bytes : ℤ)
      else leNat bytes - 2 ^ (8 * bytes.length) := by
  rw [leInt, BitVec.toInt_eq_toNat_cond, toNat_ofNat_leNat bytes le_rfl]
  push_cast
  rfl

/-- The two readings agree below half of the range only. -/
theorem leNat_eq_leInt {bytes : List UInt8} :
    (leNat bytes : ℤ) = leInt bytes ↔ 2 * leNat bytes < 2 ^ (8 * bytes.length) := by
  have hpow : (0 : ℤ) < 2 ^ (8 * bytes.length) := by positivity
  rw [leInt_eq]
  split <;> omega

theorem leInt_of_length {bytes : List UInt8} {n : ℕ} (h : bytes.length = n) :
    leInt bytes = (BitVec.ofNat (8 * n) (leNat bytes)).toInt := by
  rw [leInt, h]

theorem leInt_bounds (bytes : List UInt8) :
    -2 ^ (8 * bytes.length) ≤ leInt bytes ∧ leInt bytes < 2 ^ (8 * bytes.length) := by
  have hlt : (leNat bytes : ℤ) < 2 ^ (8 * bytes.length) := by
    rw [pow_mul]
    exact_mod_cast leNat_lt bytes
  rw [leInt_eq]
  split <;> omega
