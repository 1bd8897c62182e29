import Mathlib.Algebra.Order.Field.Rat
import Mathlib.Tactic.NormNum
import Mathlib.Tactic.Positivity
import Mathlib.Tactic.Ring
import MetricsAgent.Proofs.Json.Literal

/-!
# The fewest digits name one double

Why a double can be read back from its text.  The text holds a decimal that was looked for by
`Binary.shortest`, and the reader takes the nearest double to it; that this is the double one
started from has two parts.

* The decimal lies in the rounding interval of the double, `Binary.rounds_shortest`.  The search
  compares whole numbers on a common scale, and the interval is one of rationals, so most of the
  work is to say what the whole numbers stand for.
* No number lies in two such intervals, `Binary.eq_of_rounds` for positive numbers and
  `FloatParts.eq_of_roundedFrom` for numbers with a sign.

How good the digits are is not the subject here.  That they are the fewest is what the search is
for, and nothing that is read back depends on it.
-/

set_option autoImplicit false

namespace MetricsAgent

namespace Decimal

/-- The number that a decimal stands for. -/
def value (d : Decimal) : ℚ := d.digits * 10 ^ d.exponent

theorem value_stripZeros (n : Nat) (d : Decimal) : (stripZeros n d).value = d.value := by
  induction n generalizing d with
  | zero => rfl
  | succ n ih =>
    rw [stripZeros]
    split
    · rename_i zeros
      have digits : (d.digits : ℚ) = (d.digits / 10 : Nat) * 10 := by exact_mod_cast (by omega)
      rw [ih, value, value, zpow_add_one₀ (by norm_num), digits]
      ring
    · rfl

theorem value_normalize (d : Decimal) : d.normalize.value = d.value := value_stripZeros _ d

end Decimal

namespace Binary

variable {b b' : Binary} {q : ℚ}

/-! ## The rounding interval

`Binary.Rounds` is the interval over the rationals, in quarters of a unit in the last place.  The
two ends belong to it just if the mantissa is even, which is the rule for a number halfway between
two doubles. -/

/-- A quarter of a unit in the last place. -/
def unit (b : Binary) : ℚ := 2 ^ (b.exponent - 2)

theorem unit_pos (b : Binary) : 0 < b.unit := zpow_pos (by norm_num) _

/-- A number rounds to `b` if it lies between the ends of the rounding interval, and to the even one
of two neighbours if it lies halfway. -/
structure Rounds (b : Binary) (q : ℚ) : Prop where
  low_le : b.low * b.unit ≤ q
  le_high : q ≤ b.high * b.unit
  even : q = b.low * b.unit ∨ q = b.high * b.unit → b.mantissa % 2 = 0

/-- A power with a negative exponent, made whole by the power that is missing. -/
theorem zpow_mul_pow_toNat {a : ℚ} (h : a ≠ 0) (e : Int) :
    a ^ e * a ^ (-e).toNat = a ^ e.toNat := by
  rw [← zpow_natCast, ← zpow_natCast, ← zpow_add₀ h]
  congr 1
  omega

/-- Points and quarter units of a grid are the powers that they stand for, on a common scale. -/
theorem exists_scale (b : Binary) (e : Int) :
    ∃ k :
      ℚ, 0 < k ∧ ((b.grid e).point : ℚ) = 10 ^ e * k ∧ ((b.grid e).quarter : ℚ) = b.unit * k := by
  have ten := zpow_mul_pow_toNat (show (10 : ℚ) ≠ 0 by norm_num) e
  have two := zpow_mul_pow_toNat (show (2 : ℚ) ≠ 0 by norm_num) (b.exponent - 2)
  refine ⟨10 ^ (-e).toNat * 2 ^ (-(b.exponent - 2)).toNat, by positivity, ?_, ?_⟩
  · show ((Nat.pow 10 e.toNat * Nat.pow 2 (-(b.exponent - 2)).toNat : Nat) : ℚ) = _
    rw [← mul_assoc, ten]
    norm_cast
  · show ((Nat.pow 2 (b.exponent - 2).toNat * Nat.pow 10 (-e).toNat : Nat) : ℚ) = _
    rw [mul_left_comm, unit, two, mul_comm]
    norm_cast

theorem rounds_of_readsBack {e : Int} {c : Nat} (h : b.readsBack (b.grid e) c = true) :
    b.Rounds (Decimal.value ⟨c, e⟩) := by
  obtain ⟨k, k_pos, point, quarter⟩ := b.exists_scale e
  have low (n : Nat) : n * (b.grid e).quarter ≤ c * (b.grid e).point ↔
      n * b.unit ≤ Decimal.value ⟨c, e⟩ := by
    rw [Decimal.value, ← mul_le_mul_iff_left₀ k_pos, mul_assoc, mul_assoc, ← point, ← quarter]
    norm_cast
  have high (n : Nat) : c * (b.grid e).point ≤ n * (b.grid e).quarter ↔
      Decimal.value ⟨c, e⟩ ≤ n * b.unit := by
    rw [Decimal.value, ← mul_le_mul_iff_left₀ k_pos, mul_assoc, mul_assoc, ← point, ← quarter]
    norm_cast
  rw [readsBack] at h
  split at h
  · simp only [Bool.and_eq_true, decide_eq_true_eq, low, high] at h
    exact ⟨h.1, h.2, fun _ ↦ ‹_›⟩
  · simp only [Bool.and_eq_true, decide_eq_true_eq, ← not_le, low, high] at h
    refine ⟨(not_le.mp h.1).le, (not_le.mp h.2).le, ?_⟩
    rintro (e | e)
    · exact absurd e.le h.1
    · exact absurd e.ge h.2

theorem readsBack_of_nearestOn {e : Int} {c : Nat} (near : b.nearestOn e = some c) :
    b.readsBack (b.grid e) c = true := by
  rw [nearestOn] at near
  split at near
  · split at near <;> cases near <;> assumption
  · cases near
    assumption
  · cases near
    assumption
  · cases near

theorem value_exact (b : Binary) : b.exact.value = 4 * b.mantissa * b.unit := by
  have unit : 4 * b.unit = 2 ^ b.exponent := by
    rw [Binary.unit, zpow_sub₀ (by norm_num)]
    ring
  have two := zpow_mul_pow_toNat (show (2 : ℚ) ≠ 0 by norm_num) b.exponent
  have five := zpow_mul_pow_toNat (show (5 : ℚ) ≠ 0 by norm_num) b.exponent
  rw [mul_right_comm, unit, exact]
  split
  · rw [show (-b.exponent).toNat = 0 by omega, pow_zero, mul_one] at two
    rw [two, Decimal.value, zpow_zero, mul_one, mul_comm]
    norm_cast
  · rw [show b.exponent.toNat = 0 by omega, pow_zero] at five
    have digits : ((b.mantissa * Nat.pow 5 (-b.exponent).toNat : Nat) : ℚ) =
        b.mantissa * 5 ^ (-b.exponent).toNat := by norm_cast
    rw [Decimal.value, digits, show (10 : ℚ) = 5 * 2 by norm_num, mul_zpow]
    calc (b.mantissa : ℚ) * 5 ^ (-b.exponent).toNat * (5 ^ b.exponent * 2 ^ b.exponent)
        = 5 ^ b.exponent * 5 ^ (-b.exponent).toNat * (2 ^ b.exponent * b.mantissa) := by ring
      _ = 2 ^ b.exponent * b.mantissa := by rw [five, one_mul]

/-- The exact value lies well inside the interval. -/
theorem rounds_exact (pos : 0 < b.mantissa) : b.Rounds b.exact.value := by
  have low : (b.low : ℚ) < 4 * b.mantissa := by
    have : b.low < 4 * b.mantissa := by rw [Binary.low]; split <;> omega
    exact_mod_cast this
  have high : 4 * (b.mantissa : ℚ) < b.high := by
    have : 4 * b.mantissa < b.high := by rw [Binary.high]; omega
    exact_mod_cast this
  have above := mul_lt_mul_of_pos_right low b.unit_pos
  have below := mul_lt_mul_of_pos_right high b.unit_pos
  rw [value_exact]
  refine ⟨above.le, below.le, ?_⟩
  rintro (e | e)
  · exact absurd e above.ne'
  · exact absurd e below.ne

theorem rounds_search (pos : 0 < b.mantissa) (n : Nat) (e : Int) :
    b.Rounds (b.search n e).value := by
  induction n generalizing e with
  | zero => exact rounds_exact pos
  | succ n ih =>
    rw [search]
    split
    · exact rounds_of_readsBack (readsBack_of_nearestOn ‹_›)
    · exact ih _

/-- **The fewest digits round to the number.** -/
theorem rounds_shortest (pos : 0 < b.mantissa) : b.Rounds b.shortest.value := by
  rw [shortest, Decimal.value_normalize]
  exact rounds_search pos _ _

/-! ## No two doubles

Of two doubles the larger one begins where the smaller one ends, or beyond.  Everything is measured
in quarters of the last place of the *smaller* one, in which the interval of the larger one is a
whole number of steps away.  If the two intervals touch, one of the mantissas is odd, so the common
end belongs to one of them only. -/

/-- The magnitude of a double: its mantissa has 53 bits, or fewer at the smallest exponent. -/
structure IsDouble (b : Binary) : Prop where
  pos : 0 < b.mantissa
  lt : b.mantissa < 2 ^ 53
  ge : -1074 ≤ b.exponent
  normal : b.exponent = -1074 ∨ 2 ^ 52 ≤ b.mantissa
  narrowBelow : b.narrowBelow = (b.mantissa = 2 ^ 52 && -1074 < b.exponent)

theorem IsDouble.low_eq (h : b.IsDouble) :
    b.low = if b.mantissa = 2 ^ 52 ∧
    -1074 < b.exponent then 2 ^ 54 - 1 else 4 * b.mantissa - 2 := by
  rw [low, h.narrowBelow]
  simp only [Bool.and_eq_true, decide_eq_true_eq]
  split
  · omega
  · rfl

/-- In units of the smaller of two doubles, its interval ends where that of the larger one begins,
if not before; and if it does end there, the mantissa of one of the two is odd. -/
theorem exists_low (h : b.IsDouble) (h' : b'.IsDouble)
    (less : b.exponent < b'.exponent ∨ b.exponent = b'.exponent ∧ b.mantissa < b'.mantissa) :
    ∃ n : Nat, (b'.low : ℚ) * b'.unit = n * b.unit ∧ b.high ≤ n ∧
      (b.high = n → b.mantissa % 2 = 1 ∨ b'.mantissa % 2 = 1) := by
  have lt := h.lt
  have low := h'.low_eq
  rcases less with less | ⟨same, less⟩
  · -- A larger exponent: the lower boundary is counted in the finer unit of the smaller double.
    obtain ⟨k, hk⟩ : ∃ k : Nat, b'.exponent = b.exponent + 1 + k :=
      ⟨(b'.exponent - b.exponent - 1).toNat, by omega⟩
    have unit : b'.unit = (2 * 2 ^ k : Nat) * b.unit := by
      rw [Binary.unit, Binary.unit, hk,
        show b.exponent + 1 + k - 2 = 1 + k + (b.exponent - 2) by ring,
        zpow_add₀ (by norm_num), zpow_add₀ (by norm_num), zpow_one, zpow_natCast]
      norm_cast
    have above : -1074 < b'.exponent := by have := h.ge; omega
    have normal : 2 ^ 52 ≤ b'.mantissa := h'.normal.resolve_left (by omega)
    have double : b'.low * 2 ≤ b'.low * (2 * 2 ^ k) :=
      Nat.mul_le_mul_left _ (Nat.le_mul_of_pos_right 2 Nat.one_le_two_pow)
    simp only [above, and_true] at low
    refine ⟨b'.low * (2 * 2 ^ k), by rw [unit]; push_cast; ring, ?_, fun e ↦ .inl ?_⟩
    · rw [high]
      split at low <;> omega
    · rw [high] at e
      split at low <;> omega
  · -- Equal exponents: the boundaries are compared in one unit.
    have pos := h.pos
    refine ⟨b'.low, by rw [Binary.unit, Binary.unit, same], ?_, fun e ↦ ?_⟩
    · rw [high]
      split at low <;> omega
    · rw [high] at e
      split at low
      · -- below a power of two the exponent is smaller, unless it is the smallest
        have := h.normal
        omega
      · omega

/-- What rounds to a double does not round to a larger one. -/
theorem not_rounds_of_less (h : b.IsDouble) (h' : b'.IsDouble) (r : b.Rounds q)
    (less : b.exponent < b'.exponent ∨ b.exponent = b'.exponent ∧ b.mantissa < b'.mantissa) :
    ¬b'.Rounds q := by
  intro r'
  obtain ⟨n, low, high_le, odd⟩ := exists_low h h' less
  have le : (b.high : ℚ) * b.unit ≤ n * b.unit :=
    mul_le_mul_of_nonneg_right (by exact_mod_cast high_le) b.unit_pos.le
  have ge : n * b.unit ≤ b.high * b.unit := low ▸ r'.low_le.trans r.le_high
  have same : b.high = n := by exact_mod_cast mul_right_cancel₀ b.unit_pos.ne' (le.antisymm ge)
  have at_high : q = b.high * b.unit := r.le_high.antisymm (le.trans (low ▸ r'.low_le))
  have at_low : q = b'.low * b'.unit := by rw [at_high, low, same]
  have even := r.even (.inr at_high)
  have even' := r'.even (.inl at_low)
  have := odd same
  omega

/-- **No number rounds to two doubles.** -/
theorem eq_of_rounds (h : b.IsDouble) (h' : b'.IsDouble) (r : b.Rounds q) (r' : b'.Rounds q) :
    b = b' := by
  rcases lt_trichotomy b.exponent b'.exponent with less | same | less
  · exact absurd r' (not_rounds_of_less h h' r (.inl less))
  · rcases lt_trichotomy b.mantissa b'.mantissa with less | same' | less
    · exact absurd r' (not_rounds_of_less h h' r (.inr ⟨same, less⟩))
    · have narrow : b.narrowBelow = b'.narrowBelow := by
        rw [h.narrowBelow, h'.narrowBelow, same, same']
      cases b
      cases b'
      cases same
      cases same'
      cases narrow
      rfl
    · exact absurd r (not_rounds_of_less h' h r' (.inr ⟨same.symm, less⟩))
  · exact absurd r (not_rounds_of_less h' h r' (.inl less))

end Binary

/-! ## Doubles

From magnitudes to the doubles themselves: a double is determined by its bits, and a finite one by
its sign and its magnitude. -/

namespace FloatParts

theorem isDouble {x : Float} {negative : Bool} {b : Binary} (h : ofFloat x = .finite negative b) :
    b.IsDouble := by
  have pos := mantissa_pos h
  simp only [ofFloat, Nat.pow_eq] at h
  split_ifs at h <;> cases h
  · exact ⟨pos, by dsimp only; omega, le_rfl, .inl rfl, by simp⟩
  · refine ⟨pos, by dsimp only; omega, by dsimp only; omega, .inr (by simp), ?_⟩
    simp only [Nat.add_eq_left]
    congr 1
    exact decide_eq_decide.mpr (by omega)

/-- The bits of a double with these parts. -/
def bits : FloatParts → Nat
  | .zero negative => if negative then 2 ^ 63 else 0
  | .finite negative b => (if negative then 2 ^ 63 else 0) +
    if b.mantissa < 2 ^ 52 then b.mantissa
    else (b.exponent + 1075).toNat * 2 ^ 52 + (b.mantissa - 2 ^ 52)
  | _ => 0

theorem bits_ofFloat {x : Float} (finite : (ofFloat x).isFinite = true) :
    (ofFloat x).bits = x.toBits.toNat := by
  have lt := x.toBits.toNat_lt
  generalize hx : ofFloat x = parts at finite
  simp only [ofFloat, Nat.pow_eq] at hx
  generalize x.toBits.toNat = n at lt hx
  have sign : (if decide (2 ^ 63 ≤ n) = true then 2 ^ 63 else 0) = n / 2 ^ 63 * 2 ^ 63 := by
    rcases Nat.lt_or_ge n (2 ^ 63) with small | large
    · rw [decide_eq_false (by omega), if_neg Bool.false_ne_true]
      omega
    · rw [decide_eq_true large, if_pos rfl]
      omega
  split_ifs at hx <;> subst hx
  · cases finite
  · cases finite
  · rw [bits, sign]
    omega
  · rw [bits, sign, if_pos (Nat.mod_lt n (by decide))]
    dsimp only
    omega
  · rw [bits, sign, if_neg (by dsimp only; omega), Int.sub_add_cancel, Int.toNat_natCast]
    dsimp only
    omega

/-- A double is determined by the bits that it is stored as. -/
theorem eq_of_toBits_eq {x y : Float} (same : x.toBits = y.toBits) : x = y := by
  obtain ⟨⟨bits, valid⟩⟩ := x
  obtain ⟨⟨bits', valid'⟩⟩ := y
  cases same
  rfl

/-- A double is determined by its parts, if it is finite. -/
theorem eq_of_ofFloat_eq {x y : Float} (finite : (ofFloat x).isFinite = true)
    (same : ofFloat x = ofFloat y) : x = y := by
  have bits : x.toBits.toNat = y.toBits.toNat := by
    rw [← bits_ofFloat finite, ← bits_ofFloat (same ▸ finite), same]
  exact eq_of_toBits_eq (UInt64.toNat_inj.mp bits)

/-- A number and a sign round to the double with these parts. -/
def RoundedFrom (negative : Bool) (q : ℚ) : FloatParts → Prop
  | .zero sign => sign = negative ∧ q = 0
  | .finite sign b => sign = negative ∧ b.Rounds q
  | _ => False

/-- **A number and a sign round to one double only.** -/
theorem eq_of_roundedFrom {x y : Float} {negative : Bool} {q : ℚ}
    (hx : RoundedFrom negative q (ofFloat x)) (hy : RoundedFrom negative q (ofFloat y)) :
    x = y := by
  -- No nonzero double rounds from zero, so a zero and a nonzero double cannot stand for one number.
  have zero {z : Float} {sign : Bool} {b : Binary} (h : ofFloat z = .finite sign b) :
      ¬b.Rounds 0 := by
    intro r
    have low : 0 < (b.low : ℚ) := by exact_mod_cast Binary.low_pos (isDouble h).pos
    exact absurd r.low_le (not_le.mpr (mul_pos low b.unit_pos))
  have finite : (ofFloat x).isFinite = true := by
    cases h : ofFloat x <;> rw [h] at hx <;> first | rfl | cases hx
  refine eq_of_ofFloat_eq finite ?_
  cases h : ofFloat x with
  | nan | infinite => rw [h] at hx; cases hx
  | zero sign =>
    rw [h] at hx
    obtain ⟨rfl, rfl⟩ := hx
    cases h' : ofFloat y with
    | nan | infinite => rw [h'] at hy; cases hy
    | zero => rw [h'] at hy; rw [hy.1]
    | finite => rw [h'] at hy; exact absurd hy.2 (zero h')
  | finite sign b =>
    rw [h] at hx
    obtain ⟨rfl, r⟩ := hx
    cases h' : ofFloat y with
    | nan | infinite => rw [h'] at hy; cases hy
    | zero =>
      rw [h'] at hy
      obtain ⟨-, rfl⟩ := hy
      exact absurd r (zero h)
    | finite =>
      rw [h'] at hy
      rw [Binary.eq_of_rounds (isDouble h) (isDouble h') r hy.2, hy.1]

end FloatParts

end MetricsAgent
