import Mathlib.Algebra.Order.Group.Int
import Mathlib.Data.Prod.Lex
import MetricsAgent.Decimal.Shortest
import MetricsAgent.Duration.Basic

/-!
# The order of doubles

Doubles are compared as IEEE 754 says: what is no number is comparable to nothing, and the two zeros
are equal.  The comparison is computed on the parts of a double, by a table over the kinds of
numbers and their signs.  Nothing about it can be proved without going through that table, and this
file goes through it once.

* `Double.rank` gives every number a place in a linear order, in which the sign and whether it is
  infinite come first, then the exponent, then the mantissa.  `Double.le_iff` says that numbers are
  compared by their ranks.
* `Double.le_trans` follows from the order of ranks, and `Double.beq_of_not_lt` says that of two
  numbers one is less or they are equal.
* `Double.IsNonneg` are the numbers with a plus sign.  Whole numbers are, sums and quotients of such
  numbers are, and all of them are at most infinity (`Double.IsNonneg.le_infinity`).

The second half exists for the histograms of `MetricsAgent.SelfMetrics.Histogram`: an observed
duration is at least zero, so it is counted by the bucket without a bound.
-/

set_option autoImplicit false

namespace MetricsAgent

namespace Double

open Float.Model Float.Model.UnpackedFloat

/-! ## Ranks

Below zero the order of exponents and mantissas is turned around, which the rank does with minus
signs.  What is no number has no rank. -/

/-- The place of a number among the numbers, if it is one. -/
def rank : UnpackedFloat → Option (ℤ ×ₗ ℤ ×ₗ ℤ)
  | .notANumber => none
  | .infinity .negative => some (toLex (-2, toLex (0, 0)))
  | .finite .negative m e _ => some (toLex (-1, toLex (-e, -m)))
  | .zero _ => some (toLex (0, toLex (0, 0)))
  | .finite .positive m e _ => some (toLex (1, toLex (e, m)))
  | .infinity .positive => some (toLex (2, toLex (0, 0)))

/-- Exponents are compared first, then mantissas. -/
theorem isLE_then_iff (e₁ e₂ : Int) (m₁ m₂ : Nat) :
    ((compare e₁ e₂).then (compare m₁ m₂)).isLE = true ↔ e₁ < e₂ ∨ e₁ = e₂ ∧ m₁ ≤ m₂ := by
  rw [Ordering.isLE_then_iff_or, Std.compare_eq_lt, Std.compare_eq_iff_eq, Std.isLE_compare]

/-- The other way round below zero. -/
theorem isGE_then_iff (e₁ e₂ : Int) (m₁ m₂ : Nat) :
    ((compare e₁ e₂).then (compare m₁ m₂)).isGE = true ↔ e₂ < e₁ ∨ e₁ = e₂ ∧ m₂ ≤ m₁ := by
  rw [← Ordering.isLE_swap, Ordering.swap_then, ← Std.OrientedOrd.eq_swap,
    ← Std.OrientedOrd.eq_swap, isLE_then_iff, eq_comm]

/-- **Numbers are compared by their ranks.** -/
theorem le_iff (a b : UnpackedFloat) :
    a.le b = true ↔ ∃ r s, rank a = some r ∧ rank b = some s ∧ r ≤ s := by
  -- Each kind of number against each kind, with either sign.
  rcases a with ⟨_ | _⟩ | _ | ⟨_ | _⟩ | ⟨_ | _⟩ <;>
    rcases b with ⟨_ | _⟩ | _ | ⟨_ | _⟩ | ⟨_ | _⟩ <;>
    dsimp only [UnpackedFloat.le, UnpackedFloat.compare, rank] <;>
    simp [Prod.Lex.toLex_le_toLex, isLE_then_iff, isGE_then_iff] <;> rfl

theorem le_iff_rank (a b : Float) : a ≤ b ↔
    ∃ r s, rank a.toModel.unpack = some r ∧ rank b.toModel.unpack = some s ∧ r ≤ s := by
  rw [← le_iff]
  exact decide_eq_true_iff

/-- **The order of doubles is transitive.** -/
theorem le_trans {a b c : Float} (hab : a ≤ b) (hbc : b ≤ c) : a ≤ c := by
  obtain ⟨r, s, ha, hb, hrs⟩ := (le_iff_rank a b).mp hab
  obtain ⟨s', t, hb', hc, hst⟩ := (le_iff_rank b c).mp hbc
  obtain rfl : s = s' := Option.some.inj (hb.symm.trans hb')
  exact (le_iff_rank a c).mpr ⟨r, t, ha, hc, hrs.trans hst⟩

instance isTrans_le : IsTrans Float (· ≤ ·) := ⟨fun _ _ _ ↦ le_trans⟩

/-- What is compared with something is a number. -/
theorem not_isNaN_of_le {x y : Float} (h : x ≤ y) : x.isNaN = false := by
  obtain ⟨r, s, hr, -, -⟩ := (le_iff_rank x y).mp h
  show x.toModel.unpack.isNaN = false
  cases u : x.toModel.unpack with
  | notANumber => rw [u] at hr; cases hr
  | _ => rfl

theorem compare_swap (a b : UnpackedFloat) : b.compare a = (a.compare b).map Ordering.swap := by
  rcases a with ⟨_ | _⟩ | _ | ⟨_ | _⟩ | ⟨_ | _⟩ <;>
    rcases b with ⟨_ | _⟩ | _ | ⟨_ | _⟩ | ⟨_ | _⟩ <;>
    dsimp only [UnpackedFloat.compare] <;>
    simp [Ordering.swap_then, ← Std.OrientedOrd.eq_swap] <;> rfl

theorem not_lt_of_le {x y : Float} (h : x ≤ y) : ¬y < x := by
  intro less
  have le : x.toModel.unpack.le y.toModel.unpack = true := of_decide_eq_true h
  have lt : y.toModel.unpack.lt x.toModel.unpack = true := of_decide_eq_true less
  rw [UnpackedFloat.lt, compare_swap] at lt
  rw [UnpackedFloat.le] at le
  cases o : x.toModel.unpack.compare y.toModel.unpack with
  | none => rw [o] at le; cases le
  | some o' => rw [o] at le lt; cases o' <;> cases le <;> cases lt

/-! ## Any two numbers

Two numbers can always be compared, so exactly one of less, equal and greater is the case.  Equality
here is that of numbers, for which the two zeros are the same, and not that of bits. -/

/-- A number with a plus sign. -/
def IsNonneg : UnpackedFloat → Prop
  | .infinity s | .zero s | .finite s _ _ _ => s = .positive
  | .notANumber => False

theorem IsNonneg.dite {c : Prop} [Decidable c] {t : c → UnpackedFloat} {e : ¬c → UnpackedFloat}
    (ht : ∀ h, IsNonneg (t h)) (he : ∀ h, IsNonneg (e h)) :
    IsNonneg (if h : c then t h else e h) := by
  by_cases h : c
  · rw [dif_pos h]
    exact ht h
  · rw [dif_neg h]
    exact he h

theorem isNonneg_roundWithAccuracy (spec : Format) (m : Nat) (e : Int) (acc : Accuracy) :
    IsNonneg (roundWithAccuracy spec .positive m e acc) := by
  rw [roundWithAccuracy]
  exact .dite (fun _ ↦ rfl) (fun _ ↦ rfl)

theorem isNonneg_normalize (spec : Format) {m : Int} (h : 0 ≤ m) (e : Int) :
    IsNonneg (UnpackedFloat.normalize spec m e .positive) := by
  rw [UnpackedFloat.normalize]
  split
  · rename_i negative
    rw [Std.compare_eq_lt] at negative
    omega
  · rfl
  · exact isNonneg_roundWithAccuracy ..

theorem isNonneg_ofNat (spec : Format) (n : Nat) : IsNonneg (UnpackedFloat.ofNat spec n) :=
  isNonneg_normalize spec (Int.natCast_nonneg n) 0

/-- The sum of two numbers that are at least zero. -/
theorem IsNonneg.add (spec : Format) {a b : UnpackedFloat} (ha : IsNonneg a) (hb : IsNonneg b) :
    IsNonneg (UnpackedFloat.add spec a b) := by
  cases a with
  | notANumber => cases ha
  | infinity s => cases ha; cases b <;> cases hb <;> rfl
  | zero s => cases ha; cases b <;> cases hb <;> rfl
  | finite s m e hm =>
    cases ha
    cases b with
    | finite t n f hn =>
      cases hb
      exact isNonneg_normalize spec (Int.add_nonneg (Int.natCast_nonneg _) (Int.natCast_nonneg _)) _
    | _ => cases hb <;> rfl

/-- The quotient of a number that is at least zero by a positive one. -/
theorem IsNonneg.div (spec : Format) {a : UnpackedFloat} (ha : IsNonneg a) {n : Nat} {f : Int}
    (hn : 0 < n) : IsNonneg (UnpackedFloat.div spec a (.finite .positive n f hn)) := by
  cases a with
  | notANumber => cases ha
  | infinity s | zero s => cases ha; rfl
  | finite s m e hm => cases ha; exact isNonneg_roundWithAccuracy ..

/-! ## Numbers as they are stored

Between two operations a number is put into 64 bits and taken out again.  The sign is the first of
them.  What could go wrong is the exponent: if it were the last one, the number would be taken for
an infinity or for no number at all, and that is excluded before a number is stored. -/

/-- The sign is the first bit. -/
theorem toNat_unpackSign {spec : Format} (b : BitVec spec.numBits) : (unpackSign b).toNat =
    b.toNat >>> (spec.mantissaBitsWithoutImplicit + spec.exponentBits) % 2 := by
  show (BitVec.cast _ (BitVec.extractLsb _ _ b)).toNat = _
  rw [BitVec.toNat_cast, BitVec.extractLsb_toNat, Nat.sub_self]

theorem unpackSign_packComponents_positive {spec : Format} {e : BitVec spec.exponentBits}
    {m : BitVec spec.mantissaBitsWithoutImplicit} :
    unpackSign (packComponents spec .positive e m) = 0#1 := by
  refine BitVec.eq_of_toNat_eq ((toNat_unpackSign _).trans ?_)
  have stored : (packComponents spec .positive e m).toNat = (e ++ m).toNat := by
    show (0#1 ++ e ++ m).toNat = _
    simp
  have small : (e ++ m).toNat < 2 ^ (spec.mantissaBitsWithoutImplicit + spec.exponentBits) :=
    Nat.lt_of_lt_of_eq (e ++ m).isLt (congrArg (2 ^ ·) (Nat.add_comm _ _))
  rw [stored, Nat.shiftRight_eq_div_pow, Nat.div_eq_of_lt small]
  rfl

/-- What is stored with a plus sign, and is a number. -/
theorem isNonneg_unpack {spec : Format} {b : BitVec spec.numBits} (sign : unpackSign b = 0#1)
    (number : unpackExponent b = -1#_ → unpackMantissa b = 0#_) :
    IsNonneg (UnpackedFloat.unpack spec b) := by
  delta UnpackedFloat.unpack
  dsimp only
  rw [sign]
  refine iteInduction (fun last ↦ ?_) fun _ ↦ iteInduction (fun _ ↦ ?_) fun _ ↦ rfl
  · rw [if_pos (number last)]
    rfl
  · exact .dite (fun _ ↦ rfl) (fun _ ↦ rfl)

/-- The exponent of a normal number leaves out the last one. -/
theorem ofNat_ne_allOnes {w n : Nat} (h : ¬Nat.pow 2 w ≤ n + 1) : BitVec.ofNat w n ≠ -1#w := by
  intro last
  rw [Nat.pow_eq] at h
  have same := congrArg BitVec.toNat last
  rw [BitVec.neg_one_eq_allOnes, BitVec.toNat_ofNat, BitVec.toNat_allOnes,
    Nat.mod_eq_of_lt (by omega)] at same
  omega

/-- A number that is at least zero is stored as such. -/
theorem isNonneg_unpack_pack (spec : Format) {u : UnpackedFloat} (h : IsNonneg u) :
    IsNonneg (UnpackedFloat.unpack spec (UnpackedFloat.pack spec u)) := by
  cases u with
  | notANumber => cases h
  | infinity s | zero s =>
    cases h
    exact isNonneg_unpack unpackSign_packComponents_positive fun _ ↦ unpackMantissa_packComponents
  | finite s m e hm =>
    cases h
    delta UnpackedFloat.pack
    dsimp only
    split
    · exact isNonneg_unpack unpackSign_packComponents_positive fun _ ↦ unpackMantissa_packComponents
    split
    · rename_i small _
      refine isNonneg_unpack unpackSign_packComponents_positive fun last ↦ ?_
      rw [unpackExponent_packComponents] at last
      exact absurd last (ofNat_ne_allOnes small)
    · refine isNonneg_unpack unpackSign_packComponents_positive fun last ↦ ?_
      rw [unpackExponent_packComponents] at last
      exact absurd last
        (ofNat_ne_allOnes (Nat.not_le.mpr (Nat.one_lt_two_pow (Nat.ne_of_gt spec.he))))

/-- A double that is at least zero. -/
def Nonneg (x : Float) : Prop := IsNonneg x.toModel.unpack

theorem nonneg_toFloat (n : UInt64) : Nonneg n.toFloat :=
  isNonneg_unpack_pack _ (isNonneg_ofNat _ n.toNat)

theorem Nonneg.add {x y : Float} (hx : Nonneg x) (hy : Nonneg y) : Nonneg (x + y) :=
  isNonneg_unpack_pack _ (IsNonneg.add _ hx hy)

theorem Nonneg.div {x y : Float} (hx : Nonneg x) {n : Nat} {f : Int} {hn : 0 < n}
    (hy : y.toModel.unpack = .finite .positive n f hn) : Nonneg (x / y) := by
  have quotient := IsNonneg.div Format.binary64 hx hn (f := f)
  rw [← hy] at quotient
  exact isNonneg_unpack_pack _ quotient

/-! ## Infinity

Whether the bound of a bucket is infinite is asked of the text-independent parts of a double
(`FloatParts`), and the comparison is one of unpacked numbers.  `unpack_of_infinite` joins the
two. -/

/-- Infinity is the last of the numbers. -/
theorem IsNonneg.le_infinity {a : UnpackedFloat} (h : IsNonneg a) :
    a.le (.infinity .positive) = true := by
  cases a with
  | notANumber => cases h
  | infinity s | finite s m e hm => cases h; rfl
  | zero s => rfl

theorem unpackExponent_eq (b : BitVec Format.binary64.numBits) :
    (unpackExponent b).toNat = b.toNat / Nat.pow 2 52 % 2048 := by
  simp [unpackExponent, BitVec.extractLsb_toNat, Nat.shiftRight_eq_div_pow]

theorem unpackSign_eq (b : BitVec Format.binary64.numBits) :
    (unpackSign b).toNat = b.toNat / Nat.pow 2 63 % 2 := by
  rw [toNat_unpackSign, Nat.shiftRight_eq_div_pow]
  rfl

/-- What is shown as infinity is the last of the numbers. -/
theorem unpack_of_infinite {x : Float} (h : FloatParts.ofFloat x = .infinite false) :
    x.toModel.unpack = .infinity .positive := by
  rw [FloatParts.ofFloat] at h
  split at h
  · cases h
  rename_i number
  dsimp only at h
  split at h
  · rename_i last
    have below : ¬Nat.pow 2 63 ≤ x.toBits.toNat := of_decide_eq_false (FloatParts.infinite.inj h)
    have exponent : @unpackExponent Format.binary64 x.toModel.toBits.toBitVec = -1#_ :=
      BitVec.eq_of_toNat_eq ((unpackExponent_eq _).trans last)
    have sign : @unpackSign Format.binary64 x.toModel.toBits.toBitVec = 0#1 := by
      refine BitVec.eq_of_toNat_eq ((unpackSign_eq _).trans ?_)
      exact congrArg (· % 2) (Nat.div_eq_of_lt (Nat.not_le.mp below))
    have parts : x.toModel.unpack = if @unpackMantissa Format.binary64
        x.toModel.toBits.toBitVec = 0#_ then .infinity .positive else .notANumber := by
      rw [Float.Model.unpack]
      delta UnpackedFloat.unpack
      dsimp only
      rw [sign, if_pos exponent]
      rfl
    split at parts
    · exact parts
    · exact absurd (congrArg UnpackedFloat.isNaN parts) number
  · split at h
    · split at h <;> cases h
    · cases h

/-- A number that is at least zero is at most infinity. -/
theorem Nonneg.le_infinite {x y : Float} (hx : Nonneg x)
    (hy : FloatParts.ofFloat y = .infinite false) : x ≤ y := by
  have le := IsNonneg.le_infinity hx
  rw [← unpack_of_infinite hy] at le
  exact decide_eq_true le

end Double

/-- A duration is at least zero. -/
theorem Duration.nonneg_toFloat (d : Duration) : Double.Nonneg d.toFloat := by
  have billion : (1000000000.0 : Float).toModel.unpack =
      .finite .positive 8388608000000000 (-23) (by decide) := rfl
  exact (Double.nonneg_toFloat _).add ((Double.nonneg_toFloat _).div billion)

end MetricsAgent
