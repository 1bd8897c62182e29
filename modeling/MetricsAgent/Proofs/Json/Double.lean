import MetricsAgent.Proofs.Double.Shortest

/-!
# What the text of a double stands for

The literal that is written for a finite double stands for a number that rounds to this double and
to no other one: `Json.roundedFrom_ofFloat`.  So no other double has its text (`Json.ofFloat_inj`).

The reader of doubles rounds more than once on its way and does not always find the nearest one
(`MetricsAgent.Json.Basic`).  What is shown here does not depend on it: it is about the text, and
about what its digits mean as a rational number.  Any reader that is correctly rounded gets the
double back.
-/

set_option autoImplicit false

namespace MetricsAgent

namespace Json

/-- The number that a literal stands for, but for its sign. -/
def NumberParts.value (p : NumberParts) : ℚ :=
  ofDigits (p.whole ++ p.fraction) * 10 ^ (p.exponent - p.fraction.length)

/-- A literal that stands for a number, with a sign in front or not. -/
def StandsFor (cs : List Char) (q : ℚ) : Prop :=
  ∀ negative, ∃ p, NumberParts.parse? (NumberText.signed negative cs) = some p ∧
    p.negative = negative ∧ p.value = q

theorem StandsFor.congr {cs cs' : List Char} {q q' : ℚ} (h : StandsFor cs q) (text : cs = cs')
    (value : q = q') : StandsFor cs' q' :=
  text ▸ value ▸ h

/-! ## The parts of a literal

A literal is a whole part, a fraction and a power, and `NumberParts.value` is the rational number
that they stand for. -/

theorem ofDigits_values (ds : List Char) : ofDigits (values ds) = Nat.ofDigitChars 10 ds 0 := by
  rw [ofDigits, values, List.foldl_map]
  rfl

/-- The power of ten at the end of a literal. -/
inductive IsPowerOf : Int → List Char → Prop where
  | absent : IsPowerOf 0 []
  | power (e : Int) :
    IsPowerOf e ('e' :: (if 0 ≤ e then '+' else '-') :: Nat.toDigits 10 e.natAbs)

theorem IsPowerOf.isPower {e : Int} {cs : List Char} (h : IsPowerOf e cs) : IsPower cs := by
  cases h with
  | absent => exact .absent
  | power => exact .power (by split <;> simp) (areDigits_toDigits _)

theorem exponent?_signed (e : Int) :
    exponent? ((if 0 ≤ e then '+' else '-') :: Nat.toDigits 10 e.natAbs) = some e := by
  have ds := areDigits_toDigits e.natAbs
  obtain ⟨v, vs, hv⟩ := List.exists_cons_of_ne_nil ds.values_ne_nil
  have read : ofDigits (v :: vs) = e.natAbs := hv ▸ ofDigits_values_toDigits _
  by_cases sign : 0 ≤ e
  · rw [if_pos sign]
    simp only [exponent?, digits_self ds.digits, hv]
    show some (ofDigits (v :: vs) : Int) = some e
    rw [read, Int.natAbs_of_nonneg sign]
  · rw [if_neg sign]
    simp only [exponent?, digits_self ds.digits, hv]
    show some (-(ofDigits (v :: vs) : Int)) = some e
    rw [read, Int.ofNat_natAbs_of_nonpos (by omega), Int.neg_neg]

section Parts

variable {ds fs power : List Char} {e : Int} (hd : AreDigits ds)
  (lead : ds.length = 1 ∨ ds.head? ≠ some '0') (hp : IsPowerOf e power)

include hd lead hp

theorem standsFor_whole : StandsFor (ds ++ power) (Nat.ofDigitChars 10 ds 0 * 10 ^ e) := by
  intro negative
  have tail :
      ∃ integral, tail? negative (values ds) power = some
      ⟨negative, values ds, [], e, integral⟩ := by
    cases hp with
    | absent => exact ⟨true, rfl⟩
    | power => exact ⟨false, by simp [tail?, exponent?_signed]⟩
  obtain ⟨integral, tail⟩ := tail
  refine ⟨_, (parse?_signed hd lead hp.isPower.stop negative).trans tail, rfl, ?_⟩
  simp [NumberParts.value, ofDigits_values]

theorem standsFor_fraction (hf : AreDigits fs) :
    StandsFor (ds ++ '.' :: fs ++ power)
      (Nat.ofDigitChars 10 (ds ++ fs) 0 * 10 ^ (e - fs.length)) := by
  intro negative
  have tail : tail? negative (values ds) ('.' :: fs ++ power) =
      some ⟨negative, values ds, values fs, e, false⟩ := by
    obtain ⟨v, vs, hv⟩ := List.exists_cons_of_ne_nil hf.values_ne_nil
    simp only [tail?, List.cons_append, digits_append hf.digits hp.isPower.stop, hv]
    cases hp with
    | absent => rfl
    | power => simp [exponent?_signed]
  have stop : ∀ c ∈ ('.' :: fs ++ power).head?, digitValue? c = none := by
    rintro c ⟨⟩
    rfl
  rw [List.append_assoc]
  refine ⟨_, (parse?_signed hd lead stop negative).trans tail, rfl, ?_⟩
  have append : values ds ++ values fs = values (ds ++ fs) := List.map_append.symm
  simp only [NumberParts.value, append, ofDigits_values]
  simp [values]

end Parts

/-! ## The layouts

The digits of a decimal may be written with a point in any place, with zeros before or behind them,
or with a power.  There is one lemma for each layout, and all of them stand for the same number. -/

/-- Zeros in front do not count. -/
theorem ofDigitChars_zeros (n : Nat) (d : Decimal) :
    Nat.ofDigitChars 10 (List.replicate n '0' ++ d.digitChars) 0 = d.digits := by
  rw [Nat.ofDigitChars_append, Nat.ofDigitChars_replicate_zero, Nat.mul_zero, Decimal.digitChars,
    Nat.ofDigitChars_ten_toDigits]

theorem ofDigitChars_digitChars (d : Decimal) : Nat.ofDigitChars 10 d.digitChars 0 = d.digits :=
  ofDigitChars_zeros 0 d

theorem standsFor_positional {d : Decimal} (pos : 0 < d.digits) :
    StandsFor (d.positional ['.', '0']) d.value := by
  have digits : AreDigits d.digitChars := areDigits_toDigits d.digits
  have front : d.digitChars.head? ≠ some '0' := head?_toDigits pos
  rw [Decimal.positional]
  split
  · -- No digit stands behind the point: zeros fill up to it.
    rename_i nonneg
    obtain ⟨n, hn⟩ := Int.eq_ofNat_of_zero_le nonneg
    -- The point stands among or before the digits.
    refine (standsFor_fraction (digits.append_zeros d.exponent.toNat)
      (.inr (by rw [digits.head?_append]; exact front)) .absent areDigits_zero).congr (by simp) ?_
    rw [List.append_assoc, ← List.replicate_succ', Nat.ofDigitChars_append, ofDigitChars_digitChars,
      Nat.ofDigitChars_replicate_zero, Decimal.value, hn]
    push_cast
    rw [zpow_natCast, Int.toNat_natCast, pow_succ]
    norm_num
    ring
  · have power : (10 : ℚ) ^ (0 - ((-d.exponent).toNat : Int)) = 10 ^ d.exponent := by
      congr 1
      omega
    dsimp only
    split
    · refine (standsFor_fraction
        (digits.take (n := d.digitChars.length - (-d.exponent).toNat) (by omega))
        (.inr (by rw [List.head?_take, if_neg (by omega)]; exact front)) .absent
        (digits.drop (n := d.digitChars.length - (-d.exponent).toNat) (by omega))).congr
          (by simp) ?_
      rw [List.take_append_drop, ofDigitChars_digitChars, List.length_drop,
        Nat.sub_sub_self (by omega), power]
      rfl
    · refine (standsFor_fraction areDigits_zero (.inl rfl) .absent
        (digits.zeros_append ((-d.exponent).toNat - d.digitChars.length))).congr (by simp) ?_
      rw [← List.append_assoc, List.singleton_append, ← List.replicate_succ, ofDigitChars_zeros,
        List.length_append, List.length_replicate, Nat.sub_add_cancel (by omega), power]
      rfl

theorem standsFor_scientific (d : Decimal) : StandsFor d.scientific d.value := by
  have digits : AreDigits d.digitChars := areDigits_toDigits d.digits
  have power := IsPowerOf.power d.leading
  have value := ofDigitChars_digitChars d
  have leading : d.leading = d.digitChars.length + d.exponent - 1 := rfl
  rw [Decimal.scientific]
  rcases e : d.digitChars with _ | ⟨c, _ | ⟨c', cs⟩⟩
  · exact absurd e digits.nonempty
  · rw [e] at digits value leading
    have exponent : d.leading = d.exponent := by simp [leading]
    refine (standsFor_whole digits (.inl rfl) power).congr rfl ?_
    rw [value, exponent, Decimal.value]
  · rw [e] at digits value leading
    have first : AreDigits [c] := digits.take (n := 1) (by decide)
    have fraction : AreDigits (c' :: cs) := digits.drop (n := 1) (by simp)
    have exponent : d.leading - (c' :: cs).length = d.exponent := by
      rw [leading]
      simp only [List.length_cons]
      omega
    refine (standsFor_fraction first (.inl rfl) power fraction).congr rfl ?_
    rw [exponent, Decimal.value]
    exact congrArg (fun n : Nat ↦ (n : ℚ) * 10 ^ d.exponent) value

/-! ## Doubles

The digits are those of `Binary.shortest`, whose value rounds to the double, and to no other
(`MetricsAgent.Proofs.Double.Shortest`). -/

/-- The sign of a number, and the number but for its sign. -/
def number? : Json → Option (Bool × ℚ)
  | number literal => (NumberParts.parse? literal.toList).map fun p ↦ (p.negative, p.value)
  | _ => none

theorem StandsFor.number? {cs : List Char} {q : ℚ} (h : StandsFor cs q) (negative : Bool) :
    number? (number (String.ofList (NumberText.signed negative cs))) = some (negative, q) := by
  obtain ⟨p, parse, sign, value⟩ := h negative
  rw [Json.number?, String.toList_ofList, parse, Option.map_some, sign, value]

theorem standsFor_magnitude {d : Decimal} (pos : 0 < d.digits) :
    StandsFor (numberText.magnitude d) d.value := by
  rw [NumberText.magnitude]
  split
  · exact standsFor_positional pos
  · exact standsFor_scientific d

/-- **What is written for a finite double rounds to it.** -/
theorem roundedFrom_ofFloat {x : Float} (h : (FloatParts.ofFloat x).isFinite = true) :
    ∃ negative q, (ofFloat x).number? = some (negative, q) ∧
      FloatParts.RoundedFrom negative q (FloatParts.ofFloat x) := by
  rw [(ofFloat_of_isFinite h).1, NumberText.render]
  cases e : FloatParts.ofFloat x with
  | nan | infinite => rw [e] at h; cases h
  | zero negative =>
    have stands : StandsFor ['0', '.', '0'] 0 :=
      (standsFor_fraction areDigits_zero (.inl rfl) .absent areDigits_zero).congr rfl (by
        rw [Nat.ofDigitChars_append]
        simp [Nat.ofDigitChars])
    exact ⟨negative, 0, stands.number? negative, rfl, rfl⟩
  | finite negative b =>
    have pos := FloatParts.mantissa_pos e
    exact ⟨negative, b.shortest.value,
      (standsFor_magnitude (Binary.shortest_digits_pos pos)).number? negative, rfl,
      b.rounds_shortest pos⟩

/-- **A finite double is told by its text.** -/
theorem ofFloat_inj {x y : Float} (hx : (FloatParts.ofFloat x).isFinite = true)
    (h : ofFloat x = ofFloat y) : x = y := by
  have hy : (FloatParts.ofFloat y).isFinite = true := by
    cases finite : (FloatParts.ofFloat y).isFinite with
    | true => rfl
    | false =>
      rw [(ofFloat_of_isFinite hx).1, ofFloat_of_not_isFinite finite] at h
      cases h
  obtain ⟨negative, q, number, rounded⟩ := roundedFrom_ofFloat hx
  obtain ⟨negative', q', number', rounded'⟩ := roundedFrom_ofFloat hy
  rw [h, number'] at number
  cases number
  exact FloatParts.eq_of_roundedFrom rounded rounded'

end Json

end MetricsAgent
