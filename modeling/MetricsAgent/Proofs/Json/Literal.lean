import MetricsAgent.Json.Parse
import Mathlib.Data.List.Basic
import Mathlib.Tactic.IntervalCases

/-!
# Number literals

`Json.IsLiteral` is the grammar of a number: a sign, digits that do not start with a needless zero,
a fraction, a power.  What is written for a finite double, for an integer and for a word is a
literal, every literal is read as a number, and what is read for an integer or a word is that very
number.

* `Json.ofFloat_of_isFinite` and its neighbours say that what is written is a literal.
* `Json.IsLiteral.parse?_isSome` says that a literal can be taken apart.
* `Json.toUInt64?_ofUInt64` and `Json.toInt64?_ofInt` say that words are read back exactly.

The grammar is stated on its own, as an inductive, and not as what the reader accepts.  Both
directions can then be read off it, and the codec of values only has to know that numbers are
literals.
-/

set_option autoImplicit false

namespace MetricsAgent

/-! ## The fewest digits are never zero

A literal must not start with a needless zero, so the digits of a positive double have to start with
another one.  They do, because zero lies in the rounding interval of no positive double. -/

namespace Binary

variable {b : Binary}

theorem low_pos (h : 0 < b.mantissa) : 0 < b.low := by
  rw [low]
  split <;> omega

theorem quarter_pos (b : Binary) (e : Int) : 0 < (b.grid e).quarter :=
  Nat.mul_pos (Nat.pow_pos Nat.two_pos) (Nat.pow_pos (by decide))

/-- Nothing that rounds to a positive number is zero. -/
theorem pos_of_readsBack {e : Int} {c : Nat} (h : 0 < b.mantissa)
    (back : b.readsBack (b.grid e) c = true) : 0 < c := by
  have lo : 0 < b.low * (b.grid e).quarter := Nat.mul_pos (low_pos h) (b.quarter_pos e)
  rcases Nat.eq_zero_or_pos c with rfl | pos
  · rw [readsBack] at back
    split at back <;>
      simp only [Nat.zero_mul, Bool.and_eq_true, decide_eq_true_eq] at back <;> omega
  · exact pos

theorem pos_of_nearestOn {e : Int} {c : Nat} (h : 0 < b.mantissa) (near : b.nearestOn e = some c) :
    0 < c := by
  rw [nearestOn] at near
  split at near
  · split at near <;> cases near
    · exact pos_of_readsBack h ‹_›
    · exact Nat.succ_pos _
  · cases near
    exact pos_of_readsBack h ‹_›
  · cases near
    exact Nat.succ_pos _
  · cases near

theorem exact_digits_pos (h : 0 < b.mantissa) : 0 < b.exact.digits := by
  rw [exact]
  split
  · exact Nat.mul_pos h (Nat.pow_pos Nat.two_pos)
  · exact Nat.mul_pos h (Nat.pow_pos (by decide))

theorem search_digits_pos (h : 0 < b.mantissa) (n : Nat) (e : Int) : 0 < (b.search n e).digits := by
  induction n generalizing e with
  | zero => exact exact_digits_pos h
  | succ n ih =>
    rw [search]
    split
    · exact pos_of_nearestOn h ‹_›
    · exact ih _

theorem stripZeros_digits_pos (n : Nat) {d : Decimal} (h : 0 < d.digits) :
    0 < (Decimal.stripZeros n d).digits := by
  induction n generalizing d with
  | zero => exact h
  | succ n ih =>
    rw [Decimal.stripZeros]
    split
    · refine ih (d := ⟨d.digits / 10, d.exponent + 1⟩) ?_
      show 0 < d.digits / 10
      omega
    · exact h

theorem shortest_digits_pos (h : 0 < b.mantissa) : 0 < b.shortest.digits :=
  stripZeros_digits_pos _ (search_digits_pos h _ _)

end Binary

/-- Whether a double is a number. -/
def FloatParts.isFinite : FloatParts → Bool
  | zero _ | finite _ _ => true
  | _ => false

/-- A double that is not zero has a mantissa. -/
theorem FloatParts.mantissa_pos {x : Float} {negative : Bool} {b : Binary}
    (h : FloatParts.ofFloat x = .finite negative b) : 0 < b.mantissa := by
  rw [FloatParts.ofFloat] at h
  split at h
  · cases h
  · dsimp only at h
    split at h
    · cases h
    · split at h
      · split at h
        · cases h
        · rename_i fraction
          cases h
          exact Nat.pos_of_ne_zero fraction
      · cases h
        exact Nat.add_pos_left (Nat.pow_pos Nat.two_pos) _

namespace Json

/-! ## Digits

The digits of a number are characters from `0` to `9`, at least one, and zero is the only number
whose digits start with a zero. -/

/-- All characters are digits, and there is one. -/
structure AreDigits (ds : List Char) : Prop where
  nonempty : ds ≠ []
  digits : ∀ c ∈ ds, c.isDigit = true

theorem digitValue?_of_isDigit {c : Char} (h : c.isDigit = true) :
    digitValue? c = some (c.toNat - '0'.toNat) := by
  rw [Char.isDigit, Bool.and_eq_true, decide_eq_true_eq, decide_eq_true_eq] at h
  exact if_pos h

theorem isNumberChar_of_isDigit {c : Char} (h : c.isDigit = true) : isNumberChar c = true := by
  simp [isNumberChar, digitValue?_of_isDigit h]

theorem areDigits_toDigits (n : Nat) : AreDigits (Nat.toDigits 10 n) :=
  ⟨Nat.toDigits_ne_nil, fun _ ↦ Nat.isDigit_of_mem_toDigits (by decide) (by decide)⟩

theorem AreDigits.append_zeros {ds : List Char} (h : AreDigits ds) (n : Nat) :
    AreDigits (ds ++ List.replicate n '0') := by
  refine ⟨by simp [h.nonempty], fun c hc ↦ ?_⟩
  rcases List.mem_append.mp hc with hc | hc
  · exact h.digits c hc
  · rw [List.eq_of_mem_replicate hc]
    rfl

theorem AreDigits.zeros_append {ds : List Char} (h : AreDigits ds) (n : Nat) :
    AreDigits (List.replicate n '0' ++ ds) := by
  refine ⟨by simp [h.nonempty], fun c hc ↦ ?_⟩
  rcases List.mem_append.mp hc with hc | hc
  · rw [List.eq_of_mem_replicate hc]
    rfl
  · exact h.digits c hc

theorem AreDigits.take {ds : List Char} (h : AreDigits ds) {n : Nat} (pos : 0 < n) :
    AreDigits (ds.take n) := by
  refine ⟨?_, fun c hc ↦ h.digits c (List.mem_of_mem_take hc)⟩
  rw [Ne, List.take_eq_nil_iff, not_or]
  exact ⟨Nat.pos_iff_ne_zero.mp pos, h.nonempty⟩

theorem AreDigits.drop {ds : List Char} (h : AreDigits ds) {n : Nat} (lt : n < ds.length) :
    AreDigits (ds.drop n) := by
  refine ⟨?_, fun c hc ↦ h.digits c (List.mem_of_mem_drop hc)⟩
  rw [Ne, List.drop_eq_nil_iff]
  omega

theorem AreDigits.head?_append {ds : List Char} (h : AreDigits ds) (rest : List Char) :
    (ds ++ rest).head? = ds.head? := by
  obtain ⟨c, cs, rfl⟩ := List.exists_cons_of_ne_nil h.nonempty
  rfl

theorem areDigits_zero : AreDigits ['0'] := ⟨by simp, by simp [Char.isDigit]⟩

/-- A positive number does not start with zero. -/
theorem head?_toDigits {n : Nat} (h : 0 < n) : (Nat.toDigits 10 n).head? ≠ some '0' := by
  induction n using Nat.strongRecOn with
  | ind n ih =>
    rcases Nat.lt_or_ge n 10 with small | large
    · rw [Nat.toDigits_of_lt_base small]
      interval_cases n <;> decide
    · have front := ih (n / 10) (by omega) (by omega)
      obtain ⟨c, cs, e⟩ := List.exists_cons_of_ne_nil (Nat.toDigits_ne_nil (n := n / 10) (b := 10))
      rw [Nat.toDigits_of_base_le (by decide) large, e]
      rwa [e] at front

/-- Zero is one digit, and no other number starts with it. -/
theorem lead_toDigits (n : Nat) :
    (Nat.toDigits 10 n).length = 1 ∨ (Nat.toDigits 10 n).head? ≠ some '0' := by
  rcases Nat.eq_zero_or_pos n with rfl | pos
  · exact .inl rfl
  · exact .inr (head?_toDigits pos)

/-- The values of digits. -/
def values (ds : List Char) : List Nat := ds.map fun c ↦ c.toNat - '0'.toNat

theorem AreDigits.values_ne_nil {ds : List Char} (h : AreDigits ds) : values ds ≠ [] := by
  simp [values, h.nonempty]

theorem digits_append {ds rest : List Char} (h : ∀ c ∈ ds, c.isDigit = true)
    (stop : ∀ c ∈ rest.head?, digitValue? c = none) : digits (ds ++ rest) = (values ds, rest) := by
  have pos : ∀ c ∈ ds, (digitValue? c).isSome = true := fun c hc ↦ by
    rw [digitValue?_of_isDigit (h c hc)]
    rfl
  have front : rest.takeWhile (digitValue? · |>.isSome) = [] := by
    cases rest with
    | nil => rfl
    | cons c rest => exact List.takeWhile_cons_of_neg (by simp [stop c rfl])
  have back : rest.dropWhile (digitValue? · |>.isSome) = rest := by
    cases rest with
    | nil => rfl
    | cons c rest => exact List.dropWhile_cons_of_neg (by simp [stop c rfl])
  have read : ds.filterMap digitValue? = values ds := by
    rw [values, ← List.filterMap_eq_map]
    exact List.filterMap_congr fun c hc ↦ digitValue?_of_isDigit (h c hc)
  rw [digits, List.takeWhile_append_of_pos pos, List.dropWhile_append_of_pos pos, front, back,
    List.append_nil, read]

theorem digits_self {ds : List Char} (h : ∀ c ∈ ds, c.isDigit = true) :
    digits ds = (values ds, []) := by
  have nothing : ∀ c ∈ ([] : List Char).head?, digitValue? c = none := by simp
  simpa using digits_append h nothing

theorem ofDigits_values_toDigits (n : Nat) : ofDigits (values (Nat.toDigits 10 n)) = n := by
  rw [ofDigits, values, List.foldl_map]
  exact Nat.ofDigitChars_ten_toDigits

/-! ## The grammar of a number

The lexer takes characters as long as they may belong to a number.  All characters of a literal may,
so that a literal is one token. -/

/-- A power at the end of a literal, or none. -/
inductive IsPower : List Char → Prop where
  | absent : IsPower []
  | power {sign : Char} {ds : List Char} (sign_eq : sign = '+' ∨ sign = '-')
    (digits : AreDigits ds) :
    IsPower ('e' :: sign :: ds)

/-- What follows the whole part of a literal. -/
inductive IsTail : List Char → Prop where
  | bare {power : List Char} (h : IsPower power) : IsTail power
  | fraction {ds power : List Char} (digits : AreDigits ds) (h : IsPower power) :
    IsTail ('.' :: ds ++ power)

/-- A number. A whole part of several digits does not start with zero. -/
inductive IsLiteral : List Char → Prop where
  | literal (negative : Bool) {ds rest : List Char} (digits : AreDigits ds)
    (lead : ds.length = 1 ∨ ds.head? ≠ some '0') (tail : IsTail rest) :
    IsLiteral (NumberText.signed negative (ds ++ rest))

theorem IsPower.stop {cs : List Char} (h : IsPower cs) : ∀ c ∈ cs.head?, digitValue? c = none := by
  cases h with
  | absent => simp
  | power => simp [digitValue?]

theorem IsTail.stop {cs : List Char} (h : IsTail cs) : ∀ c ∈ cs.head?, digitValue? c = none := by
  cases h with
  | bare h => exact h.stop
  | fraction => simp [digitValue?]

theorem isNumberChar_of_isPower {cs : List Char} (h : IsPower cs) :
    ∀ c ∈ cs, isNumberChar c = true := by
  cases h with
  | absent => simp
  | power sign digits =>
    simp only [List.mem_cons]
    rintro c (rfl | rfl | hc)
    · rfl
    · rcases sign with rfl | rfl <;> rfl
    · exact isNumberChar_of_isDigit (digits.digits c hc)

theorem isNumberChar_of_isTail {cs : List Char} (h : IsTail cs) :
    ∀ c ∈ cs, isNumberChar c = true := by
  cases h with
  | bare h => exact isNumberChar_of_isPower h
  | fraction digits h =>
    simp only [List.cons_append, List.mem_cons, List.mem_append]
    rintro c (rfl | hc | hc)
    · rfl
    · exact isNumberChar_of_isDigit (digits.digits c hc)
    · exact isNumberChar_of_isPower h c hc

theorem isNumberChar_of_isLiteral {cs : List Char} (h : IsLiteral cs) :
    ∀ c ∈ cs, isNumberChar c = true := by
  cases h with
  | @literal negative ds rest digits _ tail =>
    have unsigned : ∀ c ∈ ds ++ rest, isNumberChar c = true := fun c hc ↦
      (List.mem_append.mp hc).elim (fun hc ↦ isNumberChar_of_isDigit (digits.digits c hc))
        (isNumberChar_of_isTail tail c)
    cases negative with
    | false => exact unsigned
    | true => exact List.forall_mem_cons.mpr ⟨rfl, unsigned⟩

/-! ## Reading a literal

The reader goes through the parts in the order of the grammar, and each part ends where the next one
begins. -/

theorem exponent?_isSome {sign : Char} {ds : List Char} (sign_eq : sign = '+' ∨ sign = '-')
    (h : AreDigits ds) : (exponent? (sign :: ds)).isSome = true := by
  obtain ⟨v, vs, e⟩ := List.exists_cons_of_ne_nil h.values_ne_nil
  rcases sign_eq with rfl | rfl <;>
  · simp only [exponent?, digits_self h.digits, e]
    rfl

theorem tail?_isSome {cs : List Char} (h : IsTail cs) (negative : Bool) (whole : List Nat) :
    (tail? negative whole cs).isSome = true := by
  cases h with
  | bare h =>
    cases h with
    | absent => rfl
    | power sign digits => simpa [tail?] using exponent?_isSome sign digits
  | fraction digits h =>
    obtain ⟨v, vs, e⟩ := List.exists_cons_of_ne_nil digits.values_ne_nil
    simp only [tail?, List.cons_append, digits_append digits.digits h.stop, e]
    cases h with
    | absent => rfl
    | power sign digits => simpa using exponent?_isSome sign digits

/-- The whole part of a literal is read, and then the rest. -/
theorem parse?_signed {ds rest : List Char} (h : AreDigits ds)
    (lead : ds.length = 1 ∨ ds.head? ≠ some '0') (stop : ∀ c ∈ rest.head?, digitValue? c = none)
    (negative : Bool) : NumberParts.parse? (NumberText.signed negative (ds ++ rest)) =
      tail? negative (values ds) rest := by
  have read := digits_append h.digits stop
  obtain ⟨c, cs, rfl⟩ := List.exists_cons_of_ne_nil h.nonempty
  have digit := h.digits c List.mem_cons_self
  -- A whole part that starts with a zero has one digit.
  have unpadded (d : Nat) (ds : List Nat) : values (c :: cs) ≠ 0 :: d :: ds := by
    intro e
    obtain ⟨head, tail⟩ := List.cons.inj e
    have zero : c = '0' := by
      rw [Char.isDigit, Bool.and_eq_true, decide_eq_true_eq, decide_eq_true_eq] at digit
      have low : 48 ≤ c.toNat := UInt32.le_iff_toNat_le.mp digit.1
      have high : c.toNat - 48 = 0 := head
      rw [← Char.ofNat_toNat c, show c.toNat = 48 by omega]
    rcases lead with one | other
    · rw [List.length_eq_zero_iff.mp (Nat.succ.inj one)] at tail
      cases tail
    · exact absurd (congrArg some zero) other
  have sign : c ≠ '-' := by rintro rfl; cases digit
  rw [NumberParts.parse?.eq_def]
  cases negative
  case' true => rw [NumberText.signed, if_pos rfl]
  case' false =>
    rw [NumberText.signed, if_neg Bool.false_ne_true]
    split
    · rename_i e
      cases e
      exact absurd rfl sign
  all_goals
    simp only [read]
    split
    · rename_i e
      cases (Prod.mk.inj e).1
    · rename_i d ds _ e
      exact absurd (Prod.mk.inj e).1 (unpadded d ds)
    · rename_i e
      cases e
      rfl

theorem IsLiteral.parse?_isSome {cs : List Char} (h : IsLiteral cs) :
    (NumberParts.parse? cs).isSome = true := by
  cases h with
  | literal negative digits lead tail =>
    rw [parse?_signed digits lead tail.stop]
    exact tail?_isSome tail negative _

/-! ## What is written

The three layouts of a decimal and the two forms of an integer. -/

theorem isLiteral_toDigits (n : Nat) (negative : Bool) {rest : List Char} (tail : IsTail rest) :
    IsLiteral (NumberText.signed negative (Nat.toDigits 10 n ++ rest)) :=
  .literal negative (areDigits_toDigits n) (lead_toDigits n) tail

theorem isLiteral_positional {d : Decimal} (pos : 0 < d.digits) (negative : Bool) :
    IsLiteral (NumberText.signed negative (d.positional ['.', '0'])) := by
  have digits : AreDigits d.digitChars := areDigits_toDigits d.digits
  have front : d.digitChars.head? ≠ some '0' := head?_toDigits pos
  rw [Decimal.positional]
  split
  · refine .literal negative (digits.append_zeros _) (.inr ?_) (.fraction areDigits_zero .absent)
    rw [digits.head?_append]
    exact front
  · dsimp only
    split
    · have tail := IsTail.fraction
        (digits.drop (n := d.digitChars.length - (-d.exponent).toNat) (by omega)) .absent
      rw [List.append_nil] at tail
      refine .literal negative (digits.take (by omega)) (.inr ?_) tail
      rw [List.head?_take, if_neg (by omega)]
      exact front
    · have tail := IsTail.fraction
        (digits.zeros_append ((-d.exponent).toNat - d.digitChars.length)) .absent
      rw [List.append_nil] at tail
      simpa using IsLiteral.literal negative areDigits_zero (.inl rfl) tail

theorem isLiteral_scientific (d : Decimal) (negative : Bool) :
    IsLiteral (NumberText.signed negative d.scientific) := by
  have digits : AreDigits d.digitChars := areDigits_toDigits d.digits
  have power : IsPower
      ('e' :: (if 0 ≤ d.leading then '+' else '-') :: Nat.toDigits 10 d.leading.natAbs) :=
    .power (by split <;> simp) (areDigits_toDigits _)
  rw [Decimal.scientific]
  rcases e : d.digitChars with _ | ⟨c, _ | ⟨c', cs⟩⟩
  · exact absurd e digits.nonempty
  · rw [e] at digits
    exact .literal negative digits (.inl rfl) (.bare power)
  · rw [e] at digits
    have first : AreDigits [c] := ⟨by simp, by simpa using digits.digits c List.mem_cons_self⟩
    have fraction : AreDigits (c' :: cs) :=
      ⟨by simp, fun c hc ↦ digits.digits c (List.mem_cons_of_mem _ hc)⟩
    simpa using IsLiteral.literal negative first (.inl rfl) (.fraction fraction power)

/-- What is written for a finite double is a number. -/
theorem ofFloat_of_isFinite {x : Float} (h : (FloatParts.ofFloat x).isFinite = true) :
    ofFloat x = number (numberText.render x) ∧ IsLiteral (numberText.render x).toList := by
  rw [ofFloat, NumberText.render]
  cases e : FloatParts.ofFloat x with
  | nan => rw [e] at h; cases h
  | infinite negative => rw [e] at h; cases h
  | zero negative =>
    refine ⟨rfl, ?_⟩
    rw [String.toList_ofList]
    exact .literal negative areDigits_zero (.inl rfl) (.fraction areDigits_zero .absent)
  | finite negative b =>
    refine ⟨rfl, ?_⟩
    dsimp only
    rw [String.toList_ofList, NumberText.magnitude]
    split
    · exact isLiteral_positional (Binary.shortest_digits_pos (FloatParts.mantissa_pos e)) negative
    · exact isLiteral_scientific _ negative

theorem ofFloat_of_not_isFinite {x : Float} (h : (FloatParts.ofFloat x).isFinite = false) :
    ofFloat x = null := by
  rw [ofFloat]
  cases e : FloatParts.ofFloat x <;> rw [e] at h <;> first | rfl | cases h

theorem toList_toString_int (n : Int) :
    (toString n).toList = NumberText.signed (n < 0) (Nat.toDigits 10 n.natAbs) := by
  cases n with
  | ofNat n =>
    have negative : decide (Int.ofNat n < 0) = false := by simp
    rw [negative]
    exact Nat.toList_repr
  | negSucc n =>
    have negative : decide (Int.negSucc n < 0) = true := by simp [Int.negSucc_lt_zero]
    rw [negative]
    show ("-" ++ Nat.repr (n + 1)).toList = _
    rw [String.toList_append, Nat.toList_repr]
    rfl

theorem isLiteral_int (n : Int) : IsLiteral (toString n).toList := by
  rw [toList_toString_int, ← List.append_nil (Nat.toDigits 10 n.natAbs)]
  exact isLiteral_toDigits _ _ (.bare .absent)

theorem isLiteral_nat (n : Nat) : IsLiteral (toString n).toList := by
  have digits : (toString n).toList = Nat.toDigits 10 n := Nat.toList_repr
  rw [digits, ← List.append_nil (Nat.toDigits 10 n)]
  exact isLiteral_toDigits n false (.bare .absent)

/-! ## Integers read back

A word has at most twenty digits, and taking them into a significand loses none of them, so that the
number that is put together is the one that was written. -/

/-- An integer is taken apart into its sign and its digits. -/
theorem parse?_signed_toDigits (n : Nat) (negative : Bool) :
    NumberParts.parse? (NumberText.signed negative (Nat.toDigits 10 n)) =
      some ⟨negative, values (Nat.toDigits 10 n), [], 0, true⟩ := by
  have nothing : ∀ c ∈ ([] : List Char).head?, digitValue? c = none := by simp
  have read := parse?_signed (areDigits_toDigits n) (lead_toDigits n) nothing negative
  rw [List.append_nil] at read
  exact read

theorem toInt?_ofInt (n : Int) : (ofInt n).toInt? = some n := by
  rw [ofInt, toInt?, toList_toString_int, parse?_signed_toDigits]
  by_cases negative : n < 0
  · have some : n.natAbs ≠ 0 := by omega
    simp only [negative, decide_true, Option.bind_eq_bind, Option.bind_some,
      not_true_eq_false, if_false, if_true, ofDigits_values_toDigits, some]
    exact congrArg Option.some (by omega)
  · simp only [negative, decide_false, Option.bind_eq_bind, Option.bind_some,
      not_true_eq_false, if_false, ofDigits_values_toDigits, Bool.false_eq_true]
    exact congrArg Option.some (by omega)

theorem ofUInt64_eq (n : UInt64) : ofUInt64 n = ofInt n.toNat := rfl

/-- A signed word reads back. -/
theorem toInt64?_ofInt {n : Int} (low : -9223372036854775808 ≤ n) (high : n < 9223372036854775808) :
    (ofInt n).toInt64? = some n := by
  rw [toInt64?, toInt?_ofInt]
  exact if_pos ⟨low, high⟩

/-- An unsigned word reads back. -/
theorem toUInt64?_ofUInt64 (n : UInt64) : (ofUInt64 n).toUInt64? = some n := by
  have range : (0 : Int) ≤ n.toNat ∧ (n.toNat : Int) < UInt64.size :=
    ⟨Int.natCast_nonneg _, Int.ofNat_lt.mpr n.toNat_lt⟩
  rw [toUInt64?, ofUInt64_eq, toInt?_ofInt, Option.bind_eq_bind, Option.bind_some, if_pos range]
  exact congrArg some (by simp)

theorem le_foldl_digits (s : Nat) (ds : List Nat) : s ≤ ds.foldl (fun n d ↦ 10 * n + d) s := by
  induction ds generalizing s with
  | nil => exact Nat.le_refl s
  | cons d ds ih => exact Nat.le_trans (by omega) (ih (10 * s + d))

/-- Digits that fit are all taken. -/
theorem absorb_eq {s : Nat} {ds : List Nat}
    (fits : ds.foldl (fun n d ↦ 10 * n + d) s < UInt64.size) :
    absorb s ds = (ds.foldl (fun n d ↦ 10 * n + d) s, ds.length) := by
  induction ds generalizing s with
  | nil => rfl
  | cons d ds ih =>
    have room : 10 * s + d < UInt64.size := Nat.lt_of_le_of_lt (le_foldl_digits _ ds) fits
    rw [absorb, if_pos room, ih fits]
    rfl

/-- An unsigned word is in the range of doubles. -/
theorem toFloat?_ofUInt64_isSome (n : UInt64) : (ofUInt64 n).toFloat?.isSome = true := by
  have digits : (toString n.toNat).toList = NumberText.signed false (Nat.toDigits 10 n.toNat) :=
    Nat.toList_repr
  have fits : ofDigits (values (Nat.toDigits 10 n.toNat)) < UInt64.size := by
    rw [ofDigits_values_toDigits]
    exact n.toNat_lt
  rw [ofUInt64, toFloat?, digits, parse?_signed_toDigits, Option.bind_some, NumberParts.toFloat?]
  simp only [absorb_eq fits, Nat.sub_self, decide_true, Bool.and_true, if_true]
  rfl

end Json

end MetricsAgent
