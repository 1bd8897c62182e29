import MetricsAgent.Timestamp.Rfc3339
import MetricsAgent.Proofs.Json.Literal
import MetricsAgent.Proofs.Timestamp.Calendar

/-!
# Timestamps read back

`Timestamp.parse?` gives back the timestamp that `Timestamp.render` wrote, to the nanosecond, for
every year that a timestamp can lie in: `Timestamp.parse?_render`.

The reader is a chain of small readers, each of which takes a part off the front of the text, and
the proof has the same shape.  For each part there is a lemma that says what is read of it *whatever
follows*, as long as that does not begin in a way that the part could go on.  `HasParts` is then the
whole text as a sequence of parts, and `parse?_of_hasParts` runs the reader over it once, with the
parts as variables; that keeps the numbers of the calendar out of a long computation.

What is left is that the parts of a rendered text are in range: that the day exists, which is
`MetricsAgent.Proofs.Timestamp.Calendar`, and that hours, minutes and seconds are rests of
divisions.
-/

set_option autoImplicit false

namespace MetricsAgent

open Json (AreDigits areDigits_toDigits digitValue?_of_isDigit)

/-! ## Padded numbers

Zeros in front of a number do not count when it is read, and blanks are no digits, so that skipping
blanks in front of a number leaves it alone. -/

theorem areDigits_padded (width n : Nat) : AreDigits (padded width n) :=
  (areDigits_toDigits n).zeros_append _

theorem length_padded {width n : Nat} (pos : 0 < width) (h : n < 10 ^ width) :
    (padded width n).length = width := by
  have short := (Nat.length_toDigits_le_iff (by decide) pos).mpr h
  rw [padded, List.length_append, List.length_replicate]
  omega

/-- The number of decimal digits is read, whatever stands in front of it. -/
theorem foldl_digits {ds : List Char} (h : ∀ c ∈ ds, c.isDigit = true) (n : Nat) :
    ds.foldl (fun acc c ↦ do return 10 * (← acc) + (← digitValue? c)) (some n) =
      some (Nat.ofDigitChars 10 ds n) := by
  induction ds generalizing n with
  | nil => rfl
  | cons c ds ih =>
    obtain ⟨hc, hds⟩ := List.forall_mem_cons.mp h
    rw [List.foldl_cons, digitValue?_of_isDigit hc]
    exact ih hds _

theorem decimalNat?_of_areDigits {ds : List Char} (h : AreDigits ds) :
    decimalNat? ds = some (Nat.ofDigitChars 10 ds 0) := by
  obtain ⟨c, cs, rfl⟩ := List.exists_cons_of_ne_nil h.nonempty
  exact foldl_digits h.digits 0

/-- The zeros in front do not count. -/
theorem decimalNat?_padded (width n : Nat) : decimalNat? (padded width n) = some n := by
  rw [decimalNat?_of_areDigits (areDigits_padded width n), padded, Nat.ofDigitChars_append,
    Nat.ofDigitChars_replicate_zero, Nat.mul_zero, Nat.ofDigitChars_ten_toDigits]

theorem digitValue?_isSome_of_mem_padded {width n : Nat} {c : Char} (h : c ∈ padded width n) :
    (digitValue? c).isSome = true := by
  rw [digitValue?_of_isDigit ((areDigits_padded width n).digits c h)]
  rfl

/-- Blanks are not digits. -/
theorem isBlank_of_digitValue?_isSome {c : Char} (h : (digitValue? c).isSome = true) :
    isBlank c = false := by
  rw [digitValue?] at h
  split at h
  · rename_i digit
    have low : 48 ≤ c.toNat := UInt32.le_iff_toNat_le.mp digit.1
    have high : c.toNat ≤ 57 := UInt32.le_iff_toNat_le.mp digit.2
    simp only [isBlank, Bool.or_eq_false_iff, Bool.and_eq_false_iff, decide_eq_false_iff_not]
    omega
  · cases h

namespace Timestamp

/-! ## Parts of the text

One lemma for each reader.  Years are the only part that may have a sign, and the decimal places of
a second the only one that may be missing. -/

/-- Digits are read up to the width, or up to what is no digit. -/
theorem takeDigits?_padded {width n : Nat} {rest : List Char} {limit : Nat}
    (fits : (padded width n).length ≤ limit)
    (stop : (padded width n).length = limit ∨ ∀ c ∈ rest.head?, digitValue? c = none) :
    takeDigits? limit (padded width n ++ rest) = some (n, rest) := by
  have front : ((padded width n ++ rest).take limit).takeWhile (digitValue? · |>.isSome) =
      padded width n := by
    rw [List.take_append, List.take_of_length_le fits,
      List.takeWhile_append_of_pos fun c hc ↦ digitValue?_isSome_of_mem_padded hc]
    rcases stop with full | stop
    · rw [full, Nat.sub_self, List.take_zero, List.takeWhile_nil, List.append_nil]
    · cases rest with
      | nil => simp
      | cons c rest =>
        cases limit - (padded width n).length with
        | zero => simp
        | succ k => simp [stop c rfl]
  simp only [takeDigits?, front, decimalNat?_padded, List.drop_left]
  rfl

theorem skipBlank_cons {c : Char} (h : isBlank c = false) (rest : List Char) :
    skipBlank (c :: rest) = c :: rest :=
  List.dropWhile_cons_of_neg (by simp [h])

theorem skipBlank_padded (width n : Nat) (rest : List Char) :
    skipBlank (padded width n ++ rest) = padded width n ++ rest := by
  obtain ⟨c, cs, e⟩ := List.exists_cons_of_ne_nil (areDigits_padded width n).nonempty
  have digit : c ∈ padded width n := e ▸ List.mem_cons_self
  rw [e, List.cons_append]
  exact skipBlank_cons (isBlank_of_digitValue?_isSome (digitValue?_isSome_of_mem_padded digit)) _

theorem number?_padded {n : Nat} (h : n < 100) (rest : List Char) :
    number? 2 (padded 2 n ++ rest) = some (n, rest) := by
  have length : (padded 2 n).length = 2 := length_padded (by decide) h
  rw [number?, skipBlank_padded]
  exact takeDigits?_padded length.le (.inl length)

theorem mark?_self {c : Char} (h : isBlank c = false) (rest : List Char) :
    mark? c (c :: rest) = some rest := by
  rw [mark?, skipBlank_cons h]
  exact if_pos rfl

/-- Four digits are a year. -/
theorem year?_padded {n : Nat} (h : n < 10000) (rest : List Char) :
    year? (padded 4 n ++ rest) = some ((n : Int), rest) := by
  have length : (padded 4 n).length = 4 := length_padded (by decide) h
  have read : takeDigits? 4 (padded 4 n ++ rest) = some (n, rest) :=
    takeDigits?_padded length.le (.inl length)
  obtain ⟨c, cs, e⟩ := List.exists_cons_of_ne_nil (areDigits_padded 4 n).nonempty
  have digit : (digitValue? c).isSome = true :=
    digitValue?_isSome_of_mem_padded (e ▸ List.mem_cons_self)
  rw [year?, skipBlank_padded]
  rw [e, List.cons_append] at read ⊢
  split
  · rename_i sign
    rw [(List.cons.inj sign).1] at digit
    cases digit
  · rename_i sign
    rw [(List.cons.inj sign).1] at digit
    cases digit
  · rw [read]
    rfl

/-- After a sign all digits belong to the year. -/
theorem year?_signed {sign : Char} (h : sign = '-' ∨ sign = '+') (n : Nat) (rest : List Char) :
    year? (sign :: padded 4 n ++ '-' :: rest) =
      some (if sign = '-' then -(n : Int) else n, '-' :: rest) := by
  have stop : ∀ c ∈ ('-' :: rest).head?, digitValue? c = none := by
    rintro c ⟨⟩
    rfl
  have read : takeDigits? (padded 4 n ++ '-' :: rest).length (padded 4 n ++ '-' :: rest) =
      some (n, '-' :: rest) :=
    takeDigits?_padded (by simp) (.inr stop)
  rcases h with rfl | rfl <;>
  · rw [List.cons_append, year?, skipBlank_cons (by decide)]
    simp only [read]
    rfl

/-- A year is read up to the mark that follows it. -/
theorem year?_yearText (y : Int) (rest : List Char) :
    year? (yearText y ++ '-' :: rest) = some (y, '-' :: rest) := by
  rw [yearText]
  split
  · rename_i range
    rw [year?_padded (by omega), Int.toNat_of_nonneg range.1]
  · rename_i range
    rw [year?_signed (by split <;> simp)]
    by_cases negative : y < 0
    · rw [if_pos negative, if_pos rfl, Int.ofNat_natAbs_of_nonpos negative.le, Int.neg_neg]
    · rw [if_neg negative, if_neg (by decide), Int.natAbs_of_nonneg (by omega)]

/-- The decimal places that are written are read up to the `Z`. -/
theorem fraction?_padded {places n : Nat} (pos : 0 < places) (le : places ≤ 9)
    (h : n < 10 ^ places) :
    fraction? ('.' :: padded places n ++ ['Z']) = some (n * 10 ^ (9 - places), ['Z']) := by
  have length : (padded places n).length = places := length_padded pos h
  have stop : ∀ c ∈ ['Z'].head?, digitValue? c = none := by
    rintro c ⟨⟩
    rfl
  have read : takeDigits? 9 (padded places n ++ ['Z']) = some (n, ['Z']) :=
    takeDigits?_padded (by omega) (.inr stop)
  have count : (padded places n ++ ['Z']).length - ['Z'].length = places := by
    rw [List.length_append, length, Nat.add_sub_cancel]
  rw [List.cons_append, fraction?]
  simp only [read, count, Option.bind_eq_bind, Option.bind_some]
  rfl

/-- The decimal places of a second are read to the nanosecond. -/
theorem fraction?_fractionText {n : Nat} (h : n < 1000000000) :
    fraction? (fractionText n ++ ['Z']) = some (n, ['Z']) := by
  rw [fractionText]
  split
  · rename_i zero
    rw [zero]
    rfl
  · split
    · rw [fraction?_padded (by decide) (by decide) (by omega)]
      congr 2
      omega
    · split
      · rw [fraction?_padded (by decide) (by decide) (by omega)]
        congr 2
        omega
      · rw [fraction?_padded (by decide) (by decide) (by omega)]
        congr 2
        omega

/-! ## The text

The text of a timestamp has all parts, in universal time, and is read with an offset of zero. -/

theorem bind_eq_of {β γ : Type} {x : Option β} {a : β} {f : β → Option γ} {r : Option γ}
    (read : x = some a) (rest : f a = r) : x >>= f = r := by
  rw [read]
  exact rest

/-- The parts of a text in universal time, each read up to the next. -/
def HasParts (text : List Char) (date : Date) (hour minute second nanos : Nat) : Prop :=
  ∃ c₁ c₂ c₃ c₄ c₅ c₆ : List Char,
    year? text = some (date.year, '-' :: c₁) ∧ number? 2 c₁ = some (date.month, '-' :: c₂) ∧
    number? 2 c₂ = some (date.day, 'T' :: c₃) ∧ number? 2 c₃ = some (hour, ':' :: c₄) ∧
    number? 2 c₄ = some (minute, ':' :: c₅) ∧ number? 2 c₅ = some (second, c₆) ∧
    fraction? c₆ = some (nanos, ['Z'])

theorem parse?_of_hasParts {text : List Char} {date : Date} {hour minute second nanos : Nat}
    (h : HasParts text date hour minute second nanos) : parse? (String.ofList text) =
      if date.isValid ∧ yearInRange date.year ∧ hour < 24 ∧ minute < 60 ∧ second ≤ 60 then
        let seconds := date.toDays * 86400 + hour * 3600 + minute * 60 + second
        if yearInRange (Date.ofDays (seconds.fdiv 86400)).year then
          some ⟨seconds * 1000000000 + nanos⟩ else none
      else none := by
  obtain ⟨c₁, c₂, c₃, c₄, c₅, c₆, year, month, day, hours, minutes, seconds, fraction⟩ := h
  have dash (cs : List Char) : mark? '-' ('-' :: cs) = some cs := mark?_self (by decide) cs
  have colon (cs : List Char) : mark? ':' (':' :: cs) = some cs := mark?_self (by decide) cs
  have offset : offset? (skipBlank ['Z']) = some (0, []) := by decide
  rw [parse?, String.toList_ofList]
  refine bind_eq_of year <| bind_eq_of (dash c₁) <| bind_eq_of month <| bind_eq_of (dash c₂) <|
    bind_eq_of day <| bind_eq_of rfl <| bind_eq_of hours <| bind_eq_of
    (colon c₄) <| bind_eq_of minutes <|
    bind_eq_of (colon c₅) <| bind_eq_of seconds <| bind_eq_of fraction <| bind_eq_of offset ?_
  simp [skipBlank]

theorem month_lt_of_isValid {d : Date} (h : d.isValid = true) : d.month < 100 := by
  simp only [Date.isValid, Bool.and_eq_true, decide_eq_true_eq] at h
  omega

theorem day_lt_of_isValid {d : Date} (h : d.isValid = true) : d.day < 100 := by
  have length : Date.monthLength d.year d.month ≤ 31 := by
    rw [Date.monthLength]
    split_ifs <;> decide
  simp only [Date.isValid, Bool.and_eq_true, decide_eq_true_eq] at h
  omega

/-- The day of a timestamp. -/
def date (t : Timestamp) : Date := Date.ofDays ((t.nanos.fdiv 1000000000).fdiv 86400)

/-- **A timestamp reads back from its text.** -/
theorem parse?_render {t : Timestamp} (range : yearInRange t.date.year = true) :
    parse? t.render = some t := by
  obtain ⟨seconds, nanos, seconds_eq, nanos_eq, nanos_lt⟩ :=
    Date.exists_fdiv t.nanos (show 0 < 1000000000 by decide)
  obtain ⟨days, ofDay, days_eq, ofDay_eq, ofDay_lt⟩ :=
    Date.exists_fdiv seconds (show 0 < 86400 by decide)
  have valid := Date.isValid_ofDays days
  have parts :
      HasParts t.renderChars (Date.ofDays days) (ofDay / 3600) (ofDay / 60 % 60) (ofDay % 60)
      nanos := by
    rw [renderChars]
    simp only [seconds_eq, days_eq, nanos_eq, ofDay_eq, Int.toNat_natCast, List.append_assoc,
      List.cons_append]
    exact ⟨_, _, _, _, _, _, year?_yearText _ _, number?_padded (month_lt_of_isValid valid) _,
      number?_padded (day_lt_of_isValid valid) _, number?_padded (by omega) _,
      number?_padded (by omega) _, number?_padded (by omega) _, fraction?_fractionText (by omega)⟩
  have back : (Date.ofDays days).toDays * 86400 + (ofDay / 3600 : Nat) * 3600 +
      (ofDay / 60 % 60 : Nat) * 60 + (ofDay % 60 : Nat) = seconds := by
    rw [Date.toDays_ofDays]
    omega
  have whole : seconds * 1000000000 + nanos = t.nanos := by omega
  rw [date, seconds_eq, days_eq] at range
  rw [render, parse?_of_hasParts parts]
  simp only [back, days_eq]
  rw [if_pos ⟨valid, range, by omega, by omega, by omega⟩, if_pos range, whole]

end Timestamp

end MetricsAgent
