import Mathlib.Data.List.TakeWhile
import MetricsAgent.Proofs.Exposition.Reader

/-!
# What is written can be read

Names are sanitized, label values are escaped, and numbers are laid out positionally, so every part
of a line is what the reader takes it for, and no part holds a newline.  A line that is made of such
parts is read back as it is (`Exposition.readLine?_write`), and so are the lines of a text
(`Exposition.lines?_flatMap`).

For each part there are two facts.  One says that its reader finds it in front of whatever follows
in a line; the other that no newline is in it, so that the text can be cut into lines before any
line is read.
-/

set_option autoImplicit false

namespace MetricsAgent.Exposition

/-! ## Names

Sanitizing replaces what is not permitted and mends the start, which are the two things that the
reader asks of a name. -/

section Names

variable {permitted : Char → Bool} {cs : List Char}

theorem isName_iff : isName permitted cs = true ↔
    (∀ c ∈ cs, permitted c = true) ∧ needsUnderscore cs = false := by
  cases cs with
  | nil => simp [isName, needsUnderscore]
  | cons c cs =>
    rw [isName, Bool.and_eq_true, Bool.and_eq_true, List.all_eq_true, Bool.not_eq_true',
      List.forall_mem_cons, needsUnderscore]
    exact and_right_comm

/-- Sanitized text is a name. -/
theorem isName_sanitize (underscore : permitted '_' = true) (cs : List Char) :
    isName permitted (sanitize permitted cs) = true := by
  have mapped : ∀ c ∈ cs.map fun c ↦ if permitted c then c else '_', permitted c = true := by
    intro c hc
    obtain ⟨d, -, rfl⟩ := List.mem_map.mp hc
    split
    · assumption
    · exact underscore
  rw [isName_iff, sanitize]
  split
  · exact ⟨List.forall_mem_cons.mpr ⟨underscore, mapped⟩, rfl⟩
  · rename_i start
    exact ⟨mapped, Bool.eq_false_iff.mpr start⟩

/-- A name goes on with permitted characters. -/
theorem isName_append {suffix : List Char} (h : isName permitted cs = true)
    (hs : suffix.all permitted = true) : isName permitted (cs ++ suffix) = true := by
  obtain ⟨all, start⟩ := isName_iff.mp h
  refine isName_iff.mpr ⟨List.forall_mem_append.mpr ⟨all, List.all_eq_true.mp hs⟩, ?_⟩
  cases cs with
  | nil => cases start
  | cons c cs => exact start

/-- A name is read up to a character that is not permitted. -/
theorem readName?_append {c : Char} (h : isName permitted cs = true) (stop : permitted c = false)
    (rest : List Char) :
    readName? permitted (cs ++ c :: rest) = some (String.ofList cs, c :: rest) := by
  obtain ⟨all, -⟩ := isName_iff.mp h
  have name : (cs ++ c :: rest).takeWhile permitted = cs := by
    rw [List.takeWhile_append_of_pos all, List.takeWhile_cons_of_neg (by simp [stop]),
      List.append_nil]
  have after : (cs ++ c :: rest).dropWhile permitted = c :: rest := by
    rw [List.dropWhile_append_of_pos all, List.dropWhile_cons_of_neg (by simp [stop])]
  rw [readName?, name, after, if_pos h]

theorem newline_not_mem_of_isName (h : isName permitted cs = true) (stop : permitted '\n' = false) :
    '\n' ∉ cs := by
  intro mem
  have := (isName_iff.mp h).1 _ mem
  rw [stop] at this
  cases this

end Names

/-! ## Labels

Escaping turns the three characters that would end a value, or begin an escape, into two each.  The
reader undoes it character by character, and stops at the quote behind the value. -/

/-- **Escaped text is read back**, up to the quote that ends it. -/
theorem readValue?_escape (cs rest : List Char) :
    readValue? (escape cs ++ '"' :: rest) = some (cs, rest) := by
  induction cs with
  | nil => rfl
  | cons c cs ih =>
    rw [escape]
    split
    · rename_i backslash
      rw [List.cons_append, List.cons_append, readValue?, ih, backslash]
      rfl
    split
    · rename_i quote
      rw [List.cons_append, List.cons_append, readValue?, ih, quote]
      rfl
    split
    · rename_i newline
      rw [List.cons_append, List.cons_append, readValue?, ih, newline]
      rfl
    · rename_i backslash quote _
      rw [List.cons_append, readValue?.eq_4 c _ quote fun _ _ h _ ↦ backslash h, ih]
      rfl

theorem newline_not_mem_escape (cs : List Char) : '\n' ∉ escape cs := by
  induction cs with
  | nil => exact List.not_mem_nil
  | cons c cs ih =>
    rw [escape]
    split
    · simpa using ih
    split
    · simpa using ih
    split
    · simpa using ih
    · rename_i newline
      simpa [Ne.symm newline] using ih

theorem toList_render_label (l : Label) :
    l.render.toList = l.name.toList ++ '=' :: '"' :: (escape l.value.toList ++ ['"']) := by
  simp [Label.render]

section Labels

variable {l : Label} {ls : List Label} {cs : List Char}

theorem readLabel?_render (h : isName isLabelChar l.name.toList = true) (rest : List Char) :
    readLabel? (l.render.toList ++ rest) = some (l, rest) := by
  have parts : l.render.toList ++ rest =
      l.name.toList ++ '=' :: '"' :: (escape l.value.toList ++ '"' :: rest) := by
    rw [toList_render_label]
    simp
  rw [parts, readLabel?, readName?_append h rfl]
  show (readValue? (escape l.value.toList ++ '"' :: rest)).map _ = _
  rw [readValue?_escape]
  simp

theorem newline_not_mem_label (h : isName isLabelChar l.name.toList = true) :
    '\n' ∉ l.render.toList := by
  have name := newline_not_mem_of_isName h rfl
  have value := newline_not_mem_escape l.value.toList
  rw [toList_render_label]
  simp [name, value]

theorem readLabels?_of_comma {rest : List Char} (h : readLabel? cs = some (l, ',' :: rest)) :
    readLabels? cs = (readLabels? rest).map fun r ↦ (l :: r.1, r.2) := by
  rw [readLabels?]
  split
  · rename_i same
    cases h.symm.trans same
    rfl
  · rename_i other
    cases h.symm.trans other
  · rename_i comma _
    exact absurd h (comma l rest)

theorem readLabels?_of_brace {rest : List Char} (h : readLabel? cs = some (l, '}' :: rest)) :
    readLabels? cs = some ([l], rest) := by
  rw [readLabels?]
  split
  · rename_i other
    cases h.symm.trans other
  · rename_i same
    cases h.symm.trans same
    rfl
  · rename_i _ brace
    exact absurd h (brace l rest)

/-- Labels are read up to the closing brace. -/
theorem readLabels?_render (h : ∀ l ∈ ls, isName isLabelChar l.name.toList = true) (some : ls ≠ [])
    (rest : List Char) :
    readLabels? ([','].intercalate (ls.map (·.render.toList)) ++ '}' :: rest) = .some
      (ls, rest) := by
  induction ls with
  | nil => exact absurd rfl some
  | cons l ls ih =>
    obtain ⟨hl, hls⟩ := List.forall_mem_cons.mp h
    cases ls with
    | nil =>
      rw [List.map_singleton, List.intercalate_singleton]
      exact readLabels?_of_brace (readLabel?_render hl _)
    | cons l' ls =>
      have parts : [','].intercalate ((l :: l' :: ls).map (·.render.toList)) ++ '}' :: rest =
          l.render.toList ++ ',' ::
            ([','].intercalate ((l' :: ls).map (·.render.toList)) ++ '}' :: rest) := by
        simp [List.intercalate_cons_cons]
      rw [parts, readLabels?_of_comma (readLabel?_render hl _), ih hls (by simp)]
      rfl

theorem toList_renderLabels (some : ls ≠ []) : (renderLabels ls).toList =
    '{' :: ([','].intercalate (ls.map (·.render.toList)) ++ ['}']) := by
  rw [renderLabels, if_neg (by simpa using some)]
  simp [String.toList_intercalate, List.map_map, Function.comp_def]

/-- A label block is read up to what is no part of it. -/
theorem readBlock?_render (h : ∀ l ∈ ls, isName isLabelChar l.name.toList = true)
    (rest : List Char) :
    readBlock? ((renderLabels ls).toList ++ ' ' :: rest) = some (ls, ' ' :: rest) := by
  by_cases none : ls = []
  · subst none
    rfl
  · rw [toList_renderLabels none, List.cons_append, List.append_assoc]
    exact readLabels?_render h none _

theorem newline_not_mem_labels (h : ∀ l ∈ ls, isName isLabelChar l.name.toList = true) :
    '\n' ∉ [','].intercalate (ls.map (·.render.toList)) := by
  induction ls with
  | nil => exact List.not_mem_nil
  | cons l ls ih =>
    obtain ⟨hl, hls⟩ := List.forall_mem_cons.mp h
    have first := newline_not_mem_label hl
    have others := ih hls
    cases ls with
    | nil =>
      rw [List.map_singleton, List.intercalate_singleton]
      exact first
    | cons l' ls =>
      rw [List.map_cons, List.map_cons, List.intercalate_cons_cons]
      rw [List.map_cons] at others
      simp [first, others]

theorem newline_not_mem_renderLabels (h : ∀ l ∈ ls, isName isLabelChar l.name.toList = true) :
    '\n' ∉ (renderLabels ls).toList := by
  by_cases none : ls = []
  · subst none
    exact List.not_mem_nil
  · have labels := newline_not_mem_labels h
    rw [toList_renderLabels none]
    simp [labels]

end Labels

/-! ## Numbers

Every double is written as a decimal, with a sign in front if need be, or as one of three words. -/

/-- Digits are a decimal. -/
theorem isDecimal_digits {ds : List Char} (some : ds ≠ []) (h : ∀ d ∈ ds, isDigit d = true) :
    isDecimal ds = true := by
  have whole : ds.takeWhile isDigit = ds := List.takeWhile_eq_self_iff.mpr h
  have after : ds.dropWhile isDigit = [] := List.dropWhile_eq_nil_iff.mpr h
  rw [isDecimal, whole, after]
  simpa using some

/-- Digits on both sides of a point are a decimal. -/
theorem isDecimal_fraction {ds fs : List Char} (whole_some : ds ≠ [])
    (hds : ∀ d ∈ ds, isDigit d = true) (fraction_some : fs ≠ [])
    (hfs : ∀ d ∈ fs, isDigit d = true) : isDecimal (ds ++ '.' :: fs) = true := by
  have whole : (ds ++ '.' :: fs).takeWhile isDigit = ds := by
    rw [List.takeWhile_append_of_pos hds, List.takeWhile_cons_of_neg (by decide), List.append_nil]
  have after : (ds ++ '.' :: fs).dropWhile isDigit = '.' :: fs := by
    rw [List.dropWhile_append_of_pos hds, List.dropWhile_cons_of_neg (by decide)]
  rw [isDecimal, whole, after]
  simp only [Bool.and_eq_true, Bool.not_eq_true', List.isEmpty_eq_false_iff, List.all_eq_true]
  exact ⟨whole_some, fraction_some, hfs⟩

theorem isDigit_of_mem_toDigits {n : Nat} {d : Char} (h : d ∈ Nat.toDigits 10 n) :
    isDigit d = true := by
  have digit := Nat.isDigit_of_mem_toDigits (by decide) (by decide) h
  rw [Char.isDigit, Bool.and_eq_true, decide_eq_true_eq, decide_eq_true_eq] at digit
  rw [isDigit, Bool.and_eq_true, decide_eq_true_eq, decide_eq_true_eq]
  exact digit

/-- All places of a decimal written out. -/
theorem isDecimal_positional (d : Decimal) : isDecimal (d.positional []) = true := by
  have some : d.digitChars ≠ [] := Nat.toDigits_ne_nil
  have digits : ∀ c ∈ d.digitChars, isDigit c = true := fun c hc ↦ isDigit_of_mem_toDigits hc
  have zeros (n : Nat) : ∀ c ∈ List.replicate n '0', isDigit c = true := by
    intro c hc
    rw [List.eq_of_mem_replicate hc]
    rfl
  rw [Decimal.positional]
  split
  · rw [List.append_nil]
    exact isDecimal_digits (by simp [some]) (List.forall_mem_append.mpr ⟨digits, zeros _⟩)
  · rename_i negative
    dsimp only
    split
    · rename_i within
      refine isDecimal_fraction ?_ (fun c hc ↦ digits c (List.mem_of_mem_take hc)) ?_
        fun c hc ↦ digits c (List.mem_of_mem_drop hc)
      · rw [Ne, List.take_eq_nil_iff, not_or]
        exact ⟨by omega, some⟩
      · rw [Ne, List.drop_eq_nil_iff]
        omega
    · have zero : ∀ c ∈ ['0'], isDigit c = true := by simp [isDigit]
      exact isDecimal_fraction (List.cons_ne_nil _ _) zero (by simp [some])
        (List.forall_mem_append.mpr ⟨zeros _, digits⟩)

/-- A decimal has no minus sign. -/
theorem magnitude_of_isDecimal {cs : List Char} (h : isDecimal cs = true) : magnitude cs = cs := by
  rw [magnitude.eq_def]
  split
  · simp [isDecimal, isDigit] at h
  · rfl

/-- A decimal may have a minus sign in front. -/
theorem isNumber_signed {cs : List Char} (h : isDecimal cs = true) (negative : Bool) :
    isNumber (NumberText.signed negative cs) = true := by
  have unsigned : magnitude (NumberText.signed negative cs) = cs := by
    cases negative with
    | false => exact magnitude_of_isDecimal h
    | true => rfl
  rw [isNumber, unsigned, h, Bool.or_true]

/-- **Every number that is written is one.** -/
theorem isNumber_render (x : Float) : isNumber (number.render x).toList = true := by
  rw [NumberText.render]
  cases FloatParts.ofFloat x with
  | nan => rfl
  | infinite negative => cases negative <;> rfl
  | zero negative =>
    rw [String.toList_ofList]
    exact isNumber_signed rfl negative
  | finite negative b =>
    rw [String.toList_ofList]
    exact isNumber_signed (isDecimal_positional b.shortest) negative

theorem isNumber_count (n : Nat) : isNumber (toString n).toList = true := by
  have digits : (toString n).toList = Nat.toDigits 10 n := Nat.toList_repr
  rw [digits]
  exact isNumber_signed (isDecimal_digits Nat.toDigits_ne_nil fun _ ↦ isDigit_of_mem_toDigits) false

theorem newline_not_mem_of_isDecimal {cs : List Char} (h : isDecimal cs = true) : '\n' ∉ cs := by
  intro mem
  rw [isDecimal, Bool.and_eq_true] at h
  rw [← List.takeWhile_append_dropWhile (p := isDigit) (l := cs)] at mem
  rcases List.mem_append.mp mem with mem | mem
  · have digit := List.mem_takeWhile_imp mem
    cases digit
  · obtain ⟨-, after⟩ := h
    split at after
    · rename_i none
      rw [none] at mem
      cases mem
    · rename_i fraction point
      rw [Bool.and_eq_true, List.all_eq_true] at after
      rw [point] at mem
      rcases List.mem_cons.mp mem with same | mem
      · cases same
      · cases after.2 _ mem
    · cases after

theorem newline_not_mem_of_isNumber {cs : List Char} (h : isNumber cs = true) : '\n' ∉ cs := by
  rw [isNumber, Bool.or_eq_true, Bool.or_eq_true, Bool.or_eq_true, decide_eq_true_eq,
    decide_eq_true_eq, decide_eq_true_eq] at h
  rcases h with ((rfl | rfl) | rfl) | h
  · decide
  · decide
  · decide
  · have digits := newline_not_mem_of_isDecimal h
    rw [magnitude.eq_def] at digits
    split at digits
    · simpa using digits
    · exact digits

/-! ## Lines

A line that is made of names, labels and a number is read back as it was, and lines are told apart
by their newlines. -/

/-- A sample that is made of names, label names and a number. -/
structure Sample.IsProper (s : Sample) : Prop where
  name : isName isNameChar s.name.toList = true
  labels : ∀ l ∈ s.labels, isName isLabelChar l.name.toList = true
  value : isNumber s.value.toList = true

/-- The text of a line, without its newline. -/
def Line.write : Line → List Char
  | .type name kind => typeMark ++ (name.toList ++ ' ' :: kind.name.toList)
  | .sample s => s.name.toList ++ ((renderLabels s.labels).toList ++ ' ' :: s.value.toList)

/-- A line that is made of what belongs there. -/
def Line.IsProper : Line → Prop
  | .type name _ => isName isNameChar name.toList = true
  | .sample s => s.IsProper

theorem readSample?_write {s : Sample} (h : s.IsProper) :
    readSample? (Line.sample s).write = some (.sample s) := by
  have block := readBlock?_render h.labels s.value.toList
  -- Behind the name comes a brace or a blank.
  have named : readName? isNameChar (Line.sample s).write =
      some (s.name, (renderLabels s.labels).toList ++ ' ' :: s.value.toList) := by
    by_cases none : s.labels = []
    · rw [Line.write, none]
      exact (readName?_append h.name rfl _).trans (by rw [String.ofList_toList]; rfl)
    · rw [Line.write, toList_renderLabels none, List.cons_append, readName?_append h.name rfl,
        String.ofList_toList]
  rw [readSample?, named, Option.bind_some]
  show (readBlock? _).bind _ = _
  rw [block, Option.bind_some]
  show (if isNumber s.value.toList = true then _ else none) = _
  rw [if_pos h.value, String.ofList_toList]

theorem readType?_write {name : String} (h : isName isNameChar name.toList = true)
    (kind : MetricKind) :
    readType? (name.toList ++ ' ' :: kind.name.toList) = some (.type name kind) := by
  rw [readType?, readName?_append h rfl, Option.bind_some]
  show (MetricKind.ofName? (String.ofList kind.name.toList)).map _ = _
  rw [String.ofList_toList, String.ofList_toList]
  cases kind <;> rfl

/-- **A line of names, labels and numbers is read back.** -/
theorem readLine?_write {l : Line} (h : l.IsProper) : readLine? l.write = some l := by
  cases l with
  | type name kind =>
    have marked : typeMark.isPrefixOf (Line.type name kind).write = true :=
      List.isPrefixOf_iff_prefix.mpr (List.prefix_append ..)
    rw [readLine?, if_pos marked, Line.write, List.drop_left]
    exact readType?_write h kind
  | sample s =>
    -- A name does not start like a type line.
    have unmarked : ¬typeMark.isPrefixOf (Line.sample s).write = true := by
      intro marked
      obtain ⟨rest, parts⟩ := List.isPrefixOf_iff_prefix.mp marked
      obtain ⟨all, start⟩ := isName_iff.mp (Sample.IsProper.name h)
      rw [Line.write] at parts
      cases name : s.name.toList with
      | nil => rw [name] at start; cases start
      | cons c cs =>
        rw [name] at parts all
        have first : '#' = c := (List.cons.inj parts).1
        have permitted := all c (List.mem_cons_self ..)
        rw [← first] at permitted
        cases permitted
    rw [readLine?, if_neg unmarked]
    exact readSample?_write h

theorem newline_not_mem_write {l : Line} (h : l.IsProper) : '\n' ∉ l.write := by
  cases l with
  | type name kind =>
    have mark : '\n' ∉ typeMark := by decide
    have name := newline_not_mem_of_isName h rfl
    have kind : '\n' ∉ kind.name.toList := by cases kind <;> decide
    rw [Line.write]
    simp [mark, name, kind]
  | sample s =>
    have name := newline_not_mem_of_isName (Sample.IsProper.name h) rfl
    have labels := newline_not_mem_renderLabels (Sample.IsProper.labels h)
    have value := newline_not_mem_of_isNumber (Sample.IsProper.value h)
    rw [Line.write]
    simp [name, labels, value]

/-- A line is taken off up to its newline. -/
theorem lines?_append {l : List Char} (h : '\n' ∉ l) (rest : List Char) :
    lines? (l ++ '\n' :: rest) = (lines? rest).map (l :: ·) := by
  induction l with
  | nil =>
    rw [List.nil_append, lines?]
    cases lines? rest <;> rfl
  | cons c l ih =>
    rw [List.mem_cons, not_or] at h
    rw [List.cons_append, lines?, ih h.2]
    cases lines? rest with
    | none => rfl
    | some ls =>
      rw [Option.map_some, Option.bind_some, if_neg (Ne.symm h.1)]
      rfl

/-- **Lines without newlines in them are told apart.** -/
theorem lines?_flatMap {ls : List (List Char)} (h : ∀ l ∈ ls, '\n' ∉ l) :
    lines? (ls.flatMap (· ++ ['\n'])) = some ls := by
  induction ls with
  | nil => rfl
  | cons l ls ih =>
    obtain ⟨hl, hls⟩ := List.forall_mem_cons.mp h
    rw [List.flatMap_cons, List.append_assoc, List.singleton_append, lines?_append hl, ih hls]
    rfl

theorem mapM_readLine?_write {ls : List Line} (h : ∀ l ∈ ls, l.IsProper) :
    (ls.map Line.write).mapM readLine? = some ls := by
  induction ls with
  | nil => rfl
  | cons l ls ih =>
    obtain ⟨hl, hls⟩ := List.forall_mem_cons.mp h
    rw [List.map_cons, List.mapM_cons, readLine?_write hl, ih hls]
    rfl

end MetricsAgent.Exposition
