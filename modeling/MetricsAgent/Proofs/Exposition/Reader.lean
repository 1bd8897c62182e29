import MetricsAgent.Exposition.Render

/-!
# A reader of the exposition text

The text format, read strictly: lines end in a newline, and a line is `# TYPE name kind` or a
sample, `name{label="value",...} number`, where the label block may be missing.  A sample belongs to
the family of the last type line before it.

`Exposition.read?` takes a text apart; it knows nothing about how texts are made, except for the
characters that names may have.  It is a function that runs, so it can be tried on any text, and it
is as strict as the format allows: a name that begins with a digit, an escape that is none, a number
in another notation, a sample in front of the first type line are all refused.

Each part has a reader of its own, which answers the part and what follows it, or nothing.  The
lemmas say that a reader leaves less than it was given, which is what the recursion over the labels
of a block needs.
-/

set_option autoImplicit false

namespace MetricsAgent.Exposition

/-! ## Names

Metric names may hold colons, label names may not; the set of characters is a parameter. -/

/-- A name has permitted characters only, at least one, and does not start with a digit. Permitted
in metric names is `[a-zA-Z0-9_:]`, in label names `[a-zA-Z0-9_]`. -/
def isName (permitted : Char → Bool) : List Char → Bool
  | [] => false
  | c :: cs => permitted c && !isDigit c && cs.all permitted

/-- A name and what follows. -/
def readName? (permitted : Char → Bool) (cs : List Char) : Option (String × List Char) :=
  let name := cs.takeWhile permitted
  if isName permitted name then some (String.ofList name, cs.dropWhile permitted) else none

/-! ## Labels

A value ends at the first quote that is not escaped.  There are three escapes, for the backslash,
the quote and the newline, and a backslash in front of anything else is an error. -/

/-- What a character behind a backslash stands for. -/
def unescape? : Char → Option Char
  | '\\' => some '\\'
  | '"' => some '"'
  | 'n' => some '\n'
  | _ => none

/-- A label value up to its closing quote, and what follows. -/
def readValue? : List Char → Option (List Char × List Char)
  | [] => none
  | '"' :: rest => some ([], rest)
  | '\\' :: e :: rest => (unescape? e).bind fun c ↦ (readValue? rest).map fun r ↦ (c :: r.1, r.2)
  | c :: rest => (readValue? rest).map fun r ↦ (c :: r.1, r.2)

/-- A label and what follows. -/
def readLabel? (cs : List Char) : Option (Label × List Char) :=
  (readName? isLabelChar cs).bind fun (name, rest) ↦
    match rest with
    | '=' :: '"' :: rest => (readValue? rest).map fun (value, rest) ↦
      (⟨name, String.ofList value⟩, rest)
    | _ => none

theorem length_of_readName? {permitted : Char → Bool} {cs rest : List Char} {name : String}
    (h : readName? permitted cs = some (name, rest)) : rest.length ≤ cs.length := by
  rw [readName?] at h
  split at h
  · cases h
    exact (List.dropWhile_suffix _).length_le
  · cases h

theorem length_of_readValue? {cs value rest : List Char} (h : readValue? cs = some (value, rest)) :
    rest.length < cs.length := by
  fun_induction readValue? cs generalizing value with
  | case1 => cases h
  | case2 rest => cases h; exact Nat.lt_succ_self _
  | case3 e rest' ih =>
    obtain ⟨c, -, h⟩ := Option.bind_eq_some_iff.mp h
    obtain ⟨r, hr, h⟩ := Option.map_eq_some_iff.mp h
    cases h
    have := ih hr
    simp only [List.length_cons]
    omega
  | case4 c rest' _ _ ih =>
    obtain ⟨r, hr, h⟩ := Option.map_eq_some_iff.mp h
    cases h
    exact Nat.lt_succ_of_lt (ih hr)

theorem length_of_readLabel? {cs rest : List Char} {l : Label}
    (h : readLabel? cs = some (l, rest)) : rest.length < cs.length := by
  obtain ⟨⟨name, after⟩, hname, h⟩ := Option.bind_eq_some_iff.mp h
  have hafter := length_of_readName? hname
  dsimp only at h
  split at h
  · obtain ⟨⟨value, last⟩, hvalue, h⟩ := Option.map_eq_some_iff.mp h
    cases h
    have hlast : last.length < _ := length_of_readValue? hvalue
    simp only [List.length_cons] at hafter
    show last.length < cs.length
    omega
  · cases h

/-- The labels of a block, up to its closing brace, and what follows. -/
def readLabels? (cs : List Char) : Option (List Label × List Char) :=
  match h : readLabel? cs with
  | some (l, ',' :: rest) =>
    have : rest.length < cs.length := Nat.lt_of_succ_lt (length_of_readLabel? h)
    (readLabels? rest).map fun r ↦ (l :: r.1, r.2)
  | some (l, '}' :: rest) => some ([l], rest)
  | _ => none
termination_by cs.length

/-- A label block, which may be missing, and what follows. -/
def readBlock? : List Char → Option (List Label × List Char)
  | '{' :: rest => readLabels? rest
  | rest => some ([], rest)

/-! ## Numbers

A number is checked and kept as a text.  What it stands for is not the subject here. -/

/-- Digits, possibly with a point between them. -/
def isDecimal (cs : List Char) : Bool :=
  !(cs.takeWhile isDigit).isEmpty &&
    match cs.dropWhile isDigit with
    | [] => true
    | '.' :: fraction => !fraction.isEmpty && fraction.all isDigit
    | _ => false

/-- What follows a minus sign, if there is one. -/
def magnitude : List Char → List Char
  | '-' :: cs => cs
  | cs => cs

/-- A number: a decimal, possibly behind a minus sign, or a word for what is none. -/
def isNumber (cs : List Char) : Bool :=
  cs = "NaN".toList || cs = "+Inf".toList || cs = "-Inf".toList || isDecimal (magnitude cs)

/-! ## Lines

A line is read to its end, and nothing may follow what belongs there. -/

/-- A line of the text. -/
inductive Line where
  | type (name : String) (kind : MetricKind)
  | sample (s : Sample)

/-- How a type line starts. -/
def typeMark : List Char := "# TYPE ".toList

/-- A type line, without its start. -/
def readType? (cs : List Char) : Option Line :=
  (readName? isNameChar cs).bind fun (name, rest) ↦
    match rest with
    | ' ' :: kind => (MetricKind.ofName? (String.ofList kind)).map (.type name)
    | _ => none

/-- A sample. -/
def readSample? (cs : List Char) : Option Line :=
  (readName? isNameChar cs).bind fun (name, rest) ↦
    (readBlock? rest).bind fun (labels, rest) ↦
      match rest with
      | ' ' :: number =>
        if isNumber number then some (.sample ⟨name, labels, String.ofList number⟩) else none
      | _ => none

/-- A line. -/
def readLine? (cs : List Char) : Option Line :=
  if typeMark.isPrefixOf cs then readType? (cs.drop typeMark.length) else readSample? cs

/-- The lines of a text, without their newlines; nothing may follow the last of them. -/
def lines? : List Char → Option (List (List Char))
  | [] => some []
  | c :: cs =>
    (lines? cs).bind fun ls ↦
      if c = '\n' then some ([] :: ls)
      else
        match ls with
        | l :: ls => some ((c :: l) :: ls)
        | [] => none

/-! ## Texts

A text is cut into lines first, then each line is read, then the samples are put to the type line in
front of them. -/

/-- A family as it was read: its type line, and the samples that follow it. -/
structure ReadFamily where
  name : String
  kind : MetricKind
  samples : List Sample

/-- The samples in front of the first type line, and the families. -/
def gather : List Line → List Sample × List ReadFamily
  | [] => ([], [])
  | .sample s :: ls => (s :: (gather ls).1, (gather ls).2)
  | .type name kind :: ls => ([], ⟨name, kind, (gather ls).1⟩ :: (gather ls).2)

/-- Read a text; every sample has to belong to a family. -/
def read? (text : String) : Option (List ReadFamily) :=
  (lines? text.toList).bind fun cs ↦ (cs.mapM readLine?).bind fun ls ↦
    match gather ls with
    | ([], fs) => some fs
    | _ => none

end MetricsAgent.Exposition
