import Mathlib.Data.List.Forall2
import Mathlib.Data.List.TakeWhile
import MetricsAgent.Config.Template

/-!
# How a template expands

`Template.parts` reads a text from left to right and goes on behind each reference that it finds.
What it finds is said here without a reader: a text has one division into references and literals in
which no reference begins at a literal (`Template.IsSplit`), and expanding the text writes for each
part of this division what the part stands for, and nothing else (`Template.expands_in_one_pass`).

Two things that one wants of an expansion are consequences.  What a variable holds is never looked
at again, whatever references it may contain, since the division is one of the text before anything
is replaced.  And the result depends on the environment only through the variables that the text
names (`expand_part_congr`).

A variable that is not set and has no fallback stands for nothing.  `StandsFor` has a constructor
for each of the four cases, and is a relation so that it can be read without the function.
-/

set_option autoImplicit false

namespace MetricsAgent

namespace VariableReference

/-- The name of a reference begins with a letter or an underscore and goes on with these and digits,
and its fallback is free of closing braces. -/
structure IsWellFormed (r : VariableReference) : Prop where
  name : ∃ c cs, r.name = c :: cs ∧ isNameStart c = true ∧ ∀ d ∈ cs, isNameChar d = true
  fallback : ∀ f ∈ r.fallback, '}' ∉ f

variable {r : VariableReference} {cs rest : List Char}

/-! ## Reading a reference

Reading and writing a reference are inverse to each other with any text behind it
(`read?_eq_some_iff`).  A fallback is read up to the first closing brace, so it cannot hold one. -/

/-- Characters of a kind are read up to the first one that is of another. -/
theorem span_append_cons {p : Char → Bool} (goes : ∀ d ∈ cs, p d = true) (stop : Char)
    (stops : p stop = false) (rest : List Char) :
    (cs ++ stop :: rest).takeWhile p = cs ∧ (cs ++ stop :: rest).dropWhile p = stop :: rest := by
  have stays : ¬p stop = true := Bool.eq_false_iff.mp stops
  rw [List.takeWhile_append_of_pos goes, List.dropWhile_append_of_pos goes,
    List.takeWhile_cons_of_neg stays, List.dropWhile_cons_of_neg stays, List.append_nil]
  exact ⟨rfl, rfl⟩

/-- A fallback is read up to the first closing brace. -/
theorem span_fallback (free : '}' ∉ cs) (rest : List Char) :
    (cs ++ '}' :: rest).takeWhile (· ≠ '}') = cs ∧
      (cs ++ '}' :: rest).dropWhile (· ≠ '}') = '}' :: rest :=
  span_append_cons (fun _ hd ↦ decide_eq_true (ne_of_mem_of_not_mem hd free)) '}' rfl rest

/-- **What is written is read back**, whatever follows. -/
theorem IsWellFormed.read?_text_append (h : r.IsWellFormed) (rest : List Char) :
    read? (r.text ++ rest) = some (r, rest) := by
  obtain ⟨name, fallback⟩ := r
  obtain ⟨c, cs, rfl, starts, continues⟩ := h.name
  cases fallback with
  | none =>
    obtain ⟨taken, left⟩ := span_append_cons continues '}' rfl rest
    have written : text ⟨c :: cs, none⟩ ++ rest = '$' :: '{' :: c :: (cs ++ '}' :: rest) := by
      simp [text]
    rw [written, read?, if_pos starts, taken, left]
    rfl
  | some f =>
    obtain ⟨taken, left⟩ := span_append_cons continues ':' rfl ('-' :: (f ++ '}' :: rest))
    obtain ⟨inside, behind⟩ := span_fallback (h.fallback f rfl) rest
    have written : text ⟨c :: cs, some f⟩ ++ rest =
        '$' :: '{' :: c :: (cs ++ ':' :: '-' :: (f ++ '}' :: rest)) := by simp [text]
    rw [written, read?, if_pos starts, taken, left]
    simp only [inside, behind]

/-- Where the fallback stops, there is a closing brace, and there is none before it. -/
theorem fallback_of_dropWhile {stop : Char} (behind : cs.dropWhile (· ≠ '}') = stop :: rest) :
    '}' ∉ cs.takeWhile (· ≠ '}') ∧ cs = cs.takeWhile (· ≠ '}') ++ '}' :: rest := by
  have whole := List.takeWhile_append_dropWhile (p := fun d : Char ↦ decide (d ≠ '}')) (l := cs)
  have stops := List.head?_dropWhile_not (fun d : Char ↦ decide (d ≠ '}')) cs
  rw [behind] at whole stops
  obtain rfl : stop = '}' := by simpa using stops
  exact ⟨fun closing ↦ by simpa using List.mem_takeWhile_imp closing, whole.symm⟩

/-- **What is read was written.** -/
theorem isWellFormed_of_read? (h : read? cs = some (r, rest)) :
    r.IsWellFormed ∧ cs = r.text ++ rest := by
  unfold read? at h
  split at h
  · rename_i c cs
    split at h
    · rename_i starts
      have whole := List.takeWhile_append_dropWhile (p := isNameChar) (l := cs)
      have name : ∃ d ds, c :: cs.takeWhile isNameChar = d :: ds ∧ isNameStart d = true ∧
          ∀ e ∈ ds, isNameChar e = true := ⟨c, _, rfl, starts, fun _ ↦ List.mem_takeWhile_imp⟩
      dsimp only at h
      split at h
      · rename_i left
        cases h
        rw [left] at whole
        exact ⟨⟨name, fun f hf ↦ nomatch hf⟩, by simp [text, whole]⟩
      · rename_i ds left
        rw [left] at whole
        split at h
        · rename_i behind
          cases h
          obtain ⟨free, inside⟩ := fallback_of_dropWhile behind
          rw [inside] at whole
          refine ⟨⟨name, fun f hf ↦ ?_⟩, by simpa [text] using whole.symm⟩
          cases hf
          exact free
        · cases h
      · cases h
    · cases h
  · cases h

/-- **Reading undoes writing**, and accepts nothing else. -/
theorem read?_eq_some_iff : read? cs = some (r, rest) ↔ r.IsWellFormed ∧ cs = r.text ++ rest := by
  refine ⟨isWellFormed_of_read?, ?_⟩
  rintro ⟨h, rfl⟩
  exact h.read?_text_append rest

end VariableReference

namespace Template

/-- A text divided into references and literal characters; a longer literal is a run of them, so
that there is no question where one of two literals side by side ends. -/
structure IsSplit (cs : List Char) (ps : List TemplatePart) : Prop where
  spelled : ps.flatMap TemplatePart.text = cs
  wellFormed : ∀ r, .reference r ∈ ps → r.IsWellFormed
  /-- Where a literal stands in the text, no reference begins. -/
  literal : ∀ before c after, ps = before ++ .literal c :: after →
    ∀ (r : VariableReference) rest, r.IsWellFormed →
      c :: after.flatMap TemplatePart.text ≠ r.text ++ rest

/-- What a part stands for in an environment. -/
inductive StandsFor (env : String → Option String) : TemplatePart → List Char → Prop where
  | itself (c : Char) : StandsFor env (.literal c) [c]
  | value (r : VariableReference) (v : String) (holds : env (String.ofList r.name) = some v) :
    StandsFor env (.reference r) v.toList
  | fallback (r : VariableReference) (f : List Char) (unset : env (String.ofList r.name) = none)
    (given : r.fallback = some f) : StandsFor env (.reference r) f
  | nothing (r : VariableReference) (unset : env (String.ofList r.name) = none)
    (absent : r.fallback = none) : StandsFor env (.reference r) []

variable {cs rest : List Char} {ps : List TemplatePart} {r : VariableReference} {c : Char}

/-! ## The division of a text

That the reader finds a division is an induction over the reader; that there is no other one is an
induction over the division. -/

theorem parts_of_read? (h : VariableReference.read? cs = some (r, rest)) :
    parts cs = .reference r :: parts rest := by
  rw [parts]
  split
  · rename_i r' rest' h'
    cases h.symm.trans h'
    rfl
  · rename_i h'
    cases h.symm.trans h'

theorem parts_cons (h : VariableReference.read? (c :: cs) = none) :
    parts (c :: cs) = .literal c :: parts cs := by
  rw [parts]
  split
  · rename_i h'
    cases h.symm.trans h'
  · rfl

theorem parts_nil : parts [] = [] := by
  rw [parts]
  rfl

/-- No reference begins where none is read. -/
theorem read?_eq_none_iff : VariableReference.read? cs = none ↔
    ∀ (r : VariableReference) rest, r.IsWellFormed → cs ≠ r.text ++ rest := by
  rw [Option.eq_none_iff_forall_ne_some]
  constructor
  · intro unread r rest wf here
    exact unread (r, rest) (VariableReference.read?_eq_some_iff.mpr ⟨wf, here⟩)
  · rintro none ⟨r, rest⟩ read
    obtain ⟨wf, here⟩ := VariableReference.read?_eq_some_iff.mp read
    exact none r rest wf here

theorem IsSplit.tail {p : TemplatePart} (h : IsSplit cs (p :: ps)) :
    IsSplit (ps.flatMap TemplatePart.text) ps where
  spelled := rfl
  wellFormed r hr := h.wellFormed r (List.mem_cons_of_mem _ hr)
  literal before c after e := h.literal (p :: before) c after (congrArg (p :: ·) e)

/-- The parts that are read are a division of the text. -/
theorem isSplit_parts (cs : List Char) : IsSplit cs (parts cs) := by
  induction cs using parts.induct with
  | case1 cs r rest read ih =>
    obtain ⟨wf, rfl⟩ := VariableReference.read?_eq_some_iff.mp read
    rw [parts_of_read? read]
    refine ⟨congrArg (r.text ++ ·) ih.spelled, ?_, fun before c after e ↦ ?_⟩
    · rintro r' (_ | ⟨_, there⟩)
      · exact wf
      · exact ih.wellFormed r' there
    · cases before with
      | nil => cases e
      | cons p before => exact ih.literal before c after (List.cons.inj e).2
  | case2 unread =>
    rw [parts_nil]
    exact ⟨rfl, fun r hr ↦ (nomatch hr), fun before c after e ↦ absurd e (by simp)⟩
  | case3 c cs unread ih =>
    rw [parts_cons unread]
    refine ⟨congrArg (c :: ·) ih.spelled, ?_, fun before c' after e ↦ ?_⟩
    · rintro r' (_ | ⟨_, there⟩)
      exact ih.wellFormed r' there
    · cases before with
      | nil =>
        cases e
        rw [ih.spelled]
        exact read?_eq_none_iff.mp unread
      | cons p before => exact ih.literal before c' after (List.cons.inj e).2

/-- **There is no other division.** -/
theorem IsSplit.eq_parts (h : IsSplit cs ps) : ps = parts cs := by
  induction ps generalizing cs with
  | nil =>
    obtain rfl : [] = cs := h.spelled
    exact parts_nil.symm
  | cons p ps ih =>
    have later := ih h.tail
    obtain rfl := h.spelled
    cases p with
    | literal c =>
      have unread : VariableReference.read? (c :: ps.flatMap TemplatePart.text) = none :=
        read?_eq_none_iff.mpr (h.literal [] c ps rfl)
      exact (congrArg (TemplatePart.literal c :: ·) later).trans (parts_cons unread).symm
    | reference r =>
      have read :=
        (h.wellFormed r List.mem_cons_self).read?_text_append (ps.flatMap TemplatePart.text)
      exact (congrArg (TemplatePart.reference r :: ·) later).trans (parts_of_read? read).symm

/-! ## What is written for it

Each part is replaced by itself, and the results are put one behind the other. -/

theorem standsFor_expand (env : String → Option String) (p : TemplatePart) :
    StandsFor env p (p.expand env) := by
  cases p with
  | literal c => exact .itself c
  | reference r =>
    rw [TemplatePart.expand]
    cases holds : env (String.ofList r.name) with
    | some v => exact .value r v holds
    | none =>
      cases given : r.fallback with
      | some f => exact .fallback r f holds given
      | none => exact .nothing r holds given

/-- A part looks at no variable but its own. -/
theorem expand_part_congr {env env' : String → Option String} {p : TemplatePart}
    (same : ∀ r, p = .reference r → env (String.ofList r.name) = env' (String.ofList r.name)) :
    p.expand env = p.expand env' := by
  cases p with
  | literal c => rfl
  | reference r => rw [TemplatePart.expand, TemplatePart.expand, same r rfl]

/-- **A text is expanded in one pass**: it has exactly one division into literals and references,
and for each part of this division there is written what it stands for.  What is written is not
looked at again, so that no variable matters that no reference of the text names. -/
theorem expands_in_one_pass (text : String) :
    ∃ ps, IsSplit text.toList ps ∧ (∀ qs, IsSplit text.toList qs → qs = ps) ∧
      (∀ env, ∃ written, List.Forall₂ (StandsFor env) ps written ∧
        (expand env text).toList = written.flatten) ∧
      ∀ env env' : String → Option String,
        (∀ r, .reference r ∈ ps → env (String.ofList r.name) = env' (String.ofList r.name)) →
          expand env text = expand env' text := by
  refine ⟨parts text.toList, isSplit_parts _, fun qs h ↦ h.eq_parts, fun env ↦ ?_,
    fun env env' same ↦ ?_⟩
  · refine ⟨(parts text.toList).map (·.expand env), ?_, ?_⟩
    · rw [List.forall₂_map_right_iff, List.forall₂_same]
      exact fun p _ ↦ standsFor_expand env p
    · rw [expand, String.toList_ofList, List.flatMap_def]
  · rw [expand, expand, List.flatMap_def, List.flatMap_def]
    congr 2
    refine List.map_congr_left fun p hp ↦ expand_part_congr ?_
    rintro r rfl
    exact same r hp

/-- A fallback ends at the first closing brace, and what a variable holds is not expanded. -/
example : expand (fun _ ↦ some "$\x7bB\x7d") "$\x7bA:-$\x7bB\x7d\x7d" = "$\x7bB\x7d\x7d" := by cbv

end Template

end MetricsAgent
