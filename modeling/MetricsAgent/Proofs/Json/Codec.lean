import MetricsAgent.Json.Render
import MetricsAgent.Proofs.Json.Literal

/-!
# JSON texts read back

`Json.parse?_render` says that a value is read back from its own text, whatever it is, as long as
its numbers are literals.  Reading takes two passes, and so does the proof: `Json.tokens` are the
tokens of a value, the lexer finds them in the text of the value, and the builder makes the value of
them.

Both halves are inductions over the value, with one lemma for each kind of list in it, as the
functions that write a value are.  What carries them is a statement with a context: the lexer finds
the tokens of a value behind any tokens that it has found before, and the builder makes a value of
its tokens whatever frames are open around it.

The condition is `Json.IsClean`, that every number is a literal and no part was lost when the value
was read.  What this library writes is always clean, and so is every value that was read from a text
without a broken escape.
-/

set_option autoImplicit false

namespace MetricsAgent.Json

/-! ## The tokens of a value

The text of a value and its tokens are defined side by side.  The tokens are what the two halves of
the proof have in common. -/

mutual

/-- The tokens of a value. -/
def tokens : Json → List Token
  | null => [.null]
  | bool b => [.bool b]
  | number literal => [.number literal]
  | string s => [.string (some s)]
  | array items => .openArray :: tokensItems items ++ [.closeArray]
  | object members => .openObject :: tokensMembers members ++ [.closeObject]
  | broken => [.null]

/-- Items with commas between them. -/
def tokensItems : List Json → List Token
  | [] => []
  | [x] => tokens x
  | x :: y :: rest => tokens x ++ .comma :: tokensItems (y :: rest)

/-- Members with commas between them. -/
def tokensMembers : List (String × Json) → List Token
  | [] => []
  | [(k, v)] => .string (some k) :: .colon :: tokens v
  | (k, v) :: m :: rest =>
    .string (some k) :: .colon :: tokens v ++ .comma :: tokensMembers (m :: rest)

end

mutual

/-- Every number is a literal, and no part was lost when the value was read. -/
def IsClean : Json → Prop
  | broken => False
  | number literal => IsLiteral literal.toList
  | array items => AreClean items
  | object members => MembersClean members
  | _ => True

/-- All items are clean. -/
def AreClean : List Json → Prop
  | [] => True
  | x :: xs => IsClean x ∧ AreClean xs

/-- All members are clean. -/
def MembersClean : List (String × Json) → Prop
  | [] => True
  | (_, v) :: ms => IsClean v ∧ MembersClean ms

end

/-! ## Strings

A character is written by itself, by a letter behind a backslash, or by four digits, and each of the
three is read back by a computation. -/

theorem hexValue?_hexDigit : ∀ n < 16, hexValue? (hexDigit n) = some n := by decide

/-- What has been read of a string without a broken escape in it. -/
def Quoted.ofRead (read : List Char) : Quoted := ⟨read, false, none⟩

theorem push_ofRead (read : List Char) (c : Char) :
    (Quoted.ofRead read).push c = Quoted.ofRead (c :: read) := rfl

/-- A character inside of quotes reads back. -/
theorem lex_escapeChar (read : List Char) (c : Char) (ts : List Token) :
    (escapeChar c).foldlM Lexer.step ⟨.string (.ofRead read), ts⟩ =
      some ⟨.string (.ofRead (c :: read)), ts⟩ := by
  rw [escapeChar]
  split
  · subst_vars; rfl
  split
  · subst_vars; rfl
  split
  · subst_vars; rfl
  split
  · subst_vars; rfl
  split
  · subst_vars; rfl
  split
  · subst_vars; rfl
  split
  · subst_vars; rfl
  split
  · rename_i control
    have high := hexValue?_hexDigit (c.toNat / 16) (by omega)
    have low := hexValue?_hexDigit (c.toNat % 16) (by omega)
    have value : 16 * (c.toNat / 16) + c.toNat % 16 = c.toNat := by omega
    have unit : (Quoted.ofRead read).pushUnit c.toNat = .ofRead (c :: read) := by
      rw [Quoted.pushUnit, if_neg (by omega), if_neg (by omega), Char.ofNat_toNat, push_ofRead]
    have zeros : ['\\', 'u', '0', '0'].foldlM Lexer.step ⟨.string (.ofRead read), ts⟩ =
        some ⟨.unicode (.ofRead read) 2 0, ts⟩ := rfl
    have first : Lexer.step ⟨.unicode (.ofRead read) 2 0, ts⟩ (hexDigit (c.toNat / 16)) =
        some ⟨.unicode (.ofRead read) 1 (c.toNat / 16), ts⟩ := by simp [Lexer.step, high]
    have second :
        Lexer.step ⟨.unicode (.ofRead read) 1 (c.toNat / 16), ts⟩ (hexDigit (c.toNat % 16)) =
          some ⟨.string (.ofRead (c :: read)), ts⟩ := by simp [Lexer.step, low, value, unit]
    show (['\\', 'u', '0', '0'] ++ [hexDigit (c.toNat / 16), hexDigit (c.toNat % 16)]).foldlM _ _ =
      _
    rw [List.foldlM_append, zeros]
    simp [first, second]
  · rename_i quote backslash _ _ _ _ _ visible
    simp only [List.foldlM_cons, List.foldlM_nil, Lexer.step, quote, backslash, visible, if_false]
    rfl

theorem lex_escaped (cs read : List Char) (ts : List Token) :
    (cs.flatMap escapeChar).foldlM Lexer.step ⟨.string (.ofRead read), ts⟩ =
      some ⟨.string (.ofRead (cs.reverse ++ read)), ts⟩ := by
  induction cs generalizing read with
  | nil => rfl
  | cons c cs ih =>
    rw [List.flatMap_cons, List.foldlM_append, lex_escapeChar, Option.bind_eq_bind,
      Option.bind_some, ih, List.reverse_cons, List.append_assoc, List.singleton_append]

/-- A text in quotes reads back. -/
theorem lex_quoted (s : String) (ts : List Token) :
    (quoted s).foldlM Lexer.step ⟨.between, ts⟩ = some ⟨.between, .string (some s) :: ts⟩ := by
  have opening : Lexer.step ⟨.between, ts⟩ '"' = some ⟨.string (.ofRead []), ts⟩ := rfl
  have closing : Lexer.step ⟨.string (.ofRead (s.toList.reverse ++ [])), ts⟩ '"' =
      some ⟨.between, .string (some s) :: ts⟩ := by
    simp [Lexer.step, Quoted.text?, Quoted.settle, Quoted.ofRead]
  rw [quoted, List.cons_append, List.foldlM_cons, opening, Option.bind_eq_bind, Option.bind_some,
    List.foldlM_append, lex_escaped, Option.bind_eq_bind, Option.bind_some,
    List.foldlM_cons, closing]
  rfl

/-! ## The lexer

A word or a number is finished only when a character comes that does not belong to it.
`Lexer.Found` therefore says that the last token may not be known yet to be at its end, and `Lexes`
that this is settled by what comes next, which is always a break between two tokens of a value. -/

/-- The lexer has found tokens, the last of them perhaps without knowing that it is at its end. -/
inductive Lexer.Found (ts : List Token) : Lexer → Prop where
  | between : Found ts ⟨.between, ts⟩
  | word {cs : List Char} {t : Token} {rest : List Token} (h : wordToken? cs.reverse = some t)
    (e : ts = t :: rest) : Found ts ⟨.word cs, rest⟩
  | number {cs : List Char} {t : Token} {rest : List Token} (h : numberToken? cs.reverse = some t)
    (e : ts = t :: rest) : Found ts ⟨.number cs, rest⟩

/-- A character that is part of no word and of no number, and so ends either. -/
def isBreak (c : Char) : Bool := !isAsciiLetter c && !isNumberChar c

theorem Lexer.Found.step {ts : List Token} {l : Lexer} {c : Char} (h : l.Found ts)
    (stop : isBreak c = true) : Lexer.step l c = Lexer.begin? ts c := by
  rw [isBreak, Bool.and_eq_true, Bool.not_eq_true', Bool.not_eq_true'] at stop
  cases h with
  | between => rfl
  | word h e => simp [Lexer.step, stop.1, h, e]
  | number h e => simp [Lexer.step, stop.2, h, e]

theorem Lexer.Found.finish {ts : List Token} {l : Lexer} (h : l.Found ts) :
    l.finish = some ts.reverse := by
  cases h with
  | between => rfl
  | word h e => simp [Lexer.finish, h, e]
  | number h e => simp [Lexer.finish, h, e]

/-- The lexer reads characters after `ts`, and finds tokens there. -/
def Lexes (cs : List Char) (found : List Token) : Prop :=
  ∀ ts, ∃ l, cs.foldlM Lexer.step ⟨.between, ts⟩ = some l ∧ l.Found (found.reverse ++ ts)

theorem Lexes.nil : Lexes [] [] := fun _ ↦ ⟨_, rfl, .between⟩

/-- A character that is a token of its own, in front. -/
theorem Lexes.cons {c : Char} {t : Token} {cs : List Char} {found : List Token} (h : Lexes cs found)
    (symbol : ∀ ts, Lexer.begin? ts c = some ⟨.between, t :: ts⟩) :
    Lexes (c :: cs) (t :: found) := by
  intro ts
  obtain ⟨l, read, l_found⟩ := h (t :: ts)
  refine ⟨l, ?_, by simpa using l_found⟩
  have first : Lexer.step ⟨.between, ts⟩ c = some ⟨.between, t :: ts⟩ := symbol ts
  rw [List.foldlM_cons, first]
  exact read

/-- Characters after a break are read as if they stood alone. -/
theorem Lexes.append {c : Char} {cs rest : List Char} {found found' : List Token}
    (h : Lexes cs found) (h' : Lexes (c :: rest) found') (stop : isBreak c = true) :
    Lexes (cs ++ c :: rest) (found ++ found') := by
  intro ts
  obtain ⟨l, read, l_found⟩ := h ts
  obtain ⟨l', read', l'_found⟩ := h' (found.reverse ++ ts)
  refine ⟨l', ?_, by simpa using l'_found⟩
  rw [List.foldlM_append, read, Option.bind_eq_bind, Option.bind_some]
  rw [List.foldlM_cons] at read' ⊢
  rw [l_found.step stop]
  exact read'

theorem lexes_quoted (s : String) : Lexes (quoted s) [.string (some s)] :=
  fun ts ↦ ⟨_, lex_quoted s ts, .between⟩

theorem lex_numberChars {cs : List Char} (h : ∀ c ∈ cs, isNumberChar c = true) (read : List Char)
    (ts : List Token) : cs.foldlM Lexer.step ⟨.number read, ts⟩ =
      some ⟨.number (cs.reverse ++ read), ts⟩ := by
  induction cs generalizing read with
  | nil => rfl
  | cons c cs ih =>
    obtain ⟨hc, hcs⟩ := List.forall_mem_cons.mp h
    have first : Lexer.step ⟨.number read, ts⟩ c = some ⟨.number (c :: read), ts⟩ := if_pos hc
    rw [List.foldlM_cons, first, Option.bind_eq_bind, Option.bind_some, ih hcs, List.reverse_cons,
      List.append_assoc, List.singleton_append]

/-- A number starts with a sign or a digit, and not with a letter. -/
theorem begin?_number {c : Char} (h : c = '-' ∨ c.isDigit = true) (ts : List Token) :
    Lexer.begin? ts c = some ⟨.number [c], ts⟩ := by
  rcases h with rfl | digit
  · rfl
  · have number := isNumberChar_of_isDigit digit
    rw [Char.isDigit, Bool.and_eq_true, decide_eq_true_eq, decide_eq_true_eq] at digit
    have low : '0'.toNat ≤ c.toNat := UInt32.le_iff_toNat_le.mp digit.1
    have high : c.toNat ≤ '9'.toNat := UInt32.le_iff_toNat_le.mp digit.2
    have below {d : Char} (h : d.toNat < '0'.toNat) : c ≠ d := by rintro rfl; omega
    have above {d : Char} (h : '9'.toNat < d.toNat) : ¬d ≤ c := fun le ↦
      absurd (UInt32.le_iff_toNat_le.mp le) (Nat.not_le_of_lt (Nat.lt_of_le_of_lt high h))
    have space : isSpace c = false := by simp [isSpace, below]
    have letter : isAsciiLetter c = false := by simp [isAsciiLetter, above]
    have quote : c ≠ '"' := below (by decide)
    simp [Lexer.begin?, space, quote, letter, number]

theorem lexes_literal {cs : List Char} (h : IsLiteral cs) :
    Lexes cs [.number (String.ofList cs)] := by
  intro ts
  have token : numberToken? cs = some (.number (String.ofList cs)) := by
    obtain ⟨p, hp⟩ := Option.isSome_iff_exists.mp h.parse?_isSome
    rw [numberToken?, hp, Option.map_some]
  obtain ⟨c, rest, rfl, first⟩ : ∃ c rest, cs = c :: rest ∧ (c = '-' ∨ c.isDigit = true) := by
    cases h with
    | @literal negative ds rest digits lead tail =>
      cases negative with
      | true => exact ⟨_, _, rfl, .inl rfl⟩
      | false =>
        obtain ⟨c, ds, rfl⟩ := List.exists_cons_of_ne_nil digits.nonempty
        exact ⟨_, _, rfl, .inr (digits.digits c List.mem_cons_self)⟩
  have chars := (List.forall_mem_cons.mp (isNumberChar_of_isLiteral h)).2
  refine ⟨⟨.number (rest.reverse ++ [c]), ts⟩, ?_, .number (by simpa using token) rfl⟩
  have begins : Lexer.step ⟨.between, ts⟩ c = some ⟨.number [c], ts⟩ := begin?_number first ts
  rw [List.foldlM_cons, begins, Option.bind_eq_bind, Option.bind_some, lex_numberChars chars]

mutual

/-- **The tokens of a value are found in its text.** -/
theorem lexes_chars : ∀ j : Json, IsClean j → Lexes j.chars (tokens j)
  | null, _ => fun ts ↦ ⟨_, rfl, .word rfl rfl⟩
  | bool true, _ => fun ts ↦ ⟨_, rfl, .word rfl rfl⟩
  | bool false, _ => fun ts ↦ ⟨_, rfl, .word rfl rfl⟩
  | number literal, h => by
    rw [IsClean] at h
    simpa [chars, tokens] using lexes_literal h
  | string s, _ => by
    rw [chars, tokens]
    exact lexes_quoted s
  | array items, h => by
    rw [IsClean] at h
    rw [chars, tokens]
    have closing : Lexes [']'] [.closeArray] := .cons .nil fun _ ↦ rfl
    exact .cons ((lexes_charsItems items h).append closing rfl) fun _ ↦ rfl
  | object members, h => by
    rw [IsClean] at h
    rw [chars, tokens]
    have closing : Lexes ['}'] [.closeObject] := .cons .nil fun _ ↦ rfl
    exact .cons ((lexes_charsMembers members h).append closing rfl) fun _ ↦ rfl
  | broken, h => by
    rw [IsClean] at h
    exact h.elim

theorem lexes_charsItems : ∀ items : List Json, AreClean items →
    Lexes (charsItems items) (tokensItems items)
  | [], _ => by
    rw [charsItems, tokensItems]
    exact .nil
  | [x], h => by
    rw [AreClean] at h
    rw [charsItems, tokensItems]
    exact lexes_chars x h.1
  | x :: y :: rest, h => by
    rw [AreClean] at h
    rw [charsItems, tokensItems]
    exact (lexes_chars x h.1).append (.cons (lexes_charsItems (y :: rest) h.2) fun _ ↦ rfl) rfl

theorem lexes_charsMembers : ∀ members : List (String × Json), MembersClean members →
    Lexes (charsMembers members) (tokensMembers members)
  | [], _ => by
    rw [charsMembers, tokensMembers]
    exact .nil
  | [(k, v)], h => by
    rw [MembersClean] at h
    rw [charsMembers, tokensMembers]
    exact (lexes_quoted k).append (.cons (lexes_chars v h.1) fun _ ↦ rfl) rfl
  | (k, v) :: m :: rest, h => by
    rw [MembersClean] at h
    rw [charsMembers, tokensMembers, List.append_assoc, List.cons_append]
    have others : Lexes (',' :: charsMembers (m :: rest)) (.comma :: tokensMembers (m :: rest)) :=
      .cons (lexes_charsMembers (m :: rest) h.2) fun _ ↦ rfl
    exact (lexes_quoted k).append (.cons ((lexes_chars v h.1).append others rfl) fun _ ↦ rfl) rfl

end

theorem tokens?_chars {j : Json} (h : IsClean j) : tokens? j.chars = some (tokens j) := by
  obtain ⟨l, read, found⟩ := lexes_chars j h []
  rw [tokens?, read, Option.bind_some, found.finish, List.append_nil, List.reverse_reverse]

/-! ## The builder

In front of a value the builder may expect a value, or a value or the end of an array.  No value
begins with that end (`exists_tokens_eq_cons`), so the two are alike. -/

/-- A value does not start with the end of an array. -/
theorem exists_tokens_eq_cons (j : Json) : ∃ t ts, tokens j = t :: ts ∧ t ≠ .closeArray := by
  cases j <;> rw [tokens] <;> exact ⟨_, _, rfl, by simp⟩

/-- After the start of an array, the first item is a value like any other. -/
theorem foldlM_valueOrClose (j : Json) (frames : List Frame) :
    (tokens j).foldlM Builder.step ⟨frames, .valueOrClose⟩ =
      (tokens j).foldlM Builder.step ⟨frames, .value⟩ := by
  obtain ⟨t, ts, e, other⟩ := exists_tokens_eq_cons j
  have step : Builder.step ⟨frames, .valueOrClose⟩ t = Builder.step ⟨frames, .value⟩ t := by
    cases t <;> first | rfl | exact absurd rfl other
  rw [e, List.foldlM_cons, List.foldlM_cons, step]

mutual

/-- **A value is built from its tokens.** -/
theorem build_tokens : ∀ j : Json, IsClean j → ∀ frames,
    (tokens j).foldlM Builder.step ⟨frames, .value⟩ = Builder.complete frames j
  | null, _, frames => by
    rw [tokens]
    exact bind_pure _
  | bool b, _, frames => by
    rw [tokens]
    exact bind_pure _
  | number literal, _, frames => by
    rw [tokens]
    exact bind_pure _
  | string s, _, frames => by
    rw [tokens]
    exact bind_pure _
  | array [], _, frames => by
    rw [tokens, tokensItems]
    show Builder.complete frames (.array []) >>= pure = _
    exact bind_pure _
  | array (x :: xs), h, frames => by
    rw [IsClean] at h
    have opening : Builder.step ⟨frames, .value⟩ .openArray =
        some ⟨.array [] :: frames, .valueOrClose⟩ := rfl
    -- After the bracket a closing one would be allowed too, but the first item is no bracket that
    -- closes.
    have first : (tokensItems (x :: xs)).foldlM Builder.step ⟨.array [] :: frames, .valueOrClose⟩ =
        (tokensItems (x :: xs)).foldlM Builder.step ⟨.array [] :: frames, .value⟩ := by
      cases xs <;> simp only [tokensItems, List.foldlM_append, foldlM_valueOrClose]
    rw [tokens, List.cons_append, List.foldlM_cons, opening, Option.bind_eq_bind, Option.bind_some,
      List.foldlM_append, first, build_tokensItems (x :: xs) (List.cons_ne_nil _ _) h,
      Option.bind_eq_bind, Option.bind_some, List.append_nil]
    refine (bind_pure _).trans ?_
    show Builder.complete frames (.array (x :: xs).reverse.reverse) = _
    rw [List.reverse_reverse]
  | object [], _, frames => by
    rw [tokens, tokensMembers]
    show Builder.complete frames (.object []) >>= pure = _
    exact bind_pure _
  | object (m :: ms), h, frames => by
    rw [IsClean] at h
    have opening : Builder.step ⟨frames, .value⟩ .openObject =
        some ⟨.object [] false :: frames, .keyOrClose⟩ := rfl
    have first : (tokensMembers (m :: ms)).foldlM Builder.step
          ⟨.object [] false :: frames, .keyOrClose⟩ =
        (tokensMembers (m :: ms)).foldlM Builder.step ⟨.object [] false :: frames, .key⟩ := by
      cases ms <;> rfl
    rw [tokens, List.cons_append, List.foldlM_cons, opening, Option.bind_eq_bind, Option.bind_some,
      List.foldlM_append, first, build_tokensMembers (m :: ms) (List.cons_ne_nil _ _) h,
      Option.bind_eq_bind, Option.bind_some, List.append_nil]
    refine (bind_pure _).trans ?_
    show Builder.complete frames (.object (m :: ms).reverse.reverse) = _
    rw [List.reverse_reverse]
  | broken, h, _ => by
    rw [IsClean] at h
    exact h.elim

theorem build_tokensItems : ∀ items : List Json, items ≠ [] → AreClean items → ∀ frames acc,
    (tokensItems items).foldlM Builder.step ⟨.array acc :: frames, .value⟩ =
      some ⟨.array (items.reverse ++ acc) :: frames, .separator⟩
  | [], nonempty, _, _, _ => absurd rfl nonempty
  | [x], _, h, frames, acc => by
    rw [AreClean] at h
    rw [tokensItems, build_tokens x h.1]
    rfl
  | x :: y :: ys, _, h, frames, acc => by
    rw [AreClean] at h
    have comma : Builder.step ⟨.array (x :: acc) :: frames, .separator⟩ .comma =
        some ⟨.array (x :: acc) :: frames, .value⟩ := rfl
    rw [tokensItems, List.foldlM_append, build_tokens x h.1, Builder.complete, Option.bind_eq_bind,
      Option.bind_some, List.foldlM_cons, comma, Option.bind_eq_bind, Option.bind_some,
      build_tokensItems (y :: ys) (List.cons_ne_nil _ _) h.2]
    simp

theorem build_tokensMembers : ∀ members : List (String × Json), members ≠ [] →
    MembersClean members → ∀ frames acc,
    (tokensMembers members).foldlM Builder.step ⟨.object acc false :: frames, .key⟩ =
      some ⟨.object (members.reverse ++ acc) false :: frames, .separator⟩
  | [], nonempty, _, _, _ => absurd rfl nonempty
  | [(k, v)], _, h, frames, acc => by
    rw [MembersClean] at h
    rw [tokensMembers]
    exact build_tokens v h.1 (.member acc false (some k) :: frames)
  | (k, v) :: m :: ms, _, h, frames, acc => by
    rw [MembersClean] at h
    have member : (.string (some k) :: .colon :: tokens v).foldlM Builder.step
          ⟨.object acc false :: frames, .key⟩ =
        some ⟨.object ((k, v) :: acc) false :: frames, .separator⟩ :=
      build_tokens v h.1 (.member acc false (some k) :: frames)
    have comma : Builder.step ⟨.object ((k, v) :: acc) false :: frames, .separator⟩ .comma =
        some ⟨.object ((k, v) :: acc) false :: frames, .key⟩ := rfl
    rw [tokensMembers, List.foldlM_append, member, Option.bind_eq_bind, Option.bind_some,
      List.foldlM_cons, comma, Option.bind_eq_bind, Option.bind_some,
      build_tokensMembers (m :: ms) (List.cons_ne_nil _ _) h.2]
    simp

end

/-- **A value reads back from its text.** -/
theorem parse?_render {j : Json} (h : IsClean j) : parse? j.render = some j := by
  rw [parse?, render, String.toList_ofList, tokens?_chars h, Option.bind_some, ofTokens?,
    build_tokens j h]
  rfl

end MetricsAgent.Json
