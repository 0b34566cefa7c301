import Reckon.Proofs.Segments

/-!
# Texts put together

Two laws of the lexer about texts that are put together from parts.

* `from_shift`: a text at another place has the same tokens and faults, at other places.
* `tokens_newline`: **the lexer starts anew after each newline**, whatever stands before it.
* `Token.Delimited`, `delimited_of_mem`: every token can be read without its neighbours.
* `tokens_spaced`: **the lexemes of a text, with blanks between them, are its tokens**.
-/

namespace Reckon

/-! ## Texts at another place -/

theorem front_shift (k start : Nat) (c : Char) (rest : Text) :
    (front (start + k) c rest).token? = (front start c rest).token?.map (Token.shift k) ∧
      (front (start + k) c rest).diagnostics =
        (front start c rest).diagnostics.map (Diagnostic.shift k) := by
  rw [front, front, recognize_shift]
  obtain ⟨n, content, escapes⟩ := recognize start c rest
  cases content <;>
    exact ⟨rfl, by simp [Segment.diagnostics, Segment.fault?, Found.shift, Content.shift]⟩

/-- The place of a text changes nothing of its tokens and faults but their places. -/
theorem from_shift (k start : Nat) (s : Text) :
    tokensFrom (start + k) s = (tokensFrom start s).map (Token.shift k) ∧
      faultsFrom (start + k) s = (faultsFrom start s).map (Diagnostic.shift k) := by
  match s with
  | [] => simp
  | c :: rest =>
    obtain ⟨htoken, hfaults⟩ := front_shift k start c rest
    have hlength : (recognize (start + k) c rest).length = (recognize start c rest).length := by
      rw [recognize_shift]
      rfl
    obtain ⟨hlater, hmore⟩ := from_shift k (start + (recognize start c rest).length)
      ((c :: rest).drop (recognize start c rest).length)
    rw [tokensFrom_cons, tokensFrom_cons start, faultsFrom_cons, faultsFrom_cons start, hlength,
      Nat.add_right_comm, htoken, hfaults, hlater, hmore]
    refine ⟨?_, by rw [List.map_append]⟩
    rw [List.map_append, Option.toList_map]
termination_by s.length
decreasing_by
  have := length_recognize_pos start c rest
  simp only [List.length_drop, List.length_cons]
  omega

/-! ## Lines -/

/-- What is taken is a part of the text. -/
theorem length_recognize_le (start : Nat) (c : Char) (rest : Text) :
    (recognize start c rest).length ≤ (c :: rest).length := by
  obtain ⟨body, after, hrest, hlength, -⟩ := piece_front start c rest
  rw [hlength, hrest, List.length_cons, List.length_append]
  omega

/-- A text and a line after it are read one after the other. -/
theorem from_newline (start : Nat) (a b : Text) :
    tokensFrom start (a ++ '\n' :: b) =
        tokensFrom start a ++ tokensFrom (start + (a.length + 1)) b ∧
      faultsFrom start (a ++ '\n' :: b) =
        faultsFrom start a ++ faultsFrom (start + (a.length + 1)) b := by
  match a with
  | [] =>
    obtain ⟨htokens, hfaults⟩ := from_of_isSpace (c := '\n') rfl start b
    rw [List.nil_append, htokens, hfaults]
    simp
  | c :: rest =>
    by_cases hc : isSpace c = true
    · obtain ⟨htokens, hfaults⟩ := from_of_isSpace hc start (rest ++ '\n' :: b)
      obtain ⟨htokens', hfaults'⟩ := from_of_isSpace hc start rest
      obtain ⟨hlater, hmore⟩ := from_newline (start + 1) rest b
      have hoffset : start + 1 + (rest.length + 1) = start + ((c :: rest).length + 1) := by
        rw [List.length_cons]
        omega
      rw [List.cons_append, htokens, hfaults, htokens', hfaults', hlater, hmore, hoffset]
      exact ⟨rfl, rfl⟩
    · have hsame := recognize_append_newline (by simpa using hc) start rest b
      have hle := length_recognize_le start c rest
      have hfront : front start c (rest ++ '\n' :: b) = front start c rest := by
        rw [front, front, hsame, ← List.cons_append, List.take_append_of_le_length hle]
      have hdrop : (c :: (rest ++ '\n' :: b)).drop (recognize start c rest).length =
          (c :: rest).drop (recognize start c rest).length ++ '\n' :: b := by
        rw [← List.cons_append, List.drop_append_of_le_length hle]
      obtain ⟨hlater, hmore⟩ := from_newline (start + (recognize start c rest).length)
        ((c :: rest).drop (recognize start c rest).length) b
      have hoffset : start + (recognize start c rest).length +
          (((c :: rest).drop (recognize start c rest).length).length + 1) =
            start + ((c :: rest).length + 1) := by
        rw [List.length_drop]
        omega
      rw [hoffset] at hlater hmore
      rw [List.cons_append, tokensFrom_cons, faultsFrom_cons, hsame, hfront, hdrop, hlater, hmore,
        tokensFrom_cons start c rest, faultsFrom_cons start c rest, List.append_assoc,
        List.append_assoc]
      exact ⟨rfl, rfl⟩
termination_by a.length
decreasing_by
  · simp
  · have := length_recognize_pos start c rest
    simp only [List.length_drop, List.length_cons]
    omega

/-- **The lexer starts anew after each newline.** Whatever the text `a` is, and however malformed,
the tokens and faults of `a`, a newline and `b` are those of `a`, and those of `b` further on. -/
theorem tokens_newline (a b : Text) :
    tokens (a ++ '\n' :: b) = tokens a ++ (tokens b).map (Token.shift (a.length + 1)) ∧
      lexicalDiagnostics (a ++ '\n' :: b) =
        lexicalDiagnostics a ++ (lexicalDiagnostics b).map (Diagnostic.shift (a.length + 1)) := by
  obtain ⟨htokens, hfaults⟩ := from_newline 0 a b
  obtain ⟨hlater, hmore⟩ := from_shift (a.length + 1) 0 b
  rw [hlater] at htokens
  rw [hmore] at hfaults
  exact ⟨htokens, hfaults⟩

/-! ## Tokens without their neighbours -/

/-- A token begins with a quote if and only if it is a literal in quotes. -/
theorem isQuoted_eq_isQuote {start : Nat} {c : Char} {rest : Text} {kind : Kind}
    {value : Option Literal} (h : (recognize start c rest).content = .token kind value) :
    kind.isQuoted = isQuote c := by
  by_cases hquote : isQuote c = true
  · rw [hquote]
    simp only [isQuote, Bool.or_eq_true, decide_eq_true_eq] at hquote
    rcases hquote with rfl | rfl
    · rcases readString_content start 1 [] [] rest with h' | ⟨v, h'⟩ <;> cases h'.symm.trans h
      rfl
    · rcases readChar_content start rest with ⟨fault, h'⟩ | ⟨v, h'⟩ <;> cases h'.symm.trans h
      rfl
  · rw [Bool.not_eq_true] at hquote
    rw [hquote]
    cases lead c with
    | blank hc =>
      rw [recognize_of_isSpace hc] at h
      cases h
    | string hc | char hc =>
      subst hc
      cases hquote
    | digit hc =>
      rw [recognize_of_isDigit hc] at h
      rcases foundNumber_content start (c :: rest) with ⟨fault, h'⟩ | ⟨v, hv, h'⟩ <;>
        cases h'.symm.trans h
      exact hv.1
    | sign hc =>
      rw [recognize_of_separator hc, foundSign] at h
      split at h
      · rename_i hlong _
        cases h
        exact (Kind.of_ofAssigning? hlong).2.1
      · cases h
        exact (Kind.of_ofSeparator? hc).1
    | word hc hdigit =>
      rw [recognize_of_word hc hdigit] at h
      cases h
      exact (Kind.ofWord?_getD _).2.1

/-- The unknown escapes in a token. A backslash in a word is none. -/
def Token.escapes (t : Token) : List Diagnostic :=
  if t.kind.isQuoted then unknownEscapes t.position t.lexeme else []

/-- The token is read wherever its lexeme stands, if a blank or nothing follows. -/
def Token.Delimited (t : Token) : Prop :=
  ∃ c body, t.lexeme = c :: body ∧ ∀ start after, AtBlank after →
    recognize start c (body ++ after) =
      ⟨t.lexeme.length, .token t.kind t.value, (t.moveTo start).escapes⟩

/-- Every token of a text can be read without its neighbours. -/
theorem delimited_of_mem {start : Nat} {s : Text} {t : Token} (h : t ∈ tokensFrom start s) :
    t.Delimited := by
  obtain ⟨before, c, rest, -, -, hlexeme, hcontent⟩ := mem_tokensFrom h
  have hquoted := isQuoted_eq_isQuote hcontent
  have hc : isSpace c = false := by
    by_contra hspace
    rw [recognize_of_isSpace (by simpa using hspace)] at hcontent
    cases hcontent
  -- the token is the same at the offset zero, and from there at every other
  have hshift : recognize t.position c rest = (recognize 0 c rest).shift t.position := by
    rw [← recognize_shift, Nat.zero_add]
  rw [hshift] at hlexeme hcontent
  have hzero := Content.shift_eq_token_iff.1 hcontent
  obtain ⟨body, after, hcut, hescapes⟩ := recognize_cut hc 0 rest
  have hbody : t.lexeme = c :: body := by
    rw [hlexeme, Found.shift, hcut.length, Nat.add_comm, List.take_succ_cons, hcut.split,
      List.take_left]
  refine ⟨c, body, hbody, fun start tail htail => ?_⟩
  have hmoved : (t.moveTo start).escapes =
      (if isQuote c then unknownEscapes 0 (c :: body) else []).map (Diagnostic.shift start) := by
    rw [Token.escapes, Token.moveTo, hquoted, hbody]
    split
    · rw [← unknownEscapes_shift, Nat.zero_add]
    · rfl
  rw [← Nat.zero_add start, recognize_shift, hcut.closed _ _ hzero tail htail, Found.shift,
    hcut.length, hzero, hescapes, Nat.zero_add, hmoved, hbody, List.length_cons, Nat.add_comm]
  rfl

/-! ## Lexemes with blanks between them -/

/-- Blanks at the front of a text change no token and no fault of it. -/
theorem from_of_blanks {w : Text} (h : ∀ c ∈ w, isSpace c = true) (start : Nat) (s : Text) :
    tokensFrom start (w ++ s) = tokensFrom (start + w.length) s ∧
      faultsFrom start (w ++ s) = faultsFrom (start + w.length) s := by
  induction w generalizing start with
  | nil => exact ⟨rfl, rfl⟩
  | cons c w ih =>
    obtain ⟨htokens, hfaults⟩ := from_of_isSpace (h c List.mem_cons_self) start (w ++ s)
    obtain ⟨hlater, hmore⟩ := ih (fun d hd => h d (List.mem_cons_of_mem c hd)) (start + 1)
    have hoffset : start + 1 + w.length = start + (c :: w).length := by
      rw [List.length_cons]
      omega
    rw [List.cons_append, htokens, hfaults, hlater, hmore, hoffset]
    exact ⟨rfl, rfl⟩

/-- A token that can be read without its neighbours comes first where a blank or nothing follows. -/
theorem Token.Delimited.from_lexeme {t : Token} (h : t.Delimited) {after : Text}
    (hafter : AtBlank after) (start : Nat) :
    tokensFrom start (t.lexeme ++ after) =
        t.moveTo start :: tokensFrom (start + t.lexeme.length) after ∧
      faultsFrom start (t.lexeme ++ after) =
        (t.moveTo start).escapes ++ faultsFrom (start + t.lexeme.length) after := by
  obtain ⟨c, body, hlexeme, hread⟩ := h
  have hfound := hread start after hafter
  have hsplit : c :: (body ++ after) = t.lexeme ++ after := by rw [hlexeme, List.cons_append]
  rw [hlexeme, List.cons_append, tokensFrom_cons, faultsFrom_cons, front, hfound, hsplit,
    List.take_left, List.drop_left, ← hlexeme, Segment.diagnostics]
  refine ⟨rfl, ?_⟩
  rw [Segment.fault?, Option.toList_none, List.append_nil]

/-- The lexemes of the tokens, each with a gap after it. -/
def spaced : List Token → List Text → Text
  | t :: ts, gap :: gaps => t.lexeme ++ (gap ++ spaced ts gaps)
  | _, _ => []

/-- After a token comes a blank or, after the last one, nothing. -/
theorem atBlank_gap {gap : Text} {gaps : List Text} (hblank : ∀ c ∈ gap, isSpace c = true)
    (hgap : gap = [] → gaps = []) (ts : List Token) : AtBlank (gap ++ spaced ts gaps) := by
  rcases gap with _ | ⟨c, gap⟩
  · rw [hgap rfl]
    intro d hd
    rcases ts with _ | ⟨t, ts⟩ <;> cases hd
  · intro d hd
    obtain rfl := Option.some.inj hd
    exact hblank c List.mem_cons_self

theorem from_spaced {ts : List Token} (h : ∀ t ∈ ts, t.Delimited) {gaps : List Text}
    (hcount : gaps.length = ts.length) (hblank : ∀ gap ∈ gaps, ∀ c ∈ gap, isSpace c = true)
    (hgaps : ∀ gap ∈ gaps.dropLast, gap ≠ []) (start : Nat) :
    ((tokensFrom start (spaced ts gaps)).map fun t => (t.kind, t.lexeme, t.value)) =
        (ts.map fun t => (t.kind, t.lexeme, t.value)) ∧
      faultsFrom start (spaced ts gaps) =
        (tokensFrom start (spaced ts gaps)).flatMap Token.escapes := by
  induction ts generalizing gaps start with
  | nil => simp [spaced]
  | cons t ts ih =>
    rcases gaps with _ | ⟨gap, gaps⟩
    · cases hcount
    · have hgap : gap = [] → gaps = [] := by
        intro hnil
        rcases gaps with _ | ⟨next, gaps⟩
        · rfl
        · exact absurd hnil (hgaps gap List.mem_cons_self)
      have hlater : ∀ w ∈ gaps.dropLast, w ≠ [] := by
        intro w hw
        rcases gaps with _ | ⟨next, gaps⟩
        · cases hw
        · exact hgaps w (List.mem_cons_of_mem gap hw)
      have hspace := hblank gap List.mem_cons_self
      obtain ⟨htokens, hfaults⟩ := (h t List.mem_cons_self).from_lexeme
        (atBlank_gap hspace hgap ts) start
      obtain ⟨htokens', hfaults'⟩ :=
        from_of_blanks hspace (start + t.lexeme.length) (spaced ts gaps)
      obtain ⟨hviews, hescapes⟩ := ih (fun t' ht => h t' (List.mem_cons_of_mem t ht))
        (Nat.succ.inj hcount) (fun w hw => hblank w (List.mem_cons_of_mem gap hw)) hlater
        (start + t.lexeme.length + gap.length)
      rw [spaced, htokens, hfaults, htokens', hfaults', hescapes, List.map_cons, List.map_cons,
        List.flatMap_cons, hviews]
      exact ⟨rfl, rfl⟩

/-- **Tokens delimit themselves.** Take the lexemes of a text, which may be malformed, with blanks
between them and perhaps before and after them. The tokens of this text are of the same kinds, with
the same lexemes and values, and its only faults are the unknown escapes in them. -/
theorem tokens_spaced {s lead : Text} {gaps : List Text} (hcount : gaps.length = (tokens s).length)
    (hlead : ∀ c ∈ lead, isSpace c = true) (hblank : ∀ gap ∈ gaps, ∀ c ∈ gap, isSpace c = true)
    (hgaps : ∀ gap ∈ gaps.dropLast, gap ≠ []) :
    ((tokens (lead ++ spaced (tokens s) gaps)).map fun t => (t.kind, t.lexeme, t.value)) =
        ((tokens s).map fun t => (t.kind, t.lexeme, t.value)) ∧
      lexicalDiagnostics (lead ++ spaced (tokens s) gaps) =
        (tokens (lead ++ spaced (tokens s) gaps)).flatMap Token.escapes := by
  have hdelimited : ∀ t ∈ tokens s, t.Delimited := fun t ht => delimited_of_mem ht
  obtain ⟨htokens, hfaults⟩ := from_of_blanks hlead 0 (spaced (tokens s) gaps)
  have htext : tokens (lead ++ spaced (tokens s) gaps) = _ := htokens
  have hdiagnostics : lexicalDiagnostics (lead ++ spaced (tokens s) gaps) = _ := hfaults
  rw [htext, hdiagnostics]
  exact from_spaced hdelimited hcount hblank hgaps _

/-- Neighbours that cut each other, an unknown escape, and a literal that is dropped. -/
theorem tokens_spaced_neighbours :
    let s := "1.2.3==x\"\\q\"7u'".toList
    let gaps := [[' '], ['\t'], ['\n'], ['\r', '\n'], [' '], [' ', ' '], []]
    let text := "  1.2 .\t3\n==\r\nx \"\\q\"  7u".toList
    (gaps.length = (tokens s).length ∧ [' ', ' '] ++ spaced (tokens s) gaps = text) ∧
      ((tokens text).map fun t => (t.kind, t.lexeme, t.value)) =
        ((tokens s).map fun t => (t.kind, t.lexeme, t.value)) ∧
      lexicalDiagnostics text = [.badEscape 'q' 17] := by
  intro s gaps text
  have hcount : gaps.length = (tokens s).length := by decide +kernel
  have htext : [' ', ' '] ++ spaced (tokens s) gaps = text := by decide +kernel
  have hlead : ∀ c ∈ [' ', ' '], isSpace c = true := by simp [isSpace]
  have hblank : ∀ gap ∈ gaps, ∀ c ∈ gap, isSpace c = true := by simp [gaps, isSpace]
  have hgaps : ∀ gap ∈ gaps.dropLast, gap ≠ [] := by simp [gaps]
  obtain ⟨hviews, hfaults⟩ := tokens_spaced hcount hlead hblank hgaps
  rw [htext] at hviews hfaults
  refine ⟨⟨hcount, htext⟩, hviews, ?_⟩
  rw [hfaults]
  decide +kernel

end Reckon
