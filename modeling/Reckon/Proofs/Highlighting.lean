import Mathlib.Data.List.Chain
import Reckon.Proofs.Segments
import Reckon.Workbench.Highlight

/-!
# Highlighting as a partition of the line

The spans of an input line are the line again, cut where the colour changes. The colour of a
character is read off segment by segment; here it is said of the text as a whole, by its faults and
its tokens alone, however malformed the text is.

* `groupColors_cons_cases`: what one more character does to the groups behind it. That nothing is
  lost, that no group is empty and that neighbours differ follow by induction.
* `colorOf`: the colour at an offset by any tokens and faults.
* `Segmented.bounds`, `Segmented.covers_unique`: tokens and faults lie in the text, and no two
  tokens share a character. So a segment decides the colours of its own characters, and of no
  others.
* `highlight_partition`: **the spans are a partition of the line into its colours**.
-/

namespace Reckon

/-! ## Groups of one colour -/

/-- One more character joins the first group if it has its colour, and else is a group of its
own. -/
theorem groupColors_cons_cases (c : Char) (color : Color) (cs : List (Char × Color)) :
    (∃ text groups, groupColors cs = (text, color) :: groups ∧
      groupColors ((c, color) :: cs) = (c :: text, color) :: groups) ∨
    (∀ g ∈ (groupColors cs).head?, color ≠ g.2) ∧
      groupColors ((c, color) :: cs) = ([c], color) :: groupColors cs := by
  rcases hgroups : groupColors cs with _ | ⟨⟨text, color'⟩, groups⟩
  · refine .inr ⟨by simp, ?_⟩
    rw [groupColors, List.foldr_cons, ← groupColors, hgroups]
  · by_cases h : color = color'
    · subst h
      refine .inl ⟨text, groups, rfl, ?_⟩
      rw [groupColors, List.foldr_cons, ← groupColors, hgroups]
      exact if_pos rfl
    · refine .inr ⟨by simpa using h, ?_⟩
      rw [groupColors, List.foldr_cons, ← groupColors, hgroups]
      exact if_neg h

/-- The characters of a group, each with the colour of the group. -/
def ungroup (g : Text × Color) : List (Char × Color) := g.1.map (·, g.2)

theorem flatMap_ungroup_groupColors (cs : List (Char × Color)) :
    (groupColors cs).flatMap ungroup = cs := by
  induction cs with
  | nil => rfl
  | cons head cs ih =>
    obtain ⟨c, color⟩ := head
    rcases groupColors_cons_cases c color cs with ⟨text, groups, hcs, h⟩ | ⟨-, h⟩
    · rw [hcs] at ih
      rw [h, ← ih]
      rfl
    · rw [h, List.flatMap_cons, ih]
      rfl

theorem ne_nil_of_mem_groupColors {cs : List (Char × Color)} {g : Text × Color}
    (hg : g ∈ groupColors cs) : g.1 ≠ [] := by
  induction cs with
  | nil => cases hg
  | cons head cs ih =>
    obtain ⟨c, color⟩ := head
    rcases groupColors_cons_cases c color cs with ⟨text, groups, hcs, h⟩ | ⟨-, h⟩
    · rw [h] at hg
      rw [hcs] at ih
      rcases List.mem_cons.1 hg with rfl | hg
      · exact List.cons_ne_nil c text
      · exact ih (List.mem_cons_of_mem _ hg)
    · rw [h] at hg
      rcases List.mem_cons.1 hg with rfl | hg
      · exact List.cons_ne_nil c []
      · exact ih hg

theorem isChain_groupColors (cs : List (Char × Color)) :
    (groupColors cs).IsChain fun g g' => g.2 ≠ g'.2 := by
  induction cs with
  | nil => exact .nil
  | cons head cs ih =>
    obtain ⟨c, color⟩ := head
    rcases groupColors_cons_cases c color cs with ⟨text, groups, hcs, h⟩ | ⟨hne, h⟩
    · rw [hcs, List.isChain_cons] at ih
      rw [h, List.isChain_cons]
      exact ih
    · rw [h, List.isChain_cons]
      exact ⟨hne, ih⟩

/-! ## The colour at an offset -/

/-- The character at the offset `i` is one of the token's. -/
def Token.Covers (t : Token) (i : Nat) : Prop := t.position ≤ i ∧ i < t.stop

instance (t : Token) (i : Nat) : Decidable (t.Covers i) := inferInstanceAs (Decidable (_ ∧ _))

/-- The colour of the character at the offset `i` in a text with the given tokens and faults: that
of faults if one shows there, else that of the kind of the token that it belongs to, else that of
plain text. -/
def colorOf (ts : List Token) (ds : List Diagnostic) (i : Nat) : Color :=
  if ∃ d ∈ ds, d.position = i then Theme.error
  else
    match ts.find? fun t => t.Covers i with
    | some t => Theme.ofKind t.kind
    | none => Theme.text

section ColorOf

variable {ts ts' : List Token} {ds ds' : List Diagnostic} {i : Nat}

/-- Tokens and faults further on do not bear on a colour. -/
theorem colorOf_append_of_later (hts : ∀ t ∈ ts', ¬ t.Covers i) (hds : ∀ d ∈ ds', d.position ≠ i) :
    colorOf (ts ++ ts') (ds ++ ds') i = colorOf ts ds i := by
  have htoken : ts'.find? (fun t => t.Covers i) = none := by simpa using hts
  have hfault : ¬ ∃ d ∈ ds', d.position = i := by simpa using hds
  rw [colorOf, colorOf, List.find?_append, htoken, Option.or_none]
  simp only [List.mem_append, or_and_right, exists_or, hfault, or_false]

/-- Tokens and faults that come before do not bear on a colour. -/
theorem colorOf_append_of_earlier (hts : ∀ t ∈ ts, ¬ t.Covers i) (hds : ∀ d ∈ ds, d.position ≠ i) :
    colorOf (ts ++ ts') (ds ++ ds') i = colorOf ts' ds' i := by
  have htoken : ts.find? (fun t => t.Covers i) = none := by simpa using hts
  have hfault : ¬ ∃ d ∈ ds, d.position = i := by simpa using hds
  rw [colorOf, colorOf, List.find?_append, htoken, Option.none_or]
  simp only [List.mem_append, or_and_right, exists_or, hfault, false_or]

end ColorOf

/-- A segment colours its characters by its own token and faults. -/
theorem Segment.colored_eq (s : Segment) :
    s.colored = (s.text.zipIdx s.start).map fun (c, i) =>
      (c, colorOf s.token?.toList s.diagnostics i) := by
  apply List.map_congr_left
  rintro ⟨c, i⟩ hi
  obtain ⟨hle, hlt, -⟩ := List.mem_zipIdx hi
  have hcolor : colorOf s.token?.toList [] i = s.color := by
    rw [colorOf, Segment.token?, Segment.color]
    rcases s.content with _ | ⟨kind, value⟩ | fault
    · rfl
    · have hcovers : Token.Covers ⟨kind, s.start, s.text, value⟩ i := ⟨hle, hlt⟩
      simp [hcovers]
    · rfl
  rw [← hcolor]
  simp [colorOf]

/-! ## Tokens and faults in their places -/

/-- The token and the faults of a piece lie in it. -/
theorem Piece.bounds {start : Nat} {piece : Text} {ts : List Token} {ds : List Diagnostic}
    (h : Piece start piece ts ds) :
    (∀ t ∈ ts, start ≤ t.position ∧ t.stop ≤ start + piece.length) ∧
      ∀ d ∈ ds, start ≤ d.position ∧ d.position < start + piece.length := by
  have hescape : ∀ {d : Diagnostic}, d.IsEscapeIn start piece →
      start ≤ d.position ∧ d.position < start + piece.length := by
    rintro d ⟨before, c, after, rfl, rfl, -⟩
    simp only [Diagnostic.position, List.length_append, List.length_cons]
    omega
  cases h with
  | blank => simp
  | token _ hescapes =>
    refine ⟨?_, fun d hd => hescape (hescapes d hd).2⟩
    intro t ht
    obtain rfl := List.mem_singleton.1 ht
    exact ⟨Nat.le_refl start, Nat.le_refl _⟩
  | dropped hfault hescapes =>
    refine ⟨by simp, ?_⟩
    intro d hd
    rcases List.mem_append.1 hd with hd | hd
    · exact hescape (hescapes d hd).2
    · obtain rfl := List.mem_singleton.1 hd
      cases hfault <;> simp [Diagnostic.position]

/-- The tokens and the faults of a text lie in it. -/
theorem Segmented.bounds {start : Nat} {s : Text} {ts : List Token} {ds : List Diagnostic}
    (h : Segmented start s ts ds) :
    (∀ t ∈ ts, start ≤ t.position ∧ t.stop ≤ start + s.length) ∧
      ∀ d ∈ ds, start ≤ d.position ∧ d.position < start + s.length := by
  induction h with
  | nil => simp
  | cons hpiece _ ih =>
    obtain ⟨htokens, hfaults⟩ := hpiece.bounds
    obtain ⟨hlater, hmore⟩ := ih
    rw [List.length_append]
    constructor
    · intro t ht
      rcases List.mem_append.1 ht with ht | ht
      · have := htokens t ht
        omega
      · have := hlater t ht
        omega
    · intro d hd
      rcases List.mem_append.1 hd with hd | hd
      · have := hfaults d hd
        omega
      · have := hmore d hd
        omega

/-- A character belongs to one token at most. -/
theorem Segmented.covers_unique {start : Nat} {s : Text} {ts : List Token} {ds : List Diagnostic}
    (h : Segmented start s ts ds) {t t' : Token} (ht : t ∈ ts) (ht' : t' ∈ ts) {i : Nat}
    (hi : t.Covers i) (hi' : t'.Covers i) : t = t' := by
  induction h with
  | nil => cases ht
  | @cons start piece s now later faults more hpiece hrest ih =>
    have hapart : ∀ {t t' : Token}, t ∈ now → t' ∈ later → t.Covers i → ¬ t'.Covers i := by
      intro t t' ht ht' hi hi'
      have hstop : t.stop ≤ t'.position := (hpiece.bounds.1 t ht).2.trans (hrest.bounds.1 t' ht').1
      exact absurd (hi.2.trans_le hstop) (Nat.not_lt.2 hi'.1)
    rcases List.mem_append.1 ht with ht | ht <;> rcases List.mem_append.1 ht' with ht' | ht'
    · cases hpiece with
      | blank | dropped => cases ht
      | token => exact (List.mem_singleton.1 ht).trans (List.mem_singleton.1 ht').symm
    · exact absurd hi' (hapart ht ht' hi)
    · exact absurd hi (hapart ht' ht hi')
    · exact ih ht ht'

/-- The colours of a text at any offset, by all its tokens and faults. -/
theorem colored_from (start : Nat) (s : Text) :
    (segmentsFrom start [] s).flatMap Segment.colored =
      (s.zipIdx start).map fun (c, i) =>
        (c, colorOf (tokensFrom start s) (faultsFrom start s) i) := by
  match s with
  | [] => simp
  | c :: rest =>
    obtain ⟨body, after, hrest, hlength, hpiece⟩ := piece_front start c rest
    have hcut : c :: rest = (c :: body) ++ after := by rw [hrest, List.cons_append]
    have hlen : (recognize start c rest).length = (c :: body).length := by
      rw [hlength, List.length_cons, Nat.add_comm]
    have hdrop : (c :: rest).drop (recognize start c rest).length = after := by
      rw [hlen, hcut, List.drop_left]
    have htext : (front start c rest).text = c :: body := by
      rw [front, hlen, hcut, List.take_left]
    obtain ⟨htokens, hfaults⟩ := hpiece.bounds
    obtain ⟨hlater, hmore⟩ := (segmented_from (start + (c :: body).length) after).bounds
    rw [segmentsFrom_eq_front_cons, List.flatMap_cons, Segment.colored_eq, htext, tokensFrom_cons,
      faultsFrom_cons, hdrop, hlen, colored_from _ after]
    conv => rhs; rw [hcut, List.zipIdx_append, List.map_append]
    congr 1
    · -- in the piece, what comes later does not count
      apply List.map_congr_left
      rintro ⟨d, i⟩ hi
      obtain ⟨hle, hlt, -⟩ := List.mem_zipIdx hi
      refine congrArg (Prod.mk d) (colorOf_append_of_later (fun t ht hcovers => ?_) ?_).symm
      · exact absurd (hlt.trans_le (hlater t ht).1) (Nat.not_lt.2 hcovers.1)
      · rintro e he rfl
        exact absurd hlt (Nat.not_lt.2 (hmore e he).1)
    · apply List.map_congr_left
      rintro ⟨d, i⟩ hi
      obtain ⟨hle, hlt, -⟩ := List.mem_zipIdx hi
      refine congrArg (Prod.mk d) (colorOf_append_of_earlier (fun t ht hcovers => ?_) ?_).symm
      · exact absurd (hcovers.2.trans_le (htokens t ht).2) (Nat.not_lt.2 hle)
      · rintro e he rfl
        exact absurd (hfaults e he).2 (Nat.not_lt.2 hle)
termination_by s.length
decreasing_by
  rw [hrest, List.length_cons, List.length_append]
  omega

/-! ## The spans -/

/-- The characters of a span, each with the paint of the span. -/
def Span.painted (span : Span) : List (Char × Paint) := span.text.map (·, span.paint)

theorem Paint.ink_injective {color color' : Color} (h : ink color = ink color') :
    color = color' :=
  Option.some.inj (congrArg Paint.fg h)

/-- Drawing the groups as spans does not move a character. -/
theorem flatMap_painted_highlight (s : Text) :
    (highlight s).flatMap Span.painted =
      s.zipIdx.map fun (c, i) => (c, .ink (colorOf (tokens s) (lexicalDiagnostics s) i)) := by
  have hcolored : colored s = s.zipIdx.map fun (c, i) =>
      (c, colorOf (tokens s) (lexicalDiagnostics s) i) := colored_from 0 s
  have hspans : (highlight s).flatMap Span.painted =
      ((groupColors (colored s)).flatMap ungroup).map fun x => (x.1, .ink x.2) := by
    rw [highlight, List.flatMap_map, List.map_flatMap]
    apply List.flatMap_congr
    intro g _
    simp [Span.painted, ungroup]
  rw [hspans, flatMap_ungroup_groupColors, hcolored, List.map_map]
  rfl

/-- The spans are the line, cut. -/
theorem flatMap_text_highlight (s : Text) : (highlight s).flatMap Span.text = s := by
  have htext : (highlight s).flatMap Span.text =
      ((highlight s).flatMap Span.painted).map Prod.fst := by
    rw [List.map_flatMap]
    apply List.flatMap_congr
    intro span _
    rw [Span.painted, List.map_map]
    exact (List.map_id span.text).symm
  rw [htext, flatMap_painted_highlight, List.map_map]
  exact List.zipIdx_map_fst 0 s

/-- **The spans of an input line are a partition of it into its colours**, whatever the line is. No
span is empty, put together they are the line, and neighbours are painted differently. Each
character has the colour of faults if a lexical fault of the line shows at its offset, else that of
the kind of the token that it belongs to, of which there is one at most, else that of plain text.
And every lexical fault shows at an offset of the line. -/
theorem highlight_partition (s : Text) :
    (∀ span ∈ highlight s, span.text ≠ []) ∧
    (highlight s).flatMap Span.text = s ∧
    ((highlight s).IsChain fun span span' => span.paint ≠ span'.paint) ∧
    (highlight s).flatMap Span.painted =
      s.zipIdx.map (fun (c, i) => (c, .ink (colorOf (tokens s) (lexicalDiagnostics s) i))) ∧
    (∀ t ∈ tokens s, ∀ t' ∈ tokens s, ∀ i, t.Covers i → t'.Covers i → t = t') ∧
    ∀ d ∈ lexicalDiagnostics s, d.position < s.length := by
  have hsegmented : Segmented 0 s (tokens s) (lexicalDiagnostics s) := segmented_from 0 s
  refine ⟨?_, flatMap_text_highlight s, ?_, flatMap_painted_highlight s,
    fun t ht t' ht' i => hsegmented.covers_unique ht ht', ?_⟩
  · intro span hspan
    obtain ⟨g, hg, rfl⟩ := List.mem_map.1 hspan
    exact ne_nil_of_mem_groupColors hg
  · rw [highlight, List.isChain_map]
    apply (isChain_groupColors (colored s)).imp
    intro g g' hne h
    exact hne (Paint.ink_injective h)
  · intro d hd
    have hlt := (hsegmented.bounds.2 d hd).2
    rwa [Nat.zero_add] at hlt

/-- Of a character literal without its end only the quote is marked. -/
example : highlight "'x".toList = [⟨['\''], .ink Theme.error⟩, ⟨['x'], .ink Theme.text⟩] := by
  decide +kernel

end Reckon
