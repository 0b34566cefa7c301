import Reckon.Proofs.Highlighting
import Reckon.Workbench.Pane

/-!
# The cursor of the input line

Text is drawn by columns, and the terminal's cursor is placed by characters. Where the two agree,
and where they do not.

* `Text.isPrintable`: a character that is a symbol by itself and takes one or two columns.
  `Span.map_fst_allSymbols` says that a text of such characters is drawn character by character,
  however it is cut into spans.
* `Canvas.get?_modify`, `Canvas.get?_putSymbols`: what one change does to a cell, and what a row of
  symbols does.
* `Canvas.SameSize`: drawing never changes the size of the screen.
* `Drawing`: a way to draw the input line, with all that the line relies on. The workbench has one
  of its own, `Drawing.workbench`.
* `input_cursor_iff`: **the cursor stands where the next character goes exactly if no wide
  character comes before it**.
-/

namespace Reckon

/-! ## Characters that are symbols -/

namespace Text

/-- A character that is a symbol by itself beside others of the kind, and takes one or two
columns. Marks, joiners, halves of flags and letters of syllables are symbols only together with
their neighbours. -/
def isPrintable (c : Char) : Bool :=
  [BreakClass.other, .pictograph, .openSyllable, .closedSyllable].contains (breakClass c) &&
    (width [c] = 1 || width [c] = 2)

theorem width_of_isPrintable {c : Char} (h : isPrintable c) : width [c] = 1 ∨ width [c] = 2 := by
  simp only [isPrintable, Bool.and_eq_true, Bool.or_eq_true, decide_eq_true_eq] at h
  exact h.2

theorem breakClass_of_isPrintable {c : Char} (h : isPrintable c) :
    breakClass c = .other ∨ breakClass c = .pictograph ∨ breakClass c = .openSyllable ∨
      breakClass c = .closedSyllable := by
  rw [isPrintable, Bool.and_eq_true] at h
  simpa using h.1

/-- One character leaves nothing open that the next one could close. -/
theorem not_linked_ofChar (c : Char) :
    (SoFar.ofChar c).picture ≠ .linked ∧ (SoFar.ofChar c).conjunct ≠ .linked := by
  constructor
  · simp only [SoFar.ofChar, pictureAfter]
    split <;> simp
  · simp only [SoFar.ofChar, conjunctAfter]
    split <;> simp

/-- Two printable characters are two symbols. -/
theorem joins_of_isPrintable {b c : Char} (hb : isPrintable b) (hc : isPrintable c) :
    (SoFar.ofChar b).joins c = false := by
  obtain ⟨hpicture, hconjunct⟩ := not_linked_ofChar b
  have hlast : (SoFar.ofChar b).last = breakClass b := rfl
  rw [SoFar.joins, hlast]
  rcases breakClass_of_isPrintable hb with hb | hb | hb | hb <;>
    rcases breakClass_of_isPrintable hc with hc | hc | hc | hc <;>
    simp [hb, hc, hpicture, hconjunct]

theorem graphemesFrom_of_isPrintable {c : Char} {s : Text} (hc : isPrintable c)
    (hs : ∀ d ∈ s, isPrintable d) (before : List Text) :
    graphemesFrom (.ofChar c) [c] before s = before.reverse ++ [c] :: s.map ([·]) := by
  induction s generalizing c before with
  | nil => simp [graphemesFrom]
  | cons d s ih =>
    have hd := hs d List.mem_cons_self
    rw [graphemesFrom, joins_of_isPrintable hc hd, if_neg Bool.false_ne_true,
      ih hd fun e he => hs e (List.mem_cons_of_mem d he)]
    simp

/-- Printable characters are the symbols of their text. -/
theorem graphemes_of_isPrintable {s : Text} (h : ∀ c ∈ s, isPrintable c) :
    graphemes s = s.map ([·]) := by
  cases s with
  | nil => rfl
  | cons c s =>
    rw [graphemes, graphemesFrom_of_isPrintable (h c List.mem_cons_self)
      fun d hd => h d (List.mem_cons_of_mem c hd)]
    rfl

/-- The columns that a character takes by itself. -/
def charWidth (c : Char) : Nat := width [c]

/-- The columns that a text takes when each of its characters is a symbol with the given number of
columns. -/
def columns (w : Char → Nat) : Text → Nat
  | [] => 0
  | c :: s => w c + columns w s

section Columns

variable {w : Char → Nat}

@[simp] theorem columns_nil : columns w [] = 0 := rfl

@[simp] theorem columns_cons (c : Char) (s : Text) : columns w (c :: s) = w c + columns w s := rfl

@[simp] theorem columns_append (s s' : Text) :
    columns w (s ++ s') = columns w s + columns w s' := by
  induction s with
  | nil => simp
  | cons c s ih =>
    rw [List.cons_append, columns_cons, columns_cons, ih, Nat.add_assoc]

theorem columns_take_le (s : Text) (n : Nat) : columns w (s.take n) ≤ columns w s := by
  have h := columns_append (w := w) (s.take n) (s.drop n)
  rw [List.take_append_drop] at h
  omega

theorem le_columns_of_mem {c : Char} {s : Text} (h : c ∈ s) : w c ≤ columns w s := by
  obtain ⟨before, after, rfl⟩ := List.append_of_mem h
  rw [columns_append, columns_cons]
  omega

/-- No character has less than a column. -/
theorem length_le_columns {s : Text} (h : ∀ c ∈ s, w c = 1 ∨ w c = 2) :
    s.length ≤ columns w s := by
  induction s with
  | nil => simp
  | cons c s ih =>
    have hc := h c List.mem_cons_self
    have hs := ih fun d hd => h d (List.mem_cons_of_mem c hd)
    rw [List.length_cons, columns_cons]
    omega

/-- There are as many columns as characters exactly if no character is wide. -/
theorem columns_eq_length_iff {s : Text} (h : ∀ c ∈ s, w c = 1 ∨ w c = 2) :
    columns w s = s.length ↔ ∀ c ∈ s, w c = 1 := by
  induction s with
  | nil => simp
  | cons c s ih =>
    have hs : ∀ d ∈ s, w d = 1 ∨ w d = 2 := fun d hd => h d (List.mem_cons_of_mem c hd)
    have hc := h c List.mem_cons_self
    have hle := length_le_columns hs
    rw [List.forall_mem_cons, ← ih hs, columns_cons, List.length_cons]
    omega

end Columns

end Text

theorem Span.symbols_of_isPrintable {span : Span} (h : ∀ c ∈ span.text, Text.isPrintable c) :
    span.symbols = span.text.map ([·]) := by
  rw [Span.symbols, Text.graphemes_of_isPrintable h, List.filter_eq_self]
  rintro g hg
  obtain ⟨c, hc, rfl⟩ := List.mem_map.mp hg
  have hne : c ≠ '\n' := by
    rintro rfl
    exact absurd (h _ hc) (by decide +kernel)
  simpa using hne.symm

/-- The symbols of spans, each with the paint of its span. -/
def Span.allSymbols (spans : List Span) : List (Text × Paint) :=
  spans.flatMap fun span => span.symbols.map (·, span.paint)

/-- However a text of printable characters is cut into spans, these characters are the symbols. -/
theorem Span.map_fst_allSymbols {spans : List Span}
    (h : ∀ c ∈ spans.flatMap Span.text, Text.isPrintable c) :
    (Span.allSymbols spans).map Prod.fst = (spans.flatMap Span.text).map ([·]) := by
  rw [Span.allSymbols, List.map_flatMap, List.map_flatMap]
  apply List.flatMap_congr
  intro span hspan
  rw [List.map_map, Span.symbols_of_isPrintable fun c hc =>
    h c (List.mem_flatMap.mpr ⟨span, hspan, hc⟩)]
  exact List.map_id _

/-! ## Cells -/

namespace Canvas

/-- Cells of different places are different cells. -/
theorem index_inj {width x y x' y' : Nat} (hx : x < width) (hx' : x' < width) :
    y * width + x = y' * width + x' ↔ x = x' ∧ y = y' := by
  constructor
  · intro h
    have hmod := congrArg (· % width) h
    have hdiv := congrArg (· / width) h
    simp only [Nat.mul_add_mod', Nat.mod_eq_of_lt hx, Nat.mod_eq_of_lt hx'] at hmod
    have hpos : 0 < width := by omega
    simp only [Nat.mul_comm _ width, Nat.mul_add_div hpos, Nat.div_eq_of_lt hx,
      Nat.div_eq_of_lt hx', Nat.add_zero] at hdiv
    exact ⟨hmod, hdiv⟩
  · rintro ⟨rfl, rfl⟩
    rfl

/-- One change, seen from any cell. -/
theorem get?_modify (c : Canvas) (x y x' y' : Nat) (f : Cell → Cell) :
    (c.modify x y f).get? x' y' =
      if x = x' ∧ y = y' then (c.get? x' y').map f else c.get? x' y' := by
  by_cases hplace : x < c.width ∧ y < c.height
  · rw [modify, if_pos hplace, get?, get?]
    by_cases hplace' : x' < c.width ∧ y' < c.height
    · simp only [if_pos hplace', Array.getElem?_modify, index_inj hplace.1 hplace'.1]
    · simp [if_neg hplace']
  · rw [modify, if_neg hplace]
    split
    · rename_i h
      obtain ⟨rfl, rfl⟩ := h
      rw [get?, if_neg hplace]
      rfl
    · rfl

/-- A change in another place of the row. -/
theorem get?_modify_of_ne {x x' : Nat} (h : x ≠ x') (c : Canvas) (y : Nat) (f : Cell → Cell) :
    (c.modify x y f).get? x' y = c.get? x' y := by
  rw [get?_modify, if_neg fun hplace => h hplace.1]

/-- The columns that symbols take. -/
def breadth : List (Text × Paint) → Nat
  | [] => 0
  | s :: symbols => Text.width s.1 + breadth symbols

@[simp] theorem breadth_nil : breadth [] = 0 := rfl

@[simp] theorem breadth_cons (s : Text × Paint) (symbols : List (Text × Paint)) :
    breadth (s :: symbols) = Text.width s.1 + breadth symbols := rfl

/-- Symbols that fit are not cut. -/
theorem fitting_eq_self {width used : Nat} {symbols : List (Text × Paint)}
    (h : used + breadth symbols ≤ width) : fitting width used symbols = symbols := by
  induction symbols generalizing used with
  | nil => rfl
  | cons s symbols ih =>
    rw [breadth_cons] at h
    rw [fitting, if_neg (by omega), if_neg (by omega), ih (by omega)]

/-- Drawing leaves alone what is to the left of it. -/
theorem get?_putSymbols_of_lt {x x' : Nat} (h : x' < x) (y : Nat) (symbols : List (Text × Paint))
    (c : Canvas) : (putSymbols y x symbols c).get? x' y = c.get? x' y := by
  induction symbols generalizing x c with
  | nil => rfl
  | cons s symbols ih =>
    rw [putSymbols]
    split
    · exact ih h c
    · rw [ih (by omega), get?_modify_of_ne (by omega)]

/-- Each symbol is drawn behind the columns of those before it. -/
theorem get?_putSymbols (y x : Nat) (before after : List (Text × Paint)) {g : Text} (p : Paint)
    (hg : 0 < Text.width g) (c : Canvas) :
    (putSymbols y x (before ++ (g, p) :: after) c).get? (x + breadth before) y =
      (c.get? (x + breadth before) y).map fun cell => cell.write g p := by
  induction before generalizing x c with
  | nil =>
    rw [List.nil_append, putSymbols, if_neg (by omega), breadth_nil, Nat.add_zero,
      get?_putSymbols_of_lt (by omega), get?_modify, if_pos ⟨rfl, rfl⟩]
  | cons s before ih =>
    rw [List.cons_append, putSymbols, breadth_cons, ← Nat.add_assoc]
    split
    · rename_i h
      rw [h]
      exact ih x c
    · rw [ih, get?_modify_of_ne (by omega)]

/-! ## The size of the screen -/

/-- Two screens have the same size. -/
structure SameSize (c c' : Canvas) : Prop where
  /-- the same number of columns -/
  width_eq : c'.width = c.width
  /-- the same number of rows -/
  height_eq : c'.height = c.height
  /-- the same number of cells -/
  size_eq : c'.cells.size = c.cells.size

theorem SameSize.refl (c : Canvas) : SameSize c c := ⟨rfl, rfl, rfl⟩

theorem SameSize.trans {a b c : Canvas} (h : SameSize a b) (h' : SameSize b c) : SameSize a c :=
  ⟨h'.width_eq.trans h.width_eq, h'.height_eq.trans h.height_eq, h'.size_eq.trans h.size_eq⟩

theorem sameSize_modify (c : Canvas) (x y : Nat) (f : Cell → Cell) :
    SameSize c (c.modify x y f) := by
  rw [modify]
  split
  · exact ⟨rfl, rfl, Array.size_modify⟩
  · exact .refl c

theorem sameSize_foldl {α : Type} {draw : Canvas → α → Canvas}
    (h : ∀ c a, SameSize c (draw c a)) (l : List α) (c : Canvas) :
    SameSize c (l.foldl draw c) := by
  induction l generalizing c with
  | nil => exact .refl c
  | cons a l ih => exact (h c a).trans (ih (draw c a))

theorem sameSize_modifyRow (c : Canvas) (x y width : Nat) (f : Cell → Cell) :
    SameSize c (c.modifyRow x y width f) :=
  sameSize_foldl (fun c x => c.sameSize_modify x y f) _ c

theorem sameSize_modifyColumn (c : Canvas) (x y height : Nat) (f : Cell → Cell) :
    SameSize c (c.modifyColumn x y height f) :=
  sameSize_foldl (fun c y => c.sameSize_modify x y f) _ c

theorem sameSize_frame (c : Canvas) (area : Rect) (title : Text) (p : Paint) :
    SameSize c (c.frame area title p) := by
  rw [frame]
  split
  · exact .refl c
  · refine SameSize.trans ?_ (sameSize_foldl (fun c s => c.sameSize_modify _ _ _) _ _)
    refine SameSize.trans ?_ (sameSize_modify _ _ _ _)
    refine SameSize.trans ?_ (sameSize_modify _ _ _ _)
    refine SameSize.trans ?_ (sameSize_modify _ _ _ _)
    refine SameSize.trans ?_ (sameSize_modify _ _ _ _)
    refine SameSize.trans ?_ (sameSize_modifyRow _ _ _ _ _)
    refine SameSize.trans ?_ (sameSize_modifyColumn _ _ _ _ _)
    exact (sameSize_modifyColumn _ _ _ _ _).trans (sameSize_modifyRow _ _ _ _ _)

/-- A screen with a cell in each place that shows a pane with a row of text in its border. -/
structure Shows (c : Canvas) (area : Rect) : Prop where
  /-- each place has its cell -/
  full : c.cells.size = c.width * c.height
  /-- the pane does not go past the right end -/
  right_le : area.right ≤ c.width
  /-- nor past the bottom -/
  bottom_le : area.bottom ≤ c.height
  /-- its columns have numbers -/
  right_le_max : area.right ≤ maxColumn
  /-- a row of text has room between the two rows of the border -/
  height_le : 3 ≤ area.height

/-- The cells of the row of text are there, also when the border has been drawn. -/
theorem Shows.exists_cell {c c' : Canvas} {area : Rect} (h : c.Shows area) (hsame : SameSize c c')
    {x : Nat} (hx : x < area.right) : ∃ cell, c'.get? x (area.y + 1) = some cell := by
  have hy : area.y + 1 < c.height := by
    have := h.bottom_le
    have := h.height_le
    simp only [Rect.bottom] at *
    omega
  have hx : x < c.width := Nat.lt_of_lt_of_le hx h.right_le
  have hindex : (area.y + 1) * c.width + x < c'.cells.size := by
    rw [hsame.size_eq, h.full]
    calc (area.y + 1) * c.width + x < (area.y + 1) * c.width + c.width := by omega
      _ = (area.y + 1 + 1) * c.width := (Nat.succ_mul _ _).symm
      _ ≤ c.height * c.width := Nat.mul_le_mul_right _ hy
      _ = c.width * c.height := Nat.mul_comm _ _
  rw [get?, hsame.width_eq, hsame.height_eq, if_pos ⟨hx, hy⟩, Array.getElem?_eq_getElem hindex]
  exact ⟨_, rfl⟩

/-- Symbols of one character take the columns of their text. -/
theorem breadth_eq_columns {symbols : List (Text × Paint)} {s : Text}
    (h : symbols.map Prod.fst = s.map ([·])) : breadth symbols = Text.columns Text.charWidth s := by
  induction s generalizing symbols with
  | nil =>
    rw [List.map_nil, List.map_eq_nil_iff] at h
    rw [h, breadth_nil, Text.columns_nil]
  | cons c s ih =>
    obtain ⟨symbol, rest, rfl, hsymbol, hrest⟩ := List.map_eq_cons_iff.mp h
    rw [breadth_cons, hsymbol, ih hrest, Text.columns_cons, Text.charWidth]

/-- In a line that fits, a printable character is drawn behind the columns of those before it. -/
theorem get?_paragraph (area : Rect) {spans : List Span}
    (hprintable : ∀ c ∈ spans.flatMap Span.text, Text.isPrintable c) (hheight : 0 < area.height)
    (hfits : Text.columns Text.charWidth (spans.flatMap Span.text) ≤ area.width) {i : Nat}
    {a : Char} (ha : (spans.flatMap Span.text)[i]? = some a) (c : Canvas) :
    let x := area.x + Text.columns Text.charWidth ((spans.flatMap Span.text).take i)
    ∃ p, (c.paragraph area false spans).get? x area.y =
      (c.get? x area.y).map fun cell => cell.write [a] p := by
  have hsymbols := Span.map_fst_allSymbols hprintable
  have hmem : a ∈ spans.flatMap Span.text := List.mem_of_getElem? ha
  have hwidth : 0 < Text.width [a] := by
    have := Text.width_of_isPrintable (hprintable a hmem)
    omega
  generalize hall : Span.allSymbols spans = symbols at hsymbols
  generalize spans.flatMap Span.text = s at *
  have hsymbol : (symbols.map Prod.fst)[i]? = some [a] := by
    rw [hsymbols, List.getElem?_map, ha]
    rfl
  rw [List.getElem?_map] at hsymbol
  obtain ⟨⟨_, p⟩, hget, rfl⟩ := Option.map_eq_some_iff.mp hsymbol
  obtain ⟨hlength, hget⟩ := List.getElem?_eq_some_iff.mp hget
  have hcut : symbols = symbols.take i ++ ([a], p) :: symbols.drop (i + 1) := by
    rw [← hget, ← List.drop_eq_getElem_cons hlength, List.take_append_drop]
  have hbefore : (symbols.take i).map Prod.fst = (s.take i).map ([·]) := by
    rw [List.map_take, hsymbols, List.map_take]
  -- all of the symbols fit, and the area is not empty since one of them has a width
  have hbreadth := breadth_eq_columns hsymbols
  have hfitting : fitting area.width 0 symbols = symbols := fitting_eq_self (by omega)
  have hempty : area.isEmpty = false := by
    have := Text.le_columns_of_mem (w := Text.charWidth) hmem
    simp only [Text.charWidth] at this hfits
    simp only [Rect.isEmpty, Bool.or_eq_false_iff, decide_eq_false_iff_not]
    omega
  refine ⟨p, ?_⟩
  rw [← breadth_eq_columns hbefore, ← get?_putSymbols _ _ _ _ _ hwidth, ← hcut]
  rw [Span.allSymbols] at hall
  simp [paragraph, hempty, hall, hfitting]

end Canvas

/-! ## Drawings -/

/-- The part of a pane behind its border and one column. -/
theorem Rect.inside_indent (area : Rect) (hwidth : 1 ≤ area.width) (hheight : 1 ≤ area.height) :
    area.inside.indent 1 = ⟨area.x + 2, area.y + 1, area.width - 3, area.height - 2⟩ := by
  simp only [inside, indent, right, bottom, Nat.sub_sub]
  rw [Nat.min_eq_left (by omega), Nat.min_eq_left (by omega)]

/-- The pane is drawn first, and the line into what its border leaves of the area. -/
theorem Canvas.get?_inputPane {c : Canvas} {area : Rect} {spans : List Span}
    (hshows : c.Shows area) (hprintable : ∀ a ∈ spans.flatMap Span.text, Text.isPrintable a)
    (hroom : Text.columns Text.charWidth (spans.flatMap Span.text) + 4 ≤ area.width)
    (focused : Bool) {i : Nat} {a : Char} (ha : (spans.flatMap Span.text)[i]? = some a) :
    ((c.inputPane area focused spans).get?
      (area.x + 2 + Text.columns Text.charWidth ((spans.flatMap Span.text).take i))
      (area.y + 1)).map Cell.symbol = some [a] := by
  have hheight := hshows.height_le
  have hinside := area.inside_indent (by omega) (by omega)
  have hle := Text.columns_take_le (w := Text.charWidth) (spans.flatMap Span.text) i
  have hsame : c.SameSize (c.pane area " Input " focused) := c.sameSize_frame _ _ _
  obtain ⟨cell, hcell⟩ := hshows.exists_cell hsame
    (x := area.x + 2 + Text.columns Text.charWidth ((spans.flatMap Span.text).take i))
    (by rw [Rect.right]; omega)
  obtain ⟨p, hdrawn⟩ := Canvas.get?_paragraph (area.inside.indent 1) hprintable
    (by rw [hinside]; simp only; omega) (by rw [hinside]; simp only; omega) ha
    (c.pane area " Input " focused)
  rw [hinside] at hdrawn
  simp only [hcell] at hdrawn
  simp [Canvas.inputPane, hinside, hdrawn, Cell.write]

/-- A way to draw the input line, and all that the line relies on. -/
structure Drawing where
  /-- a character that is shown by itself -/
  isPrintable : Char → Bool
  /-- the columns of such a character -/
  columns : Char → Nat
  /-- spans put into a pane that has the focus or has it not -/
  draw : Canvas → Rect → Bool → List Span → Canvas
  /-- a printable character takes one or two columns -/
  one_or_two : ∀ c, isPrintable c → columns c = 1 ∨ columns c = 2
  /-- printable characters that fit are drawn one behind the other, from the first column behind the
  border and a blank one -/
  drawn : ∀ (canvas : Canvas) (area : Rect) (focused : Bool) (spans : List Span),
    let s := spans.flatMap Span.text
    canvas.Shows area → (∀ c ∈ s, isPrintable c) → Text.columns columns s + 4 ≤ area.width →
    ∀ i c, s[i]? = some c →
      ((draw canvas area focused spans).get? (area.x + 2 + Text.columns columns (s.take i))
        (area.y + 1)).map Cell.symbol = some [c]

/-- How the workbench draws its input line. -/
def Drawing.workbench : Drawing where
  isPrintable := Text.isPrintable
  columns := Text.charWidth
  draw := Canvas.inputPane
  one_or_two _ := Text.width_of_isPrintable
  drawn _ _ focused _ hshows hprintable hroom _ _ :=
    Canvas.get?_inputPane hshows hprintable hroom focused

/-! ## The input line -/

/-- With room to spare the cursor is not held back. -/
theorem cursorColumn_eq {area : Rect} {cursor : Nat} (hmax : area.right ≤ maxColumn)
    (hroom : cursor + 4 ≤ area.width) : cursorColumn area cursor = area.x + 2 + cursor := by
  simp only [cursorColumn, Rect.right, maxColumn] at *
  omega

/-- Each character is drawn behind the columns of those before it: the highlighting gives the line
to the drawing as a whole. -/
theorem Drawing.get?_inputWith (d : Drawing) {f : Frame} {area : Rect} {s : Text}
    (hprintable : ∀ c ∈ s, d.isPrintable c) (hshows : f.canvas.Shows area)
    (hroom : Text.columns d.columns s + 4 ≤ area.width) (cursor : Nat) (focused : Bool) {i : Nat}
    {c : Char} (hc : s[i]? = some c) :
    ((f.inputWith d.draw area s cursor focused).canvas.get?
      (area.x + 2 + Text.columns d.columns (s.take i)) (area.y + 1)).map Cell.symbol =
        some [c] := by
  have hne : s.isEmpty = false :=
    List.isEmpty_eq_false_iff.mpr (List.ne_nil_of_mem (List.mem_of_getElem? hc))
  have hdrawn := d.drawn f.canvas area focused (highlight s) hshows
  simp only [flatMap_text_highlight] at hdrawn
  simpa [Frame.inputWith, hne] using hdrawn hprintable hroom i c hc

/-- **The cursor of the input line stands where the next character goes exactly if no wide
character comes before it**, in the workbench and however else the line is drawn. Let a line of
printable characters fit into its pane with a column to spare. Each character is drawn behind the
columns of those before it, but the cursor is as many columns from the left as there are characters
before it. -/
theorem input_cursor_iff (d : Drawing) (f : Frame) (area : Rect) (s : Text) (cursor : Nat)
    (hprintable : ∀ c ∈ s, d.isPrintable c) (hcursor : cursor ≤ s.length)
    (hshows : f.canvas.Shows area) (hroom : Text.columns d.columns s + 4 ≤ area.width) :
    Frame.input = Frame.inputWith Drawing.workbench.draw ∧
    (∀ i c, s[i]? = some c →
      ((f.inputWith d.draw area s cursor true).canvas.get?
        (area.x + 2 + Text.columns d.columns (s.take i)) (area.y + 1)).map Cell.symbol =
          some [c]) ∧
    (f.inputWith d.draw area s cursor true).cursor = some (area.x + 2 + cursor, area.y + 1) ∧
    ((f.inputWith d.draw area s cursor true).cursor =
        some (area.x + 2 + Text.columns d.columns (s.take cursor), area.y + 1) ↔
      ∀ c ∈ s.take cursor, d.columns c = 1) := by
  have hlength := Text.length_le_columns fun c hc => d.one_or_two c (hprintable c hc)
  have hplace : (f.inputWith d.draw area s cursor true).cursor =
      some (area.x + 2 + cursor, area.y + 1) := by
    rw [← cursorColumn_eq hshows.right_le_max (by omega)]
    rfl
  refine ⟨rfl, fun i c hc => d.get?_inputWith hprintable hshows hroom cursor true hc, hplace, ?_⟩
  have htake : ∀ c ∈ s.take cursor, d.columns c = 1 ∨ d.columns c = 2 :=
    fun c hc => d.one_or_two c (hprintable c (List.mem_of_mem_take hc))
  rw [hplace, ← Text.columns_eq_length_iff htake, List.length_take, Nat.min_eq_left hcursor]
  simp only [Option.some.injEq, Prod.mk.injEq, and_true]
  omega

/-- Before the wide character of `1世` the cursor is in its place, and behind it it is not. -/
theorem input_cursor_iff_mixed :
    let f := Frame.blank 20 3
    let area : Rect := ⟨0, 0, 20, 3⟩
    let s := ['1', '世']
    (∀ c ∈ s, Text.isPrintable c) ∧ 2 ≤ s.length ∧ f.canvas.Shows area ∧
      Text.columns Text.charWidth s + 4 ≤ area.width ∧
      (f.input area s 1 true).cursor = some (2 + Text.columns Text.charWidth (s.take 1), 1) ∧
      (f.input area s 2 true).cursor ≠ some (2 + Text.columns Text.charWidth (s.take 2), 1) := by
  intro f area s
  have hprintable : ∀ c ∈ s, Text.isPrintable c :=
    List.all_eq_true.mp (show s.all Text.isPrintable = true by decide +kernel)
  have hshows : f.canvas.Shows area :=
    ⟨Array.size_replicate, by decide, by decide, by decide, by decide⟩
  have hroom : Text.columns Text.charWidth s + 4 ≤ area.width := by decide +kernel
  have hnarrow : Text.charWidth '1' = 1 := by decide +kernel
  have hwide : Text.charWidth '世' ≠ 1 := by decide +kernel
  have hiff := fun cursor hcursor =>
    (input_cursor_iff .workbench f area s cursor hprintable hcursor hshows hroom).2.2.2
  refine ⟨hprintable, Nat.le_refl 2, hshows, hroom, ?_, ?_⟩
  · exact (hiff 1 (by decide)).mpr (by simpa [s, Drawing.workbench] using hnarrow)
  · exact mt (hiff 2 (by decide)).mp (by simpa [s, Drawing.workbench] using fun _ => hwide)

/-- Behind `世`, which takes the columns 2 and 3, the cursor stands in column 3: on the character,
and not behind it. -/
theorem input_cursor_ne :
    let f := (Frame.blank 20 3).input ⟨0, 0, 20, 3⟩ ['世'] 1 true
    Text.isPrintable '世' = true ∧ Text.charWidth '世' = 2 ∧
      (f.canvas.get? 2 1).map Cell.symbol = some ['世'] ∧ f.cursor = some (3, 1) ∧
      f.cursor ≠ some (2 + Text.columns Text.charWidth ['世'], 1) := by
  decide +kernel

end Reckon
