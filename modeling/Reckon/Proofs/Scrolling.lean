import Reckon.Proofs.Sessions

/-!
# Drawing and scrolling

A drawing brings the offsets of the scrolling panes to where rows are, and changes nothing else of
the workbench. This is so in any state and for any layout: an offset may be as large as it can get,
there may be fewer rows than at the last drawing, and a pane may have shrunk to nothing.

* `shownRows`: the rows that a pane shows from its offset on.
* `settle`, `Settled`: where a drawing leaves an offset, and what is visible there.
* `Canvas.rowsPane`: what the scrolling panes have in common. Each of them is one.
* `Workbench.picture`: the screen with given rows in the panes.
* `render_settles`: **a drawing settles the offsets**, and a second one finds them settled.
-/

namespace Reckon

/-! ## Windows -/

/-- How many of its rows a pane shows: as many as fit between its borders, and one at least. -/
def shownCount (total height : Nat) : Nat := min total (max 1 (height - 2))

/-- The program has room for so many. -/
theorem shownCount_eq (total height : Nat) :
    shownCount total height = min total (paneRoom height) := rfl

/-- The rows that a pane of the given height shows from an offset on. -/
def shownRows {α : Type} (rows : List α) (height offset : Nat) : List α :=
  (rows.drop offset).take (shownCount rows.length height)

/-- The offset after a drawing: the same, or the last one at which the pane is full. A pane that has
nothing to show leaves it alone. -/
def settle (total height offset : Nat) : Nat :=
  if total = 0 then offset else min offset (total - shownCount total height)

/-- A drawing has brought the offset of a pane to where rows are. -/
structure Settled {α : Type} (rows : List α) (height before after : Nat) : Prop where
  /-- a pane that has nothing to show leaves its offset alone -/
  idle : rows = [] → after = before
  /-- an offset is moved back only, and no further than needed -/
  nearest : rows ≠ [] → after = min before (rows.length - shownCount rows.length height)
  /-- the rows below the offset fill the pane -/
  inRange : rows ≠ [] → after ≤ rows.length - shownCount rows.length height
  /-- so many rows are shown as there is room for -/
  full : rows ≠ [] → (shownRows rows height after).length = shownCount rows.length height
  /-- there is always one -/
  nonempty : rows ≠ [] → shownRows rows height after ≠ []

section Windows

variable {α : Type} {rows : List α} (height offset : Nat)

theorem settle_settle (total : Nat) :
    settle total height (settle total height offset) = settle total height offset := by
  rw [settle, settle]
  split
  · rfl
  · rw [Nat.min_assoc, Nat.min_self]

theorem offset_window {total : Nat} (h : total ≠ 0) :
    (window total height offset).offset = settle total height offset := by
  rw [settle, if_neg h, shownCount_eq]
  change (if paneRoom height < total then min offset (total - paneRoom height) else 0) = _
  split
  case isTrue hroom => rw [Nat.min_eq_right (Nat.le_of_lt hroom)]
  case isFalse hroom => rw [Nat.min_eq_left (Nat.not_lt.1 hroom), Nat.sub_self, Nat.min_zero]

theorem length_shownRows (h : offset ≤ rows.length - shownCount rows.length height) :
    (shownRows rows height offset).length = shownCount rows.length height := by
  have hle : shownCount rows.length height ≤ rows.length := Nat.min_le_left _ _
  rw [shownRows, List.length_take, List.length_drop]
  omega

theorem shownRows_ne_nil (hrows : rows ≠ [])
    (h : offset ≤ rows.length - shownCount rows.length height) :
    shownRows rows height offset ≠ [] := by
  apply List.ne_nil_of_length_pos
  have hpos := List.length_pos_iff.2 hrows
  rw [length_shownRows height offset h, shownCount]
  omega

theorem settled_settle : Settled rows height offset (settle rows.length height offset) := by
  by_cases hrows : rows = []
  · subst hrows
    exact ⟨fun _ => rfl, nofun, nofun, nofun, nofun⟩
  · have hlength : rows.length ≠ 0 := mt List.length_eq_zero_iff.1 hrows
    have hnearest : settle rows.length height offset =
        min offset (rows.length - shownCount rows.length height) := if_neg hlength
    have hle : settle rows.length height offset ≤ rows.length - shownCount rows.length height := by
      rw [hnearest]
      exact Nat.min_le_right _ _
    exact ⟨fun h => absurd h hrows, fun _ => hnearest, fun _ => hle,
      fun _ => length_shownRows _ _ hle, fun _ => shownRows_ne_nil _ _ hrows hle⟩

/-- The window selects the visible rows: its room beyond them is not used. -/
theorem select_window (h : rows ≠ []) :
    (window rows.length height offset).select rows =
      shownRows rows height (settle rows.length height offset) := by
  have hlength : rows.length ≠ 0 := mt List.length_eq_zero_iff.1 h
  rw [Window.select, offset_window height offset hlength, shownRows, shownCount_eq]
  change List.take (paneRoom height) _ = _
  generalize settle rows.length height offset = o
  rcases Nat.le_total rows.length (paneRoom height) with hroom | hroom
  · have hdrop : (rows.drop o).length ≤ rows.length := by
      rw [List.length_drop]
      exact Nat.sub_le _ _
    rw [Nat.min_eq_left hroom, List.take_of_length_le hdrop]
    exact List.take_of_length_le (Nat.le_trans hdrop hroom)
  · rw [Nat.min_eq_right hroom]

end Windows

/-! ## Panes -/

/-- A pane with the given rows; without any, it says so. -/
def Canvas.rowsPane {α : Type} (c : Canvas) (area inside : Rect) (title note : String)
    (focused : Bool) (item : α → Item) (rows : List α) : Canvas :=
  if rows.isEmpty then c.emptyPane area title note focused
  else (c.pane area title focused).list inside (rows.map item)

section Panes

variable (c : Canvas) (area : Rect) (focused : Bool) (offset : Nat)

/-- A pane that has rows is drawn with those in its window. -/
theorem Canvas.rowsPane_of_window {α : Type} {rows : List α} (h : rows ≠ []) (inside : Rect)
    (title note : String) (item : α → Item) :
    let w := window rows.length area.height offset
    let offset' := settle rows.length area.height offset
    ((c.pane area title focused).list inside ((w.select rows).map item), w.offset) =
      (c.rowsPane area inside title note focused item (shownRows rows area.height offset'),
        offset') := by
  intro w offset'
  have hsettled : Settled rows area.height offset offset' := settled_settle area.height offset
  have hlength : rows.length ≠ 0 := mt List.length_eq_zero_iff.1 h
  rw [select_window area.height offset h, offset_window area.height offset hlength, rowsPane,
    if_neg]
  exact mt List.isEmpty_iff.1 (hsettled.nonempty h)

/-- What the frame of the tokens says. -/
def tokensTitle : Option (List Token) → String
  | some tokens => " Tokens (" ++ toString tokens.length ++ ") "
  | none => " Tokens "

theorem Canvas.tokensPane_eq (tokens? : Option (List Token)) :
    let rows := tokens?.getD []
    let offset' := settle rows.length area.height offset
    c.tokensPane area tokens? focused offset =
      (c.rowsPane area area.inside (tokensTitle tokens?) "(no tokens)" focused
        (fun t => ⟨[t.row], .none⟩) (shownRows rows area.height offset'), offset') := by
  rcases tokens? with _ | _ | ⟨t, ts⟩
  · rfl
  · rfl
  · exact c.rowsPane_of_window area focused offset (List.cons_ne_nil t ts) _ _ _ _

theorem Canvas.treePane_eq (tree? : Option Expr) :
    let rows := (tree?.map Expr.rows).getD []
    let offset' := settle rows.length area.height offset
    c.treePane area tree? focused offset =
      (c.rowsPane area area.inside " Syntax Tree " "(nothing parsed yet)" focused
        (fun r => ⟨[r.spans], .none⟩) (shownRows rows area.height offset'), offset') := by
  cases tree? with
  | none => rfl
  | some tree =>
    have hrows : tree.rows ≠ [] := by
      cases tree <;> exact List.cons_ne_nil _ _
    exact c.rowsPane_of_window area focused offset hrows _ _ _ _

theorem Canvas.transcriptPane_eq (t : Transcript) :
    let offset' := settle t.lines.length area.height offset
    c.transcriptPane area t focused offset =
      (c.rowsPane area (area.inside.indent 1) " Transcript " "(no output)" focused
        TranscriptLine.item (shownRows t.lines area.height offset'), offset') := by
  intro offset'
  rw [transcriptPane]
  split
  case isTrue h =>
    have hrows := List.isEmpty_iff.1 h
    simp only [offset', hrows]
    rfl
  case isFalse h =>
    exact c.rowsPane_of_window area focused offset (mt List.isEmpty_iff.2 h) _ _ _ _

end Panes

/-! ## The screen -/

/-- Rows for the scrolling panes. -/
structure PaneRows where
  /-- lines of the transcript -/
  transcript : List TranscriptLine
  /-- tokens -/
  tokens : List Token
  /-- rows of the tree -/
  tree : List TreeRow

/-- The rows that are visible in the panes when they are scrolled so far. -/
def PaneRows.shown (rows : PaneRows) (areas : Areas) (scroll : Scroll) : PaneRows where
  transcript := shownRows rows.transcript areas.transcript.height scroll.transcript
  tokens := shownRows rows.tokens areas.tokens.height scroll.tokens
  tree := shownRows rows.tree areas.tree.height scroll.tree

/-- The offsets after a drawing. -/
def PaneRows.settle (rows : PaneRows) (areas : Areas) (scroll : Scroll) : Scroll where
  tokens := Reckon.settle rows.tokens.length areas.tokens.height scroll.tokens
  tree := Reckon.settle rows.tree.length areas.tree.height scroll.tree
  transcript := Reckon.settle rows.transcript.length areas.transcript.height scroll.transcript

theorem PaneRows.settle_settle (rows : PaneRows) (areas : Areas) (scroll : Scroll) :
    rows.settle areas (rows.settle areas scroll) = rows.settle areas scroll := by
  simp only [settle, Reckon.settle_settle]

namespace Workbench

/-- All rows that there are to show. -/
def rows (w : Workbench) : PaneRows where
  transcript := w.transcript.lines
  tokens := (w.lastRun.map Outcome.tokens).getD []
  tree := ((w.lastRun.map Outcome.tree).map Expr.rows).getD []

/-- The screen of a workbench with just these rows in its panes. Its own offsets play no part. -/
def picture (w : Workbench) (areas : Areas) (width height : Nat) (shown : PaneRows) : Frame :=
  let f := (Frame.blank width height).input areas.input w.editor.line w.editor.cursor
    (w.focus = .input)
  let c := f.canvas.rowsPane areas.transcript (areas.transcript.inside.indent 1) " Transcript "
    "(no output)" (w.focus = .transcript) TranscriptLine.item shown.transcript
  let c := c.rowsPane areas.tokens areas.tokens.inside (tokensTitle (w.lastRun.map Outcome.tokens))
    "(no tokens)" (w.focus = .tokens) (fun t => ⟨[t.row], .none⟩) shown.tokens
  let c := c.rowsPane areas.tree areas.tree.inside " Syntax Tree " "(nothing parsed yet)"
    (w.focus = .tree) (fun r => ⟨[r.spans], .none⟩) shown.tree
  let c := c.statusBar areas.status w.status w.transcript.runs w.transcript.successes
    (w.lastRun.map Outcome.isSuccess)
  ⟨c, f.cursor⟩

/-- What a drawing does. -/
theorem renderWith_eq (layout : Nat → Nat → Areas) (w : Workbench) (width height : Nat) :
    let areas := layout width height
    let scroll := w.rows.settle areas w.scroll
    w.renderWith layout width height =
      ({ w with scroll }, w.picture areas width height (w.rows.shown areas scroll)) := by
  simp only [renderWith, Canvas.transcriptPane_eq, Canvas.tokensPane_eq, Canvas.treePane_eq]
  rfl

end Workbench

/-- **A drawing settles the offsets.** It changes nothing but the offsets of the scrolling panes, in
any state of the workbench, on a screen of any size and wherever the layout has the panes. Each
offset is moved back, if need be, to where the rows from there on fill the pane; the pane shows
these rows, of which there is always one; and a pane without rows leaves its offset alone. Another
drawing of the same size changes nothing, and draws the same. -/
theorem render_settles (layout : Nat → Nat → Areas) (w : Workbench) (width height : Nat) :
    let areas := layout width height
    let (w', frame) := w.renderWith layout width height
    w' = { w with scroll := w'.scroll } ∧
    (Settled w.rows.tokens areas.tokens.height w.scroll.tokens w'.scroll.tokens ∧
      Settled w.rows.tree areas.tree.height w.scroll.tree w'.scroll.tree ∧
      Settled w.rows.transcript areas.transcript.height w.scroll.transcript
        w'.scroll.transcript) ∧
    frame = w.picture areas width height (w.rows.shown areas w'.scroll) ∧
    w'.renderWith layout width height = (w', frame) := by
  intro areas
  rw [Workbench.renderWith_eq]
  refine ⟨rfl, ⟨settled_settle _ _, settled_settle _ _, settled_settle _ _⟩, rfl, ?_⟩
  have hsettled : w.rows.settle areas (w.rows.settle areas w.scroll) =
      w.rows.settle areas w.scroll := w.rows.settle_settle areas w.scroll
  rw [Workbench.renderWith_eq]
  -- the first drawing has left the rows as they were, and all else that is drawn
  change ({ w with scroll := w.rows.settle areas (w.rows.settle areas w.scroll) },
    w.picture areas width height
      (w.rows.shown areas (w.rows.settle areas (w.rows.settle areas w.scroll)))) = _
  rw [hsettled]

/-- A run scrolls the transcript as far as can be, and a page down the tokens beyond their end. On a
screen of twelve rows the tokens have room for two and the transcript for six, and the drawing goes
back to the last of them. -/
theorem render_settles_saturated :
    let submit (line : String) : List Action :=
      line.toList.map (fun c => .press (.char c)) ++ [.press .enter]
    let actions := submit "1+2" ++ submit "7" ++ submit "8" ++ submit "1*2-3" ++
      [.press .tab, .press .pageDown]
    let w := actions.foldl Workbench.act .start
    let w' := (w.render 40 12).1
    w.scroll = ⟨5, 0, maxScroll⟩ ∧ w'.scroll.tokens = 3 ∧ w'.scroll.transcript = 2 ∧
      (shownRows w.rows.tokens 4 3).map Token.lexeme = [['-'], ['3']] ∧
      (shownRows w.rows.transcript 8 2).map TranscriptLine.text =
        ["7", "7", "8", "8", "1*2-3", "-1"] ∧
      (w'.render 40 12).1 = w' := by
  intro submit actions w w'
  obtain ⟨-, ⟨htokens, -, htranscript⟩, -, hagain⟩ := render_settles Areas.ofSize w 40 12
  have hoffset : w'.scroll.tokens = 3 :=
    (htokens.nearest (by decide +kernel)).trans (by decide +kernel)
  have hoffset' : w'.scroll.transcript = 2 :=
    (htranscript.nearest (by decide +kernel)).trans (by decide +kernel)
  exact ⟨by decide +kernel, hoffset, hoffset', by decide +kernel, by decide +kernel,
    congrArg Prod.fst hagain⟩

end Reckon
