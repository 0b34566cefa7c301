import Mathlib.Data.List.Basic
import Reckon.Command.Program

/-!
# Messages of one line

Source text reaches what the program writes through many messages, quoted in some of them and bare
in others. This module goes through the pieces that messages are made of and says when they hold no
newline.

* `OneLine`: a text without a newline. It goes through `++`, so a message is looked at piece by
  piece.
* `newline_notMem_escape`: quoting leaves no newline, whatever is quoted, so every literal is
  printed on one line (`Literal.oneLine_display`).
* `Diagnostic.Plain`: the faults that name no newline. The bare pieces of a fault are the character
  of an unknown escape and the lexeme of a number; all else is fixed words and numbers.
* `Event.Plain`: the same for events, whose bare pieces are those of faults and the lexemes of
  identifiers.
* `Event.Plain.oneLine_message`: such an event is told on one line.
-/

namespace Reckon

/-- The text has no newline. -/
def OneLine (s : String) : Prop := '\n' ∉ s.toList

instance (s : String) : Decidable (OneLine s) := inferInstanceAs (Decidable ('\n' ∉ s.toList))

/-! ## Pieces -/

theorem OneLine.append {s t : String} (hs : OneLine s) (ht : OneLine t) : OneLine (s ++ t) := by
  rw [OneLine, String.toList_append, List.mem_append]
  exact not_or.2 ⟨hs, ht⟩

theorem OneLine.ofList {s : Text} (h : '\n' ∉ s) : OneLine (String.ofList s) := by
  rwa [OneLine, String.toList_ofList]

/-- Fixed words: a string literal is the list of its characters, and these are looked through. -/
theorem OneLine.words {s : Text} (h : s.elem '\n' = false) : OneLine (String.ofList s) :=
  .ofList (by simpa using h)

theorem OneLine.singleton {c : Char} (h : c ≠ '\n') : OneLine (String.singleton c) := by
  simpa [OneLine] using h.symm

/-- Digits hold no newline, whatever their base. -/
theorem newline_notMem_toDigits {base : Nat} (hbase : 1 < base) (n : Nat) :
    '\n' ∉ Nat.toDigits base n := by
  induction n using Nat.strongRecOn with
  | ind n ih =>
    rw [Nat.toDigits_eq_if hbase]
    split
    · simp
    · rename_i hle
      have hlt : n / base < n := Nat.div_lt_self (by omega) hbase
      simpa using ih _ hlt

theorem oneLine_nat (n : Nat) : OneLine (toString n) := by
  rw [OneLine, Nat.toString_eq_repr, Nat.toList_repr]
  exact newline_notMem_toDigits (by decide) n

theorem oneLine_int (n : Int) : OneLine (toString n) := by
  rw [Int.toString_eq_repr, Int.repr_eq_if]
  split
  · exact oneLine_nat _
  · exact .append (.words rfl) (oneLine_nat _)

theorem OneLine.padLeft {s : String} (h : OneLine s) {fill : Char} (hfill : fill ≠ '\n')
    (width : Nat) : OneLine (Text.padLeft fill width s) :=
  .append (.ofList (by simpa using fun _ => hfill.symm)) h

theorem OneLine.padRight {s : String} (h : OneLine s) (width : Nat) :
    OneLine (Text.padRight width s) :=
  .append h (.ofList (by simp))

/-! ## Quoted text -/

/-- No character is quoted by a newline: the newline itself has an escape. -/
theorem newline_notMem_escape {quote : Char} (hquote : quote ≠ '\n') (c : Char) :
    '\n' ∉ Text.escape quote c := by
  rw [Text.escape]
  split
  · rename_i letter hletter
    have hne : letter ≠ '\n' := by
      unfold Text.shortEscape? at hletter
      split at hletter <;> cases hletter <;> decide
    simpa using hne.symm
  · rename_i hshort
    have hne : c ≠ '\n' := by
      rintro rfl
      cases hshort
    split
    · simpa using hquote.symm
    split
    · simpa using hne.symm
    · simpa [Text.hexDigits] using newline_notMem_toDigits (by decide) c.toNat

theorem newline_notMem_quotedWith {quote : Char} (hquote : quote ≠ '\n') (s : Text) :
    '\n' ∉ Text.quotedWith quote s := by
  simpa [Text.quotedWith, hquote.symm] using fun c _ => newline_notMem_escape hquote c

theorem oneLine_quoted (s : Text) : OneLine (Text.quoted s) :=
  .ofList (newline_notMem_quotedWith (by decide) s)

theorem oneLine_quotedChar (c : Char) : OneLine (Text.quotedChar c) :=
  .ofList (newline_notMem_quotedWith (by decide) [c])

/-! ## Literals, tokens and trees -/

/-- A decimal is printed on one line if what may follow a whole number is. -/
theorem Layout.oneLine_render {l : Layout} (hl : OneLine l.wholeSuffix) (d : Decimal) :
    OneLine (l.render d) := by
  have hdigits : '\n' ∉ d.digits := newline_notMem_toDigits (by decide) d.coeff
  rw [render]
  split
  · rw [renderPositional]
    dsimp only
    split
    · exact .append (.ofList (by simpa using hdigits)) hl
    split
    · apply OneLine.ofList
      intro h
      rcases List.mem_append.1 h with h | h
      · exact hdigits (List.mem_of_mem_take h)
      · exact hdigits (List.mem_of_mem_drop (List.mem_of_ne_of_mem (by decide) h))
    · exact .ofList (by simpa using hdigits)
  · rw [renderExponent]
    split
    · exact .words rfl
    · rename_i c hc
      rw [hc] at hdigits
      exact .append (.ofList (by simpa using hdigits)) (oneLine_int _)
    · rename_i c rest _ hc
      rw [hc] at hdigits
      exact .append (.ofList (by simpa using hdigits)) (oneLine_int _)

theorem Literal.oneLine_display (v : Literal) : OneLine v.display := by
  cases v with
  | int n => exact oneLine_int _
  | uint n => exact .append (oneLine_nat _) (.words rfl)
  | float x =>
    exact .append (Layout.oneLine_render (l := floatLayout) (.words rfl) _) (.words rfl)
  | double x => exact Layout.oneLine_render (l := doubleLayout) (.words rfl) _
  | char c => exact oneLine_quotedChar c
  | str s => exact oneLine_quoted s

theorem Kind.oneLine_of_spelling? {k : Kind} {s : String} (h : k.spelling? = some s) :
    OneLine s := by
  cases k <;> cases h <;> exact .words rfl

theorem Kind.oneLine_describe (k : Kind) : OneLine k.describe := by
  rw [describe.eq_def]
  split
  · rename_i s hs
    exact .append (.append (.words rfl) (oneLine_of_spelling? hs)) (.words rfl)
  · cases k <;> exact .words rfl

/-- Of an identifier the lexeme is printed as it is, and of no other token. -/
theorem Token.oneLine_display {t : Token} (h : '\n' ∉ t.lexeme) : OneLine t.display := by
  rw [display]
  split
  · exact .append (.append (.append (.append t.kind.oneLine_describe (.words rfl))
      (Literal.oneLine_display _)) (.words rfl)) (oneLine_nat _)
  split
  · exact .append (.append (.append (.words rfl) (.ofList h)) (.words rfl)) (oneLine_nat _)
  · exact .append (.append t.kind.oneLine_describe (.words rfl)) (oneLine_nat _)

theorem Operator.oneLine_symbol (op : Operator) : OneLine (String.singleton op.symbol) :=
  .singleton (by cases op <;> decide)

theorem Expr.oneLine_label (e : Expr) : OneLine e.label := by
  rw [label.eq_def]
  split
  · split
    · exact .append (.words rfl) (Literal.oneLine_display _)
    · exact .words rfl
  · exact .append (.append (.words rfl) (Operator.oneLine_symbol _)) (.words rfl)

theorem Expr.oneLine_indented (e : Expr) (depth : Nat) :
    OneLine (String.ofList (List.replicate (2 * depth) ' ') ++ e.label) :=
  .append (.ofList (by simp)) e.oneLine_label

/-- No line of a tree has a newline in it, whatever tokens the tree is made of. -/
theorem Expr.oneLine_of_mem_outlineFrom {e : Expr} {depth : Nat} {line : String}
    (h : line ∈ e.outlineFrom depth) : OneLine line := by
  induction e generalizing depth with
  | number t =>
    rw [outlineFrom, List.mem_singleton] at h
    rw [h]
    exact oneLine_indented _ depth
  | node op t d l r ihl ihr =>
    rw [outlineFrom] at h
    rcases List.mem_cons.1 h with rfl | h
    · exact oneLine_indented _ depth
    rcases List.mem_append.1 h with h | h
    · exact ihl h
    · exact ihr h

/-! ## Faults, errors and events -/

/-- The fault names no newline. -/
def Diagnostic.Plain : Diagnostic → Prop
  | .badEscape c _ => c ≠ '\n'
  | .badNumber lexeme _ _ => '\n' ∉ lexeme
  | _ => True

theorem NumberType.oneLine_name (t : NumberType) : OneLine t.name := by
  cases t <;> exact .words rfl

theorem Diagnostic.Plain.oneLine_message {d : Diagnostic} (h : d.Plain) : OneLine d.message := by
  have hcause : OneLine d.cause := by
    cases d with
    | openString | openChar | emptyChar | openComment => exact .words rfl
    | badEscape c p => exact .append (.append (.words rfl) (.singleton h)) (.words rfl)
    | badNumber lexeme type p =>
      exact .append (.append (.append (.append (.words rfl) (.ofList h)) (.words rfl))
        type.oneLine_name) (.words rfl)
    | unexpected expected found p =>
      exact .append (.append (.append (.append (.words rfl) expected.oneLine_describe) (.words rfl))
        found.oneLine_describe) (.words rfl)
    | trailing found p =>
      exact .append (.append (.words rfl) found.oneLine_describe) (.words rfl)
    | tooDeep limit p => exact .append (.append (.words rfl) (oneLine_nat _)) (.words rfl)
  exact .append (.append hcause (.words rfl)) (oneLine_nat _)

/-- The errors of arithmetic. -/
def EvalError.IsArithmetic : EvalError → Prop
  | .divisionByZero _ | .overflow .. => True
  | _ => False

theorem EvalError.IsArithmetic.oneLine_message {e : EvalError} (h : e.IsArithmetic) :
    OneLine e.message := by
  have hcause : OneLine e.cause := by
    cases e with
    | divisionByZero => exact .words rfl
    | overflow l op r p =>
      exact .append (.append (.append (.append (.append (.words rfl) (oneLine_int _)) (.words rfl))
        op.oneLine_symbol) (.words rfl)) (oneLine_int _)
    | notInteger | outOfRange | missingValue => exact absurd h id
  exact .append (.append hcause (.words rfl)) (oneLine_nat _)

/-- The event names no newline, but for those in the text of a run. -/
def Event.Plain : Event → Prop
  | .found d => d.Plain
  | .token t => '\n' ∉ t.lexeme
  | .failed _ e => e.IsArithmetic
  | _ => True

/-- The text of a run is quoted where an event names it. -/
theorem Event.Plain.oneLine_message {e : Event} (h : e.Plain) : OneLine e.message := by
  cases e with
  | stripped before after =>
    exact .append (.append (.append (.append (.words rfl) (oneLine_nat _)) (.words rfl))
      (oneLine_nat _)) (.words rfl)
  | found d => exact .append (.words rfl) (Diagnostic.Plain.oneLine_message h)
  | token t => exact .append (.words rfl) (Token.oneLine_display h)
  | lexed n | parsed n => exact .append (.append (.words rfl) (oneLine_nat _)) (.words rfl)
  | joined op => exact .append (.append (.words rfl) op.oneLine_symbol) (.words rfl)
  | tooDeep limit p =>
    exact .append (.append (.append (.words rfl) (oneLine_nat _)) (.words rfl)) (oneLine_nat _)
  | evaluated s v =>
    exact .append (.append (.append (.words rfl) (oneLine_quoted s)) (.words rfl)) (oneLine_int _)
  | failed s err =>
    exact .append (.append (.append (.words rfl) (oneLine_quoted s)) (.words rfl))
      (EvalError.IsArithmetic.oneLine_message h)
  | skipped s n =>
    exact .append (.append (.append (.append (.words rfl) (oneLine_quoted s)) (.words rfl))
      (oneLine_nat _)) (.words rfl)

end Reckon
