import Mathlib.Data.List.DropRight
import Mathlib.Data.List.Forall2
import Reckon.Command.Program

/-!
# Lines of a stream

A stream of bytes is run line by line, and what comes out is what the lines give one at a
time. Three things are said apart from the functions that do them: how a stream is cut into
lines (`Lines`), which bytes spell a text (`Text.bytes`), and which of the texts are run
(`entered`).

* **cutting** — every stream is cut in one way, the cut is the one that `byteLines` finds, and
  it goes through `++` when the first part ends with a newline;
* **spelling** — a newline byte stands only where a newline character does, so the lines of a
  stream that spells a text spell texts as well;
* **running** — lines that spell texts put what a single run prints of each before what comes
  after them, and the first line that spells none ends the program.
-/

namespace Reckon

/-! ## Cutting -/

/-- The lines of a stream: it is cut after each newline byte. Only the last line may lack
its newline, and no line is empty. -/
inductive Lines : List UInt8 → List (List UInt8) → Prop
  | nil : Lines [] []
  | last {line : List UInt8} : line ≠ [] → 10 ∉ line → Lines line [line]
  | cons {line rest : List UInt8} {lines : List (List UInt8)} :
      10 ∉ line → Lines rest lines → Lines (line ++ 10 :: rest) ((line ++ [10]) :: lines)

/-- Every stream is cut into lines. -/
theorem exists_lines (bytes : List UInt8) : ∃ lines, Lines bytes lines := by
  induction bytes with
  | nil => exact ⟨[], .nil⟩
  | cons b rest ih =>
    obtain ⟨lines, hlines⟩ := ih
    by_cases hb : b = 10
    · subst hb
      exact ⟨[10] :: lines, @Lines.cons [] rest lines (by simp) hlines⟩
    -- any other byte joins the line that the rest starts with
    · have hne : (10 : UInt8) ≠ b := fun h => hb h.symm
      cases hlines with
      | nil => exact ⟨[[b]], .last (by simp) (by simpa using hne)⟩
      | last _ hline => exact ⟨[b :: rest], .last (by simp) (by simp [hne, hline])⟩
      | @cons line rest lines hline hrest =>
        have hline' : 10 ∉ b :: line := by simp [hne, hline]
        exact ⟨(b :: line ++ [10]) :: lines, .cons hline' hrest⟩

/-- Bytes other than the newline are added to the line so far. -/
theorem byteLinesFrom_append {line : List UInt8} (hline : 10 ∉ line) (sofar : List UInt8)
    (before : List (List UInt8)) (rest : List UInt8) :
    byteLinesFrom sofar before (line ++ rest) =
      byteLinesFrom (line.reverse ++ sofar) before rest := by
  induction line generalizing sofar with
  | nil => rfl
  | cons b line ih =>
    obtain ⟨hb, hline⟩ : (10 : UInt8) ≠ b ∧ 10 ∉ line := by simpa using hline
    rw [List.cons_append, byteLinesFrom, if_neg hb.symm, ih hline]
    simp

theorem Lines.byteLinesFrom_eq {bytes : List UInt8} {lines : List (List UInt8)}
    (h : Lines bytes lines) (before : List (List UInt8)) :
    byteLinesFrom [] before bytes = before.reverse ++ lines := by
  induction h generalizing before with
  | nil => simp [byteLinesFrom]
  | @last line hne hline =>
    have hrun := byteLinesFrom_append hline [] before []
    simp only [List.append_nil] at hrun
    simp [hrun, byteLinesFrom, hne]
  | @cons line rest lines hline _ ih =>
    rw [byteLinesFrom_append hline, byteLinesFrom, if_pos rfl, ih]
    simp

/-- **The cut is the one that is found**; so there is only one. -/
theorem Lines.byteLines_eq {bytes : List UInt8} {lines : List (List UInt8)}
    (h : Lines bytes lines) : byteLines bytes = lines := by
  rw [byteLines, h.byteLinesFrom_eq, List.reverse_nil, List.nil_append]

/-- After a newline, or at the start, a new line begins. -/
theorem Lines.append {x y : List UInt8} {xs ys : List (List UInt8)} (hx : Lines x xs)
    (hy : Lines y ys) (hend : x = [] ∨ x.getLast? = some 10) : Lines (x ++ y) (xs ++ ys) := by
  induction hx with
  | nil => exact hy
  | last hne hline =>
    rcases hend with rfl | hend
    · exact absurd rfl hne
    · exact absurd (List.mem_of_getLast? hend) hline
  | @cons line rest lines hline _ ih =>
    have hrest : rest = [] ∨ rest.getLast? = some 10 := by
      rcases rest with _ | ⟨b, rest⟩
      · exact .inl rfl
      · right
        simpa [List.getLast?_append, List.getLast?_cons] using hend
    simpa using Lines.cons hline (ih hrest)

/-! ## Spelling -/

/-- The bytes of a text in UTF-8. -/
def Text.bytes (s : Text) : List UInt8 := s.flatMap String.utf8EncodeChar

@[simp] theorem Text.bytes_nil : Text.bytes [] = [] := rfl

@[simp] theorem Text.bytes_cons (c : Char) (s : Text) :
    Text.bytes (c :: s) = String.utf8EncodeChar c ++ Text.bytes s := rfl

@[simp] theorem Text.bytes_append (s t : Text) :
    Text.bytes (s ++ t) = Text.bytes s ++ Text.bytes t := by
  simp [Text.bytes]

theorem fromUTF8?_eq_some_iff {b : ByteArray} {t : String} :
    String.fromUTF8? b = some t ↔ t.toByteArray = b := by
  rw [String.fromUTF8?]
  constructor
  · intro h
    split at h
    · obtain rfl := Option.some.inj h
      rfl
    · contradiction
  · rintro rfl
    exact dif_pos t.isValidUTF8

/-- **Decoding inverts spelling.** -/
theorem decode?_eq_some_iff {bytes : List UInt8} {s : Text} :
    decode? bytes = some s ↔ bytes = Text.bytes s := by
  have harray : (⟨bytes.toArray⟩ : ByteArray) = bytes.toByteArray := by
    rw [ByteArray.ext_iff, List.data_toByteArray]
  have hencode : (Text.bytes s).toByteArray = (String.ofList s).toByteArray := by
    rw [String.toByteArray_ofList]
    rfl
  rw [decode?, harray, Option.map_eq_some_iff, ← List.toByteArray_inj, hencode]
  constructor
  · rintro ⟨t, ht, rfl⟩
    rw [String.ofList_toList, fromUTF8?_eq_some_iff.1 ht]
  · intro h
    exact ⟨String.ofList s, fromUTF8?_eq_some_iff.2 h.symm, String.toList_ofList⟩

/-- Only a newline has the newline byte in its spelling: all bytes of a longer spelling are
above it. -/
theorem newline_mem_encode_iff (c : Char) : 10 ∈ String.utf8EncodeChar c ↔ c = '\n' := by
  have hc : c = '\n' ↔ c.val.toNat = 10 := by
    rw [← Char.val_inj, ← UInt32.toNat_inj]
    rfl
  rw [hc]
  fun_cases String.utf8EncodeChar c <;>
    simp only [List.mem_cons, List.not_mem_nil, or_false, ← UInt8.toNat_inj, UInt8.toNat_ofNat',
      UInt8.reduceToNat] <;> omega

theorem Text.newline_mem_bytes_iff (s : Text) : 10 ∈ Text.bytes s ↔ '\n' ∈ s := by
  simp [Text.bytes, newline_mem_encode_iff]

/-- What stands before the first mark, and what stands after it. -/
theorem append_mark_inj {α : Type} {mark : α} {a b x y : List α} (ha : mark ∉ a) (hb : mark ∉ b)
    (h : a ++ mark :: x = b ++ mark :: y) : a = b ∧ x = y := by
  rcases List.append_eq_append_iff.1 h with ⟨mid, rfl, hmid⟩ | ⟨mid, rfl, hmid⟩
  all_goals
    rcases mid with _ | ⟨m, mid⟩
    · simp_all
    · obtain ⟨rfl, -⟩ := List.cons.inj hmid
      simp at ha hb

/-- Where a stream that spells a text has its first newline, the text has its own. -/
theorem Text.exists_of_bytes_eq {s : Text} {line rest : List UInt8} (hline : 10 ∉ line)
    (h : Text.bytes s = line ++ 10 :: rest) :
    ∃ t u : Text, line ++ [10] = Text.bytes t ∧ rest = Text.bytes u := by
  have hmem : '\n' ∈ s := by
    rw [← Text.newline_mem_bytes_iff, h]
    simp
  obtain ⟨t, u, rfl, ht⟩ := List.eq_append_cons_of_mem hmem
  have hnewline : String.utf8EncodeChar '\n' = [10] := by decide
  rw [← Text.newline_mem_bytes_iff] at ht
  rw [Text.bytes_append, Text.bytes_cons, hnewline] at h
  obtain ⟨rfl, rfl⟩ := append_mark_inj ht hline h
  exact ⟨t ++ ['\n'], u, by simp [hnewline], rfl⟩

/-- **The lines of a text spell texts.** -/
theorem Lines.exists_texts {bytes : List UInt8} {lines : List (List UInt8)} (h : Lines bytes lines)
    (s : Text) (hs : bytes = Text.bytes s) : ∃ texts : List Text, lines = texts.map Text.bytes := by
  induction h generalizing s with
  | nil => exact ⟨[], rfl⟩
  | last => exact ⟨[s], by simp [hs]⟩
  | cons hline _ ih =>
    obtain ⟨t, u, ht, hu⟩ := Text.exists_of_bytes_eq hline hs.symm
    obtain ⟨texts, rfl⟩ := ih u hu
    exact ⟨t :: texts, by simp [ht]⟩

/-- The lines up to the first one that spells no text. -/
theorem exists_readable (lines : List (List UInt8)) :
    ∃ (texts : List Text) (unread : List (List UInt8)), lines = texts.map Text.bytes ++ unread ∧
      ∀ line ∈ unread.head?, ∀ s, line ≠ Text.bytes s := by
  induction lines with
  | nil => exact ⟨[], [], rfl, by simp⟩
  | cons line lines ih =>
    by_cases hline : ∃ s, line = Text.bytes s
    · obtain ⟨s, rfl⟩ := hline
      obtain ⟨texts, unread, rfl, hunread⟩ := ih
      exact ⟨s :: texts, unread, rfl, hunread⟩
    · refine ⟨[], line :: lines, rfl, ?_⟩
      simpa using hline

/-! ## Running -/

/-- The texts that are run: the lines without the carriage returns and newlines at their
ends, unless nothing or only white space is left of them. -/
def entered (texts : List Text) : List Text :=
  (texts.map (List.rdropWhile fun c => c = '\r' || c = '\n')).filter
    fun s => !s.all Text.isWhiteSpace

@[simp] theorem entered_append (texts texts' : List Text) :
    entered (texts ++ texts') = entered texts ++ entered texts' := by
  simp [entered]

theorem entered_singleton (s : Text) :
    entered [s] = if (chomp s).isBlank then [] else [chomp s] := by
  have hfilter : entered [s] = [chomp s].filter fun s => !s.isBlank := rfl
  rw [hfilter, List.filter_singleton]
  cases (chomp s).isBlank <;> rfl

/-- What is printed of a single text, and what the log is told. -/
def answer (opts : Options) (s : Text) : String × List Entry :=
  (printed opts (run s), (run s).entries)

/-- A line that spells a text adds what its text gives. -/
theorem plainFrom_cons (opts : Options) (before : List (String × List Entry)) (s : Text)
    (rest : List (List UInt8)) :
    plainFrom opts before (Text.bytes s :: rest) =
      plainFrom opts (((entered [s]).map (answer opts)).reverse ++ before) rest := by
  have hs : decode? (Text.bytes s) = some s := decode?_eq_some_iff.2 rfl
  rw [plainFrom, hs, entered_singleton]
  dsimp only
  split
  · rfl
  · rfl

/-- **Lines that spell texts** are run one after the other. -/
theorem plainFrom_append (opts : Options) (before : List (String × List Entry))
    (texts : List Text) (rest : List (List UInt8)) :
    plainFrom opts before (texts.map Text.bytes ++ rest) =
      plainFrom opts (((entered texts).map (answer opts)).reverse ++ before) rest := by
  induction texts generalizing before with
  | nil => rfl
  | cons s texts ih =>
    have hentered : entered (s :: texts) = entered [s] ++ entered texts :=
      entered_append [s] texts
    rw [List.map_cons, List.cons_append, plainFrom_cons, ih, hentered]
    simp

/-- The first line that spells no text ends the program with an error; if there is none, it
ends without one. -/
theorem plainFrom_unread (opts : Options) (before : List (String × List Entry))
    {unread : List (List UInt8)} (hunread : ∀ line ∈ unread.head?, ∀ s, line ≠ Text.bytes s) :
    (plainFrom opts before unread).code = (if unread = [] then 0 else 1) ∧
      (plainFrom opts before unread).output = String.join (before.reverse.map (·.1)) := by
  rcases unread with _ | ⟨line, rest⟩
  · exact ⟨rfl, rfl⟩
  · have hline : decode? line = none := by
      rw [Option.eq_none_iff_forall_ne_some]
      intro s hs
      exact hunread line rfl s (decode?_eq_some_iff.1 hs)
    rw [plainFrom, hline]
    exact ⟨rfl, rfl⟩

/-- What a caller sees of the program in one of its modes: the exit code and the output. -/
def visible (opts : Options) (mode : Mode) (input : List UInt8) : Option (Nat × String) :=
  (perform? { opts with mode := mode } input).map fun e => (e.code, e.output)

/-- A single text shows what is printed of it, whatever stands on standard input. -/
theorem visible_once (opts : Options) (s : Text) (stdin : List UInt8) :
    visible opts (.once s) stdin =
      some (if (run s).isSuccess then 0 else 1, printed opts (run s)) := rfl

/-- **A stream** shows what is printed of its texts up to the first line that spells none. -/
theorem visible_plain (opts : Options) {input : List UInt8} {texts : List Text}
    {unread : List (List UInt8)} (hlines : Lines input (texts.map Text.bytes ++ unread))
    (hunread : ∀ line ∈ unread.head?, ∀ s, line ≠ Text.bytes s) :
    visible opts .plain input =
      some (if unread = [] then 0 else 1,
        String.join ((entered texts).map fun s => printed opts (run s))) := by
  let opts' := { opts with mode := .plain }
  have hplain : plain opts' input =
      plainFrom opts' ((entered texts).map (answer opts')).reverse unread := by
    rw [plain, hlines.byteLines_eq, plainFrom_append, List.append_nil]
  have hvisible : visible opts .plain input =
      some ((plain opts' input).code, (plain opts' input).output) := rfl
  obtain ⟨hcode, houtput⟩ :=
    plainFrom_unread opts' ((entered texts).map (answer opts')).reverse hunread
  rw [hvisible, hplain, hcode, houtput, List.reverse_reverse, List.map_map]
  rfl

/-- **A stream is run line by line.** What it shows is what its lines show one at a time, each
without its end and unless it is blank, up to the first line that is no text: without such a
line the exit code is 0, with one it is 1. So a stream that spells a text and stops at the end of
a line shows its own output before that of whatever follows. -/
theorem visible_plain_lines (opts : Options) :
    (∀ input, ∃ (texts : List Text) (unread : List (List UInt8)) (outputs : List String),
      Lines input (texts.map Text.bytes ++ unread) ∧
      (∀ line ∈ unread.head?, ∀ s, line ≠ Text.bytes s) ∧
      List.Forall₂
        (fun s output => ∀ stdin, ∃ code, visible opts (.once s) stdin = some (code, output))
        (entered texts) outputs ∧
      visible opts .plain input = some (if unread = [] then 0 else 1, String.join outputs)) ∧
    ∀ x y, (∃ s, x = Text.bytes s) → (x = [] ∨ x.getLast? = some 10) →
      ∃ output output' code,
        visible opts .plain x = some (0, output) ∧
        visible opts .plain y = some (code, output') ∧
        visible opts .plain (x ++ y) = some (code, output ++ output') := by
  constructor
  · intro input
    obtain ⟨lines, hlines⟩ := exists_lines input
    obtain ⟨texts, unread, rfl, hunread⟩ := exists_readable lines
    refine ⟨texts, unread, _, hlines, hunread, ?_, visible_plain opts hlines hunread⟩
    rw [List.forall₂_map_right_iff, List.forall₂_same]
    intro s _ stdin
    exact ⟨_, visible_once opts s stdin⟩
  · rintro x y ⟨s, hs⟩ hend
    obtain ⟨xs, hx⟩ := exists_lines x
    obtain ⟨texts, rfl⟩ := hx.exists_texts s hs
    obtain ⟨ys, hy⟩ := exists_lines y
    obtain ⟨texts', unread, rfl, hunread⟩ := exists_readable ys
    have hxy : Lines (x ++ y) ((texts ++ texts').map Text.bytes ++ unread) := by
      simpa using hx.append hy hend
    have hx' : Lines x (texts.map Text.bytes ++ []) := by simpa using hx
    refine ⟨_, _, _, visible_plain opts hx' (by simp), visible_plain opts hy hunread, ?_⟩
    rw [visible_plain opts hxy hunread, entered_append, List.map_append, String.join_append]

/-- A line, a blank line, and then a line that is no text. -/
theorem visible_plain_lines_broken :
    let opts : Options := ⟨.plain, false, false, "> ", .stderr, some .warn⟩
    let x := Text.bytes ['1', '+', '2', '\r', '\r', '\n', '\u00a0', '\n']
    (∃ s, x = Text.bytes s) ∧ x.getLast? = some 10 ∧
      visible opts .plain x = some (0, "3\n") ∧
      visible opts .plain (x ++ [57, 255, 10]) = some (1, "3\n") := by
  intro opts x
  have hend : x.getLast? = some 10 := by decide
  have hx : visible opts .plain x = some (0, "3\n") := by
    have hlines : Lines x
        ([['1', '+', '2', '\r', '\r', '\n'], ['\u00a0', '\n']].map Text.bytes ++ []) :=
      @Lines.cons [49, 43, 50, 13, 13] _ _ (by decide) (@Lines.cons [194, 160] _ _ (by decide) .nil)
    have hentered : entered [['1', '+', '2', '\r', '\r', '\n'], ['\u00a0', '\n']] =
        [['1', '+', '2']] := by decide +kernel
    have hprinted : printed opts (run ['1', '+', '2']) = "3\n" := by decide +kernel
    rw [visible_plain opts hlines (by simp), hentered]
    simp [hprinted]
  have hy : visible opts .plain [57, 255, 10] = some (1, "") := by
    have hline : decode? [57, 255, 10] = none := by decide +kernel
    have hlines : Lines [57, 255, 10] (List.map Text.bytes [] ++ [[57, 255, 10]]) :=
      @Lines.cons [57, 255] _ _ (by decide) .nil
    refine visible_plain opts hlines ?_
    rintro _ ⟨⟩ s hs
    simp [decode?_eq_some_iff.2 hs] at hline
  obtain ⟨output, output', code, hx', hy', hxy⟩ :=
    (visible_plain_lines opts).2 x [57, 255, 10] ⟨_, rfl⟩ (.inr hend)
  have houtput : "3\n" = output := by simpa [hx] using hx'
  obtain ⟨rfl, rfl⟩ : 1 = code ∧ "" = output' := by simpa [hy] using hy'
  subst houtput
  exact ⟨⟨_, rfl⟩, hend, hx, hxy⟩

end Reckon
