import Reckon.Proofs.Framing

/-!
# The log as records

The log is written for readers that see only its text. This module says what such a reader can rely
on, whatever texts were run: the text of a log is read in one way.

* `Entry.line_inj`: a line of the log tells the number and the entry that it was made of. The
  number ends at its bracket, the column of the level has a fixed width, and where an entry comes
  from is one word.
* `Entry.Unbroken`: an entry that is told on one line. All entries of the program are
  (`unbroken_of_perform?`), since all events of a run are plain.
* `Recorded`: a text made of the lines of numbered entries.
* `perform?_withLevel`: the level of the log has no part in what the program does.
* `recorded_log`: **a log is the record of what was logged**, at every level.
-/

namespace Reckon

/-! ## Lines of the log -/

/-- A number in the first column of the log. -/
def numberColumn (n : Nat) : Text :=
  List.replicate (6 - (Nat.toDigits 10 n).length) '0' ++ Nat.toDigits 10 n

/-- The zeros before a number do not count. -/
theorem ofDigitChars_numberColumn (n : Nat) : Nat.ofDigitChars 10 (numberColumn n) 0 = n := by
  rw [numberColumn, Nat.ofDigitChars_append, Nat.ofDigitChars_replicate_zero, Nat.mul_zero,
    Nat.ofDigitChars_ten_toDigits]

theorem bracket_notMem_numberColumn (n : Nat) : ']' ∉ numberColumn n := by
  intro h
  rcases List.mem_append.1 h with h | h
  · cases List.eq_of_mem_replicate h
  · cases Nat.isDigit_of_mem_toDigits (by decide) (by decide) h

/-- A level in the second column of the log. -/
def Level.column : Level → Text
  | .error => ['E', 'R', 'R', 'O', 'R']
  | .warn => ['W', 'A', 'R', 'N', ' ']
  | .info => ['I', 'N', 'F', 'O', ' ']
  | .debug => ['D', 'E', 'B', 'U', 'G']
  | .trace => ['T', 'R', 'A', 'C', 'E']

theorem Level.toList_padRight_name (l : Level) : (Text.padRight 5 l.name).toList = l.column := by
  cases l <;> rfl

/-- The columns of the levels are of one width, and no two are the same. -/
theorem Level.append_column_inj {l m : Level} {x y : Text} (h : l.column ++ x = m.column ++ y) :
    l = m ∧ x = y := by
  cases l <;> cases m <;> simp_all [column]

theorem Entry.toList_line (n : Nat) (e : Entry) :
    (e.line n).toList = '[' :: (numberColumn n ++ ']' :: ' ' :: (e.level.column ++ ' ' ::
      ((e.target.toList ++ [':']) ++ ' ' :: e.message.toList))) := by
  simp [line, Text.padLeft, numberColumn, Level.toList_padRight_name, Nat.toString_eq_repr,
    ← String.length_toList]

/-- **A line tells what it was made of**: the number and the entry, if that comes from one word. -/
theorem Entry.line_inj {n m : Nat} {e f : Entry} (he : ' ' ∉ e.target.toList)
    (hf : ' ' ∉ f.target.toList) (h : e.line n = f.line m) : e = f ∧ n = m := by
  have hlist := congrArg String.toList h
  rw [toList_line, toList_line] at hlist
  obtain ⟨hnumber, hrest⟩ := append_mark_inj (bracket_notMem_numberColumn n)
    (bracket_notMem_numberColumn m) (List.cons.inj hlist).2
  obtain ⟨hlevel, hrest⟩ := Level.append_column_inj (List.cons.inj hrest).2
  obtain ⟨htarget, hmessage⟩ := append_mark_inj (by simpa using he) (by simpa using hf)
    (List.cons.inj hrest).2
  have hn : n = m := by
    rw [← ofDigitChars_numberColumn n, hnumber, ofDigitChars_numberColumn]
  refine ⟨?_, hn⟩
  cases e; cases f
  obtain rfl := hlevel
  obtain rfl := String.toList_inj.1 hmessage
  obtain rfl := String.toList_inj.1 (List.append_cancel_right htarget)
  rfl

/-! ## The entries of the program -/

/-- The entry is told on one line, and comes from one word. -/
structure Entry.Unbroken (e : Entry) : Prop where
  /-- where it comes from is one word -/
  word : ' ' ∉ e.target.toList
  /-- where it comes from -/
  target : OneLine e.target
  /-- what it says -/
  message : OneLine e.message

theorem Entry.Unbroken.oneLine_line {e : Entry} (h : e.Unbroken) (n : Nat) :
    OneLine (e.line n) := by
  have hname : OneLine e.level.name := by cases e.level <;> exact .words rfl
  have hnumber : OneLine (Text.padLeft '0' 6 (toString n)) := (oneLine_nat n).padLeft (by decide) 6
  exact .append (.append (.append (.append (.append (.append (.append (.words rfl) hnumber)
    (.words rfl)) (hname.padRight 5)) (.words rfl)) h.target) (.words rfl)) h.message

/-- A fixed word: no blank stands in it. -/
theorem word_of {s : Text} (h : s.elem ' ' = false) : ' ' ∉ (String.ofList s).toList := by
  simpa using h

theorem Event.Plain.unbroken {e : Event} (h : e.Plain) : e.entry.Unbroken := by
  refine ⟨?_, ?_, h.oneLine_message⟩
  · cases e <;> exact word_of rfl
  · cases e <;> exact .words rfl

/-- The events of a run are plain, so its entries are unbroken. -/
theorem unbroken_of_mem_run {s : Text} {e : Entry} (h : e ∈ (run s).entries) : e.Unbroken := by
  obtain ⟨event, hevent, rfl⟩ := List.mem_map.1 h
  exact (plain_run s event hevent).unbroken

/-- The first entry quotes the text that is run. -/
theorem unbroken_startEntry (mode : Mode) : (startEntry mode).Unbroken := by
  have hmode : OneLine mode.describe := by
    cases mode with
    | once expr => exact .append (.append (.words rfl) (oneLine_quoted expr)) (.words rfl)
    | plain | interactive => exact .words rfl
  exact ⟨word_of rfl, .words rfl, .append (.append (.words rfl) hmode) (.words rfl)⟩

/-- A program that is not interactive has an effect. -/
theorem exists_perform? {opts : Options} (h : opts.mode ≠ .interactive) (input : List UInt8) :
    ∃ effect, perform? opts input = some effect := by
  rw [perform?]
  split
  · exact ⟨_, rfl⟩
  · exact ⟨_, rfl⟩
  · contradiction

/-- Each line of a stream adds the entries of a run, or none. -/
theorem unbroken_of_mem_plainFrom {opts : Options} {before : List (String × List Entry)}
    (hbefore : ∀ e ∈ before.flatMap (·.2), e.Unbroken) {lines : List (List UInt8)} {e : Entry}
    (h : e ∈ (plainFrom opts before lines).entries) : e.Unbroken := by
  induction lines generalizing before with
  | nil => exact hbefore e (by simpa [plainFrom] using h)
  | cons line rest ih =>
    rw [plainFrom] at h
    split at h
    · exact hbefore e (by simpa using h)
    dsimp only at h
    split at h
    · exact ih hbefore h
    · apply ih _ h
      intro e he
      rw [List.flatMap_cons] at he
      rcases List.mem_append.1 he with he | he
      · exact unbroken_of_mem_run he
      · exact hbefore e he

/-- Every entry of the program is unbroken. -/
theorem unbroken_of_perform? {opts : Options} {input : List UInt8} {effect : Effect}
    (h : perform? opts input = some effect) {e : Entry} (he : e ∈ effect.entries) :
    e.Unbroken := by
  rw [perform?] at h
  obtain ⟨body, hbody, rfl⟩ := Option.map_eq_some_iff.1 h
  rcases List.mem_cons.1 he with rfl | he
  · exact unbroken_startEntry _
  · split at hbody
    · obtain rfl := Option.some.inj hbody
      exact unbroken_of_mem_run he
    · obtain rfl := Option.some.inj hbody
      exact unbroken_of_mem_plainFrom (by simp) he
    · cases hbody

/-! ## Levels -/

/-- How much is let through: nothing without a level, and with one all that is no more detail. -/
def Level.verbosity : Option Level → Nat
  | none => 0
  | some l => l.rank

/-- Entries are let through up to their own level. -/
theorem Level.passes_iff (l : Level) (upTo : Option Level) :
    l.passes upTo = true ↔ l.rank ≤ verbosity upTo := by
  cases upTo with
  | none => cases l <;> simp [passes, verbosity, rank]
  | some m => simp [passes, verbosity]

/-- What a stricter filter lets through is not touched by a weaker one. -/
theorem filter_passes_of_le {a b : Option Level} (h : Level.verbosity a ≤ Level.verbosity b)
    (entries : List Entry) :
    (entries.filter fun e => e.level.passes b).filter (fun e => e.level.passes a) =
      entries.filter fun e => e.level.passes a := by
  rw [List.filter_filter]
  apply List.filter_congr
  intro e _
  rw [Bool.and_eq_left_iff_imp, Level.passes_iff, Level.passes_iff]
  intro ha
  exact ha.trans h

/-- The options with another level of the log. -/
def Options.withLevel (opts : Options) (upTo : Option Level) : Options :=
  { opts with logLevel := upTo }

theorem plainFrom_withLevel (opts : Options) (upTo : Option Level)
    (before : List (String × List Entry)) (lines : List (List UInt8)) :
    plainFrom (opts.withLevel upTo) before lines = plainFrom opts before lines := by
  induction lines generalizing before with
  | nil => rfl
  | cons line rest ih =>
    rw [plainFrom, plainFrom]
    split
    · rfl
    dsimp only
    split
    · exact ih _
    · exact ih _

/-- **The level of the log has no part in what the program does**: it chooses among the entries, and
the entries are the same. -/
theorem perform?_withLevel (opts : Options) (upTo : Option Level) (input : List UInt8) :
    perform? (opts.withLevel upTo) input = perform? opts input := by
  rw [perform?, perform?, plain, plainFrom_withLevel]
  rfl

/-! ## Records -/

/-- The text is made of the lines of these entries, with these numbers; each entry comes from one
word. -/
structure Recorded (text : String) (records : List (Entry × Nat)) : Prop where
  /-- a line for each entry -/
  framed : Framed text (records.map fun r => r.1.line r.2)
  /-- where an entry comes from is one word -/
  word : ∀ r ∈ records, ' ' ∉ r.1.target.toList

/-- Lines tell their records, one by one. -/
theorem eq_of_map_line_eq {rs rs' : List (Entry × Nat)} (h : ∀ r ∈ rs, ' ' ∉ r.1.target.toList)
    (h' : ∀ r ∈ rs', ' ' ∉ r.1.target.toList)
    (heq : (rs.map fun r => r.1.line r.2) = rs'.map fun r => r.1.line r.2) : rs = rs' := by
  induction rs generalizing rs' with
  | nil => exact (List.map_eq_nil_iff.1 heq.symm).symm
  | cons r rs ih =>
    cases rs' with
    | nil => cases heq
    | cons r' rs' =>
      obtain ⟨hword, hwords⟩ := List.forall_mem_cons.1 h
      obtain ⟨hword', hwords'⟩ := List.forall_mem_cons.1 h'
      obtain ⟨hline, hlines⟩ := List.cons.inj heq
      obtain ⟨hentry, hnumber⟩ := Entry.line_inj hword hword' hline
      rw [Prod.ext hentry hnumber, ih hwords hwords' hlines]

/-- **A log is read in one way.** -/
theorem Recorded.unique {text : String} {rs rs' : List (Entry × Nat)} (h : Recorded text rs)
    (h' : Recorded text rs') : rs = rs' :=
  eq_of_map_line_eq h.word h'.word (h.framed.unique h'.framed)

/-- Unbroken entries, numbered from one, are what their log is read as. -/
theorem recorded_logLines {entries : List Entry} (h : ∀ e ∈ entries, e.Unbroken)
    (upTo : Option Level) :
    Recorded (Text.endLines (logLines upTo entries))
      ((entries.filter fun e => e.level.passes upTo).zipIdx 1) := by
  have hrecords : ∀ r ∈ (entries.filter fun e => e.level.passes upTo).zipIdx 1, r.1.Unbroken := by
    intro r hr
    exact h r.1 (List.mem_filter.1 (List.fst_mem_of_mem_zipIdx hr)).1
  refine ⟨framed_endLines ?_, ?_⟩
  · intro line hline
    obtain ⟨r, hr, rfl⟩ := List.mem_map.1 hline
    exact (hrecords r hr).oneLine_line r.2
  · intro r hr
    exact (hrecords r hr).word

/-- What a run of the program adds to its log. -/
def Effect.logText (opts : Options) (e : Effect) : String := Text.endLines (e.log opts)

/-- **A log is the record of what was logged.** Whatever the texts are that a program runs, and at
every level, its log can be read in exactly one way: as the entries that the level lets through, a
line for each of them, numbered from one without a gap. Between two levels, the stricter one keeps
those entries of the other that it lets through, in their order. On standard error the log comes
before the error that ends the program. -/
theorem recorded_log (opts : Options) (hmode : opts.mode ≠ .interactive) (input : List UInt8) :
    ∃ effect, (∀ upTo, perform? (opts.withLevel upTo) input = some effect) ∧
      (∀ upTo records, Recorded (effect.logText (opts.withLevel upTo)) records ↔
        records = (effect.entries.filter fun e => e.level.passes upTo).zipIdx 1) ∧
      (∀ a b, Level.verbosity a ≤ Level.verbosity b → ∀ fewer more,
        Recorded (effect.logText (opts.withLevel a)) fewer →
        Recorded (effect.logText (opts.withLevel b)) more →
        fewer.map Prod.fst = (more.map Prod.fst).filter fun e => e.level.passes a) ∧
      (opts.logTarget = .stderr → ∀ upTo, effect.errorOutput (opts.withLevel upTo) =
        effect.logText (opts.withLevel upTo) ++ effect.failure.elim "" failureText) := by
  obtain ⟨effect, heffect⟩ := exists_perform? hmode input
  have hread : ∀ upTo records, Recorded (effect.logText (opts.withLevel upTo)) records ↔
      records = (effect.entries.filter fun e => e.level.passes upTo).zipIdx 1 := by
    intro upTo records
    have hlog := recorded_logLines (fun e he => unbroken_of_perform? heffect he) upTo
    constructor
    · intro h
      exact h.unique hlog
    · rintro rfl
      exact hlog
  refine ⟨effect, ?_, hread, ?_, ?_⟩
  · intro upTo
    rw [perform?_withLevel, heffect]
  · intro a b hab fewer more hfewer hmore
    rw [(hread a fewer).1 hfewer, (hread b more).1 hmore, List.zipIdx_map_fst, List.zipIdx_map_fst,
      filter_passes_of_le hab]
  · intro htarget upTo
    exact congrArg (· ++ _) (if_pos htarget)

/-- A text that has a line of a log in it: the log is the one entry that quotes the text. -/
theorem recorded_log_forged :
    let expr := "1\n[000002] ERROR nextr: forged".toList
    let opts : Options := ⟨.once expr, false, false, "> ", .stderr, some .info⟩
    opts.mode ≠ .interactive ∧
      ∃ effect, perform? opts [] = some effect ∧
        ∀ records, Recorded (effect.logText opts) records ↔
          records = [(startEntry (.once expr), 1)] := by
  intro expr opts
  have hmode : opts.mode ≠ .interactive := by
    intro h
    cases h
  obtain ⟨effect, heffect, hread, -⟩ := recorded_log opts hmode []
  refine ⟨hmode, effect, heffect (some .info), ?_⟩
  intro records
  have hentries : effect.entries = startEntry (.once expr) :: (run expr).entries := by
    obtain rfl := Option.some.inj (heffect (some .info))
    rfl
  have hinfo : (effect.entries.filter fun e => e.level.passes (some .info)) =
      [startEntry (.once expr)] := by
    rw [hentries]
    decide +kernel
  exact (hread (some .info) records).trans (by rw [hinfo]; rfl)

end Reckon
