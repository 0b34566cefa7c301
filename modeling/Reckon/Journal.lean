import Reckon.Diagnostic
import Reckon.Expr.Eval

/-!
# The journal: what happened to a text, in order

Every stage writes down what it does, and only ever appends. The diagnostics of a text are
those of the journal, and the log is the journal line by line.

* `Event`: one thing that happened.
* `Journal`: the events so far.
* `Level`, `Event.level`: how much detail an event is.
* `Entry`: a line of the log before it is numbered, `Entry.line` the line itself.
-/

namespace Reckon

/-! ## Events -/

/-- One thing that happened on the way from a text to its value. -/
inductive Event where
  /-- comments were taken out of a text of `before` characters, which left `after` -/
  | stripped (before after : Nat)
  /-- a fault was found -/
  | found (fault : Diagnostic)
  /-- a token was read -/
  | token (token : Token)
  /-- the text was read to its end -/
  | lexed (count : Nat)
  /-- two operands were joined -/
  | joined (op : Operator)
  /-- the expression went beyond a depth limit -/
  | tooDeep (limit position : Nat)
  /-- the tokens were read to their end -/
  | parsed (nodes : Nat)
  /-- the text has a value -/
  | evaluated (source : Text) (value : Int32)
  /-- the expression has no value -/
  | failed (source : Text) (error : EvalError)
  /-- the text has faults and was not evaluated -/
  | skipped (source : Text) (faults : Nat)
  deriving DecidableEq

/-- The events so far. -/
structure Journal where
  /-- the events, the latest first -/
  latestFirst : List Event
  deriving DecidableEq

namespace Journal

/-- Nothing has happened. -/
def empty : Journal := ⟨[]⟩

/-- One more event. -/
def add (j : Journal) (e : Event) : Journal := ⟨e :: j.latestFirst⟩

/-- More events, in the given order. -/
def addAll (j : Journal) (es : List Event) : Journal := es.foldl add j

/-- The events in the order in which they happened. -/
def events (j : Journal) : List Event := j.latestFirst.reverse

@[simp] theorem events_empty : empty.events = [] := rfl

@[simp] theorem events_add (j : Journal) (e : Event) : (j.add e).events = j.events ++ [e] := by
  simp [events, add]

@[simp] theorem events_addAll (j : Journal) (es : List Event) :
    (j.addAll es).events = j.events ++ es := by
  induction es generalizing j with
  | nil => simp [addAll]
  | cons e es ih =>
    have h : j.addAll (e :: es) = (j.add e).addAll es := rfl
    simp [h, ih]

end Journal

/-- The fault that an event is about. -/
def Event.fault? : Event → Option Diagnostic
  | .found d => some d
  | _ => none

/-- The faults found so far. -/
def Journal.diagnostics (j : Journal) : List Diagnostic := j.events.filterMap Event.fault?

@[simp] theorem Journal.diagnostics_empty : Journal.empty.diagnostics = [] := rfl

@[simp] theorem Journal.diagnostics_add (j : Journal) (e : Event) :
    (j.add e).diagnostics = j.diagnostics ++ e.fault?.toList := by
  simp only [diagnostics, events_add, List.filterMap_append, List.filterMap_cons,
    List.filterMap_nil]
  cases e.fault? <;> rfl

/-! ## The log -/

/-- How much detail an entry of the log is. -/
inductive Level where
  | error | warn | info | debug | trace
  deriving DecidableEq

namespace Level

/-- The level as a number: more detail is more. -/
def rank : Level → Nat
  | .error => 1
  | .warn => 2
  | .info => 3
  | .debug => 4
  | .trace => 5

/-- The name of a level. -/
def name : Level → String
  | .error => "ERROR"
  | .warn => "WARN"
  | .info => "INFO"
  | .debug => "DEBUG"
  | .trace => "TRACE"

/-- Every level, from the least detail to the most. -/
def all : List Level := [.error, .warn, .info, .debug, .trace]

/-- Is an entry of this level written when entries are let through up to the level `upTo`?
Without one, none is. -/
def passes (l : Level) (upTo : Option Level) : Bool :=
  match upTo with
  | none => false
  | some m => l.rank ≤ m.rank

end Level

/-- A line of the log before it is numbered. -/
structure Entry where
  /-- how much detail it is -/
  level : Level
  /-- where it comes from -/
  target : String
  /-- what it says -/
  message : String
  deriving DecidableEq

/-- The line of an entry: its number in six digits, its level in five columns, where it comes
from and what it says. -/
def Entry.line (number : Nat) (e : Entry) : String :=
  "[" ++ Text.padLeft '0' 6 (toString number) ++ "] " ++ Text.padRight 5 e.level.name ++ " " ++
    e.target ++ ": " ++ e.message

namespace Event

/-- How much detail an event is. -/
def level : Event → Level
  | .token _ | .joined _ => .trace
  | .tooDeep .. | .failed .. => .warn
  | _ => .debug

/-- The part of the program that an event comes from. -/
def target : Event → String
  | .stripped .. => "nextr::preprocessor"
  | .found _ => "nextr::diagnostics"
  | .token _ | .lexed _ => "nextr::parser::lexer"
  | .joined _ => "nextr::parser::expressions"
  | .tooDeep .. | .parsed _ => "nextr::parser::parse"
  | .evaluated .. | .failed .. | .skipped .. => "nextr::pipeline"

/-- What the log says of an event. -/
def message : Event → String
  | .stripped before after =>
    "preprocessed " ++ toString before ++ " chars into " ++ toString after ++ " chars"
  | .found d => "diagnostic recorded: " ++ d.message
  | .token t => "token " ++ t.display
  | .lexed n => "lexed " ++ toString n ++ " tokens"
  | .joined op => "folding '" ++ String.singleton op.symbol ++ "'"
  | .tooDeep limit p =>
    "expression deeper than " ++ toString limit ++ " at position " ++ toString p
  | .parsed n => "parsed expression with " ++ toString n ++ " nodes"
  | .evaluated s v => "evaluated " ++ Text.quoted s ++ " to " ++ toString v.toInt
  | .failed s e => "evaluation of " ++ Text.quoted s ++ " failed: " ++ e.message
  | .skipped s n =>
    "skipping evaluation of " ++ Text.quoted s ++ ": " ++ toString n ++ " diagnostic(s)"

/-- The entry of an event in the log. -/
def entry (e : Event) : Entry := ⟨e.level, e.target, e.message⟩

end Event

/-- The entries that are let through, as numbered lines; the numbers start from `first`. -/
def logLinesFrom (first : Nat) (upTo : Option Level) (entries : List Entry) : List String :=
  ((entries.filter fun e => e.level.passes upTo).zipIdx first).map fun (e, n) => e.line n

/-- The lines of a log, numbered from one. -/
def logLines (upTo : Option Level) (entries : List Entry) : List String :=
  logLinesFrom 1 upTo entries

end Reckon
