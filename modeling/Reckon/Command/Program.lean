import Reckon.Command.Options
import Reckon.Run

/-!
# The program, without its surroundings

What the program writes for its options and the bytes of its input. The surroundings only
open the log file, hand over the bytes and write what comes out.

* `printed`: what is printed of one run.
* `byteLines`: the lines of a stream of bytes.
* `Effect`: what a whole run of the program writes.
* `once`, `plain`, `perform?`: the two modes that need no terminal, and the choice between them.
-/

namespace Reckon

/-- What is printed of a run: the tokens and the tree if they are asked for, and the
report. -/
def printed (opts : Options) (o : Outcome) : String :=
  let tokens := if opts.showTokens then o.tokens.map fun t => "  " ++ t.display else []
  let tree := if opts.showTree then o.tree.outline else []
  Text.endLines (tokens ++ tree ++ o.report)

/-- What a run of the program writes. -/
structure Effect where
  /-- the exit code -/
  code : Nat
  /-- what goes to standard output -/
  output : String
  /-- what the log is told -/
  entries : List Entry
  /-- the error that ends the program -/
  failure : Option String
  deriving DecidableEq

/-- The entries of a run. -/
def Outcome.entries (o : Outcome) : List Entry := o.journal.events.map Event.entry

/-- Run one text; the exit code tells whether it has a value. -/
def once (opts : Options) (expr : Text) : Effect :=
  let o := run expr
  ⟨if o.isSuccess then 0 else 1, printed opts o, o.entries, none⟩

/-! ## Lines -/

/-- Cut bytes after each newline byte: `line` is the line so far and `before` are the lines
before it, both last first. -/
def byteLinesFrom (line : List UInt8) (before : List (List UInt8)) :
    List UInt8 → List (List UInt8)
  | [] => (if line.isEmpty then before else line.reverse :: before).reverse
  | b :: rest =>
    if b = 10 then byteLinesFrom [] ((b :: line).reverse :: before) rest
    else byteLinesFrom (b :: line) before rest

/-- The lines of a stream, each with its newline. -/
def byteLines (bytes : List UInt8) : List (List UInt8) := byteLinesFrom [] [] bytes

/-- The text of a line, if its bytes are well-formed UTF-8. -/
def decode? (bytes : List UInt8) : Option Text :=
  (String.fromUTF8? ⟨bytes.toArray⟩).map String.toList

/-- The text without the carriage returns and newlines at its end. -/
def chomp (s : Text) : Text :=
  (s.reverse.dropWhile fun c => c = '\r' || c = '\n').reverse

/-- The error of a line whose bytes are no text. -/
def notText : String := "stream did not contain valid UTF-8"

/-- Run the lines of a stream one after the other, after the effects in `before`, which come
last first. Blank lines are passed over. A line that is no text ends the program. -/
def plainFrom (opts : Options) (before : List (String × List Entry)) :
    List (List UInt8) → Effect
  | [] => ⟨0, String.join (before.reverse.map (·.1)), before.reverse.flatMap (·.2), none⟩
  | line :: rest =>
    match decode? line with
    | none =>
      ⟨1, String.join (before.reverse.map (·.1)), before.reverse.flatMap (·.2),
        some notText⟩
    | some s =>
      let s := chomp s
      if s.isBlank then plainFrom opts before rest
      else
        let o := run s
        plainFrom opts ((printed opts o, o.entries) :: before) rest

/-- Run the lines of a stream. -/
def plain (opts : Options) (bytes : List UInt8) : Effect := plainFrom opts [] (byteLines bytes)

/-! ## The whole program -/

/-- The name under which the program speaks of itself. -/
def programName : String := "nextr"

/-- The first entry of every log. -/
def startEntry (mode : Mode) : Entry :=
  ⟨.info, programName, "starting in " ++ mode.describe ++ " mode"⟩

/-- What the program writes, given the bytes of standard input; nothing if it is
interactive. -/
def perform? (opts : Options) (input : List UInt8) : Option Effect :=
  let effect? := match opts.mode with
    | .once expr => some (once opts expr)
    | .plain => some (plain opts input)
    | .interactive => none
  effect?.map fun e => { e with entries := startEntry opts.mode :: e.entries }

/-- The lines that a run of the program adds to its log. -/
def Effect.log (opts : Options) (e : Effect) : List String := logLines opts.logLevel e.entries

/-- What a failure looks like on standard error. -/
def failureText (message : String) : String := "Error: " ++ message ++ "\n"

/-- What goes to standard error: the log, if it has no other place, and then the error that
ended the program. -/
def Effect.errorOutput (opts : Options) (e : Effect) : String :=
  let log := if opts.logTarget = .stderr then Text.endLines (e.log opts) else ""
  log ++ e.failure.elim "" failureText

/-- The error of a program whose log file cannot be opened. -/
def logFailure (reason : String) : String := failureText ("cannot initialize logging: " ++ reason)

end Reckon
