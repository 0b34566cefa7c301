import Reckon.Command.Program

/-!
# The command line program

Reads the arguments and standard input, opens the log file, and writes what
`Reckon.perform?` says.
-/

namespace Reckon

/-- The options, for a user who asks for them. -/
def usage : String :=
  Text.endLines
    ["Usage: " ++ programName ++ " [OPTIONS]",
      "",
      "  -e, --expr <TEXT>        evaluate this expression once and exit",
      "      --plain              read lines from stdin and print one result per line",
      "      --tree               print the syntax tree before each result",
      "      --tokens             print the token list before each result",
      "      --prompt <PROMPT>    prompt shown before each line in plain mode",
      "      --log-file <PATH>    write log records to this file instead of stderr",
      "      --log-level <LEVEL>  most detailed level of log records to emit",
      "  -h, --help               print help",
      "  -V, --version            print version"]

/-- What is wrong with a command line. -/
def Refusal.message : Refusal → String
  | .unknownArgument => "unexpected argument"
  | .missingValue => "a value is required"
  | .unneededValue => "a value was not expected"
  | .conflict => "arguments that cannot be used together"
  | .badLevel => "no such log level"
  | .help => usage
  | .version => programName ++ " 0.1.0"

/-- Why a file cannot be opened, in the words of the operating system. -/
def openFailure : IO.Error → String
  | .noFileOrDirectory .. => "No such file or directory (os error 2)"
  | .inappropriateType .. => "Is a directory (os error 21)"
  | .permissionDenied .. => "Permission denied (os error 13)"
  | e => toString e

/-- All bytes that are left in a stream. -/
partial def readAll (stream : IO.FS.Stream) (sofar : ByteArray) : IO ByteArray := do
  let chunk ← stream.read 65536
  if chunk.isEmpty then return sofar
  readAll stream (sofar ++ chunk)

/-- Write lines to the log: to its file if one is open, and to standard error if that is the
place of the log. -/
def writeLog (opts : Options) (file : Option IO.FS.Handle) (lines : List String) : IO Unit := do
  if let some handle := file then
    handle.putStr (Text.endLines lines)
    handle.flush
  if opts.logTarget = .stderr then IO.eprint (Text.endLines lines)

/-- The lines of a user at a terminal, each after a prompt; `number` is the number of the next
line of the log. -/
partial def promptLoop (opts : Options) (file : Option IO.FS.Handle) (number : Nat) :
    IO UInt32 := do
  let stdin ← IO.getStdin
  let stdout ← IO.getStdout
  stdout.putStr opts.prompt
  stdout.flush
  match ← stdin.getLine.toBaseIO with
  | .error _ =>
    IO.eprint (failureText notText)
    return 1
  | .ok line =>
    if line.isEmpty then return 0
    let effect := plain opts line.toUTF8.toList
    let lines := logLinesFrom number opts.logLevel effect.entries
    writeLog opts file lines
    stdout.putStr effect.output
    promptLoop opts file (number + lines.length)

/-- Carry out the options; the log goes to `file` if there is one. -/
def carryOut (opts : Options) (file : Option IO.FS.Handle) : IO UInt32 := do
  let stdin ← IO.getStdin
  if opts.mode = .plain && (← stdin.isTty) then
    let lines := logLines opts.logLevel [startEntry opts.mode]
    writeLog opts file lines
    promptLoop opts file (1 + lines.length)
  else
    let input ← if opts.mode = .plain then readAll stdin .empty else pure .empty
    match perform? opts input.toList with
    | none =>
      IO.eprint (failureText "the workbench needs a terminal")
      return 1
    | some effect =>
      writeLog opts file (effect.log opts)
      let stdout ← IO.getStdout
      stdout.putStr effect.output
      stdout.flush
      IO.eprint (effect.failure.elim "" failureText)
      return effect.code.toUInt32

/-- The program. -/
def runProgram (args : List String) : IO UInt32 := do
  match Options.ofArgs args with
  | .error .help =>
    IO.print usage
    return 0
  | .error .version =>
    IO.println (Refusal.message .version)
    return 0
  | .error refusal =>
    IO.eprintln ("error: " ++ refusal.message)
    return 2
  | .ok opts =>
    match opts.logTarget with
    | .file path =>
      match ← (IO.FS.Handle.mk path .append).toBaseIO with
      | .ok handle => carryOut opts (some handle)
      | .error e =>
        IO.eprint (logFailure (openFailure e))
        return 1
    | _ => carryOut opts none

end Reckon

/-- The entry point. -/
def main (args : List String) : IO UInt32 := Reckon.runProgram args
