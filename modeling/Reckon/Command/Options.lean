import Reckon.Journal

/-!
# The command line

The words after the program's name, read from left to right. A value may follow its option
as the next word, or stand in the same word: after `=`, or, for the short option, right
behind the letter. An option whose value has not come yet is *pending*; it is settled when
the next option is recognised, or at the end. So the first fault is the one that is
reported, and a word that is no option at all is a fault before the pending one is looked at.

* `Options`: what the words ask for.
* `Refusal`: why they ask for nothing that can be done, or for help.
* `Options.ofArgs`: from words to options.
-/

namespace Reckon

/-- Where the texts to run come from. -/
inductive Mode where
  /-- one text from the command line -/
  | once (expr : Text)
  /-- the lines of standard input -/
  | plain
  /-- a user at the terminal -/
  | interactive
  deriving DecidableEq

/-- The name of a mode in the log. -/
def Mode.describe : Mode → String
  | .once expr => "Once(" ++ Text.quoted expr ++ ")"
  | .plain => "Plain"
  | .interactive => "Interactive"

/-- Where the log goes. -/
inductive LogTarget where
  /-- standard error -/
  | stderr
  /-- the end of a file -/
  | file (path : String)
  /-- nowhere -/
  | nowhere
  deriving DecidableEq

/-- What the command line asks for. -/
structure Options where
  /-- where the texts come from -/
  mode : Mode
  /-- is the tree printed before the result? -/
  showTree : Bool
  /-- are the tokens printed before the result? -/
  showTokens : Bool
  /-- what is printed before a line is read from a terminal -/
  prompt : String
  /-- where the log goes -/
  logTarget : LogTarget
  /-- the most detailed level that is logged; none if nothing is -/
  logLevel : Option Level
  deriving DecidableEq

/-- Why a command line is not carried out. -/
inductive Refusal where
  /-- a word that is no option, or no value of one -/
  | unknownArgument
  /-- an option without its value -/
  | missingValue
  /-- a value for an option that takes none -/
  | unneededValue
  /-- an option that was given before, or that excludes another one -/
  | conflict
  /-- the name of no level -/
  | badLevel
  /-- the user asks for help -/
  | help
  /-- the user asks for the version -/
  | version
  deriving DecidableEq

namespace Options

/-! ## Words -/

/-- The options that take a value. -/
inductive Setting where
  | expr | prompt | logFile | logLevel
  deriving DecidableEq

/-- The options that take none. -/
inductive Switch where
  | plain | tree | tokens | help | version
  deriving DecidableEq

/-- The long names of the options that take a value. -/
def setting? : String → Option Setting
  | "expr" => some .expr
  | "prompt" => some .prompt
  | "log-file" => some .logFile
  | "log-level" => some .logLevel
  | _ => none

/-- The long names of the options that take none. -/
def switch? : String → Option Switch
  | "plain" => some .plain
  | "tree" => some .tree
  | "tokens" => some .tokens
  | "help" => some .help
  | "version" => some .version
  | _ => none

/-- What a word of the command line is. -/
inductive Word where
  /-- an option that takes a value, with the value if it stands in the same word -/
  | setting (name : Setting) (attached : Option String)
  /-- an option that takes none -/
  | switch (name : Switch)
  /-- an option that takes none, with a value -/
  | overloaded
  /-- the mark after which no options come -/
  | endMark
  /-- looks like an option and is none -/
  | stranger
  /-- anything else -/
  | value (text : String)
  deriving DecidableEq

/-- A long option: its name up to the first `=`, and what follows that. -/
def longWord (s : Text) : Word :=
  let name := String.ofList (s.takeWhile (· ≠ '='))
  let attached := match s.dropWhile (· ≠ '=') with
    | [] => none
    | _ :: rest => some (String.ofList rest)
  match setting? name, switch? name, attached with
  | some setting, _, _ => .setting setting attached
  | none, some switch, none => .switch switch
  | none, some _, some _ => .overloaded
  | none, none, _ => .stranger

/-- A short option and what follows its letter. -/
def shortWord (c : Char) (rest : Text) : Word :=
  match c, rest with
  | 'e', [] => .setting .expr none
  | 'e', '=' :: rest => .setting .expr (some (String.ofList rest))
  | 'e', rest => .setting .expr (some (String.ofList rest))
  | 'h', _ => .switch .help
  | 'V', _ => .switch .version
  | _, _ => .stranger

/-- What a word is. A lone hyphen is a value. -/
def wordOf (s : String) : Word :=
  match s.toList with
  | ['-', '-'] => .endMark
  | '-' :: '-' :: rest => longWord rest
  | '-' :: c :: rest => shortWord c rest
  | _ => .value s

/-! ## Reading -/

/-- What the options so far say. -/
structure Given where
  /-- the text to run -/
  expr : Option String
  /-- the prompt -/
  prompt : Option String
  /-- the log file -/
  logFile : Option String
  /-- the level of the log -/
  logLevel : Option (Option Level)
  /-- is standard input read? -/
  plain : Bool
  /-- is the tree printed? -/
  tree : Bool
  /-- are the tokens printed? -/
  tokens : Bool
  deriving DecidableEq

/-- The level with the given name, in letters of either case; `off` logs nothing. -/
def levelOf? (s : String) : Option (Option Level) :=
  let s := s.toUpper
  if s = "OFF" then some none else (Level.all.find? fun l => l.name = s).map some

/-- Give an option its value, if it has none yet and the value is one for it. The name of a
file must not be empty. -/
def assign (name : Setting) (value : String) (g : Given) : Except Refusal Given :=
  match name with
  | .expr => if g.expr.isSome then .error .conflict else .ok { g with expr := some value }
  | .prompt => if g.prompt.isSome then .error .conflict else .ok { g with prompt := some value }
  | .logFile =>
    if g.logFile.isSome then .error .conflict
    else if value.isEmpty then .error .missingValue
    else .ok { g with logFile := some value }
  | .logLevel =>
    if g.logLevel.isSome then .error .conflict
    else
      match levelOf? value with
      | none => .error .badLevel
      | some level => .ok { g with logLevel := some level }

/-- Turn an option on. -/
def turnOn (name : Switch) (g : Given) : Except Refusal Given :=
  match name with
  | .plain => if g.plain then .error .conflict else .ok { g with plain := true }
  | .tree => if g.tree then .error .conflict else .ok { g with tree := true }
  | .tokens => if g.tokens then .error .conflict else .ok { g with tokens := true }
  | .help => .error .help
  | .version => .error .version

/-- An option that was met as a word of its own, with its value if that has come. -/
abbrev Pending : Type := Option (Setting × Option String)

/-- Settle a pending option. -/
def settle (p : Pending) (g : Given) : Except Refusal Given :=
  match p with
  | none => .ok g
  | some (_, none) => .error .missingValue
  | some (name, some value) => assign name value g

/-- Read the words that are left. -/
def read (p : Pending) (g : Given) : List String → Except Refusal Given
  | [] => settle p g
  | s :: rest =>
    match wordOf s with
    | .stranger => .error .unknownArgument
    | .overloaded => .error .unneededValue
    | .endMark => if rest.isEmpty then settle p g else .error .unknownArgument
    | .value v =>
      match p with
      | some (name, none) => read (some (name, some v)) g rest
      | _ => .error .unknownArgument
    | .switch name =>
      match settle p g with
      | .error e => .error e
      | .ok g =>
        match turnOn name g with
        | .error e => .error e
        | .ok g => read none g rest
    | .setting name attached =>
      match settle p g with
      | .error e => .error e
      | .ok g =>
        match attached with
        | none => read (some (name, none)) g rest
        | some v =>
          match assign name v g with
          | .error e => .error e
          | .ok g => read none g rest

/-- The options that the words stand for. A text to run and the lines of standard input
exclude each other; without either the program is interactive, and then it owns the
terminal and logs to a file only. -/
def ofGiven (g : Given) : Except Refusal Options :=
  if g.plain && g.expr.isSome then .error .conflict
  else
    let mode := match g.expr with
      | some expr => .once expr.toList
      | none => if g.plain then .plain else .interactive
    let logTarget := match g.logFile with
      | some path => .file path
      | none => if mode = .interactive then .nowhere else .stderr
    .ok
      { mode, logTarget
        showTree := g.tree
        showTokens := g.tokens
        prompt := g.prompt.getD "> "
        logLevel := g.logLevel.getD (some .warn) }

/-- Read a command line. -/
def ofArgs (args : List String) : Except Refusal Options :=
  match read none ⟨none, none, none, none, false, false, false⟩ args with
  | .error e => .error e
  | .ok g => ofGiven g

end Options

end Reckon
