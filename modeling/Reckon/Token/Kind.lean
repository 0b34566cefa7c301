import Reckon.Text.Basic

/-!
# Token kinds

The classes of tokens, with the tables the lexer looks them up in. A kind has a fixed
spelling or stands for a class of lexemes (a literal, an identifier, the end of the text);
`Kind.describe` is how either is named in a message.

* `Kind.ofSeparator?`: the characters that are a token by themselves.
* `Kind.ofAssigning?`: the characters that make a longer token with a `=` after them.
* `Kind.ofWord?`: the reserved words.
-/

namespace Reckon

/-- The class of a token. The parser needs only a few of them; the others are recognised
so that a message can name what was found. -/
inductive Kind where
  -- arithmetic and assignment
  | plus | minus | times | slash | percent | assign | plusAssign | minusAssign | timesAssign
  | slashAssign | percentAssign
  -- comparison and logic
  | less | lessEqual | greater | greaterEqual | equal | notEqual | bang | andWord | orWord
  | isWord
  -- literals
  | intLiteral | uintLiteral | floatLiteral | doubleLiteral | charLiteral | stringLiteral
  -- names of types
  | intType | uintType | floatType | stringType | charType
  -- words of statements
  | funcWord | forWord | whileWord | loopWord | varWord | breakWord | continueWord | constWord
  | ifWord | elseWord | castWord | structWord | trueWord | falseWord
  -- punctuation and brackets
  | semicolon | colon | comma | dot | openParen | closeParen | openSquare | closeSquare
  | openCurly | closeCurly
  -- the rest
  | identifier | endOfFile
  deriving DecidableEq

namespace Kind

/-- Every kind. -/
def all : List Kind :=
  [.plus, .minus, .times, .slash, .percent, .assign, .plusAssign, .minusAssign, .timesAssign,
   .slashAssign, .percentAssign, .less, .lessEqual, .greater, .greaterEqual, .equal, .notEqual,
   .bang, .andWord, .orWord, .isWord, .intLiteral, .uintLiteral, .floatLiteral, .doubleLiteral,
   .charLiteral, .stringLiteral, .intType, .uintType, .floatType, .stringType, .charType,
   .funcWord, .forWord, .whileWord, .loopWord, .varWord, .breakWord, .continueWord, .constWord,
   .ifWord, .elseWord, .castWord, .structWord, .trueWord, .falseWord, .semicolon, .colon,
   .comma, .dot, .openParen, .closeParen, .openSquare, .closeSquare, .openCurly, .closeCurly,
   .identifier, .endOfFile]

/-- The name of a kind in the token list. -/
def name : Kind → String
  | .plus => "Plus"
  | .minus => "Minus"
  | .times => "Multiply"
  | .slash => "Divide"
  | .percent => "RemainderDiv"
  | .assign => "Equals"
  | .plusAssign => "PlusEquals"
  | .minusAssign => "MinusEquals"
  | .timesAssign => "MultiplyEquals"
  | .slashAssign => "DivideEquals"
  | .percentAssign => "RemainderDivEquals"
  | .less => "Less"
  | .lessEqual => "LessOrEqual"
  | .greater => "Greater"
  | .greaterEqual => "GreaterOrEqual"
  | .equal => "BoolEquals"
  | .notEqual => "BoolNoEquals"
  | .bang => "BoolNo"
  | .andWord => "And"
  | .orWord => "Or"
  | .isWord => "Is"
  | .intLiteral => "IntLiteral"
  | .uintLiteral => "UintLiteral"
  | .floatLiteral => "FloatLiteral"
  | .doubleLiteral => "DoubleLiteral"
  | .charLiteral => "CharLiteral"
  | .stringLiteral => "StringLiteral"
  | .intType => "IntKeyword"
  | .uintType => "UintKeyword"
  | .floatType => "FloatKeyword"
  | .stringType => "StringKeyword"
  | .charType => "CharKeyword"
  | .funcWord => "FuncKeyword"
  | .forWord => "ForKeyword"
  | .whileWord => "WhileKeyword"
  | .loopWord => "LoopKeyword"
  | .varWord => "VarKeyword"
  | .breakWord => "BreakKeyword"
  | .continueWord => "ContinueKeyword"
  | .constWord => "ConstKeyword"
  | .ifWord => "IfKeyword"
  | .elseWord => "ElseKeyword"
  | .castWord => "CastKeyword"
  | .structWord => "StructKeyword"
  | .trueWord => "TrueKeyword"
  | .falseWord => "FalseKeyword"
  | .semicolon => "Semicolon"
  | .colon => "Colon"
  | .comma => "Comma"
  | .dot => "Dot"
  | .openParen => "OpenParenthesis"
  | .closeParen => "CloseParenthesis"
  | .openSquare => "OpenSquareBracket"
  | .closeSquare => "CloseSquareBracket"
  | .openCurly => "OpenCurlyBracket"
  | .closeCurly => "CloseCurlyBracket"
  | .identifier => "Identifier"
  | .endOfFile => "EndOfFile"

/-- The kind with the given name. -/
def ofName? (s : String) : Option Kind := all.find? fun k => k.name = s

/-- The lexeme of a kind that has only one. -/
def spelling? : Kind → Option String
  | .plus => some "+"
  | .minus => some "-"
  | .times => some "*"
  | .slash => some "/"
  | .percent => some "%"
  | .assign => some "="
  | .plusAssign => some "+="
  | .minusAssign => some "-="
  | .timesAssign => some "*="
  | .slashAssign => some "/="
  | .percentAssign => some "%="
  | .less => some "<"
  | .lessEqual => some "<="
  | .greater => some ">"
  | .greaterEqual => some ">="
  | .equal => some "=="
  | .notEqual => some "!="
  | .bang => some "!"
  | .andWord => some "and"
  | .orWord => some "or"
  | .isWord => some "is"
  | .intType => some "int"
  | .uintType => some "uint"
  | .floatType => some "float"
  | .stringType => some "string"
  | .charType => some "char"
  | .funcWord => some "func"
  | .forWord => some "for"
  | .whileWord => some "while"
  | .loopWord => some "loop"
  | .varWord => some "var"
  | .breakWord => some "break"
  | .continueWord => some "continue"
  | .constWord => some "const"
  | .ifWord => some "if"
  | .elseWord => some "else"
  | .castWord => some "cast"
  | .structWord => some "struct"
  | .trueWord => some "true"
  | .falseWord => some "false"
  | .semicolon => some ";"
  | .colon => some ":"
  | .comma => some ","
  | .dot => some "."
  | .openParen => some "("
  | .closeParen => some ")"
  | .openSquare => some "["
  | .closeSquare => some "]"
  | .openCurly => some "\x7b"
  | .closeCurly => some "\x7d"
  | _ => none

/-- How a message names the kind: its lexeme in single quotes, or the class. -/
def describe (k : Kind) : String :=
  match k.spelling? with
  | some s => "'" ++ s ++ "'"
  | none =>
    match k with
    | .intLiteral => "int literal"
    | .uintLiteral => "uint literal"
    | .floatLiteral => "float literal"
    | .doubleLiteral => "double literal"
    | .charLiteral => "char literal"
    | .stringLiteral => "string literal"
    | .identifier => "identifier"
    | _ => "end of file"

/-- The four kinds of numbers. -/
def isNumeric : Kind → Bool
  | .intLiteral | .uintLiteral | .floatLiteral | .doubleLiteral => true
  | _ => false

/-- The kinds whose tokens carry a value. -/
def isLiteral : Kind → Bool
  | .charLiteral | .stringLiteral => true
  | k => k.isNumeric

/-- The names of types. -/
def isTypeName : Kind → Bool
  | .intType | .uintType | .floatType | .stringType | .charType => true
  | _ => false

/-- The kinds of reserved words. -/
def isKeyword : Kind → Bool
  | .andWord | .orWord | .isWord | .intType | .uintType | .floatType | .stringType
  | .charType | .funcWord | .forWord | .whileWord | .loopWord | .varWord | .breakWord
  | .continueWord | .constWord | .ifWord | .elseWord | .castWord | .structWord | .trueWord
  | .falseWord => true
  | _ => false

/-- The kind of a character that is a token by itself. -/
def ofSeparator? : Char → Option Kind
  | '+' => some .plus
  | '-' => some .minus
  | '*' => some .times
  | '/' => some .slash
  | '%' => some .percent
  | '=' => some .assign
  | '<' => some .less
  | '>' => some .greater
  | '!' => some .bang
  | ';' => some .semicolon
  | ':' => some .colon
  | ',' => some .comma
  | '.' => some .dot
  | '(' => some .openParen
  | ')' => some .closeParen
  | '[' => some .openSquare
  | ']' => some .closeSquare
  | '\x7b' => some .openCurly
  | '\x7d' => some .closeCurly
  | _ => none

/-- The kind of the token made of the given character and a `=` after it. -/
def ofAssigning? : Char → Option Kind
  | '+' => some .plusAssign
  | '-' => some .minusAssign
  | '*' => some .timesAssign
  | '/' => some .slashAssign
  | '%' => some .percentAssign
  | '<' => some .lessEqual
  | '>' => some .greaterEqual
  | '=' => some .equal
  | '!' => some .notEqual
  | _ => none

/-- The kind of a reserved word. -/
def ofWord? (word : String) : Option Kind :=
  match word with
  | "and" => some .andWord
  | "or" => some .orWord
  | "is" => some .isWord
  | "int" => some .intType
  | "uint" => some .uintType
  | "float" => some .floatType
  | "string" => some .stringType
  | "char" => some .charType
  | "func" => some .funcWord
  | "for" => some .forWord
  | "while" => some .whileWord
  | "loop" => some .loopWord
  | "var" => some .varWord
  | "break" => some .breakWord
  | "continue" => some .continueWord
  | "const" => some .constWord
  | "if" => some .ifWord
  | "else" => some .elseWord
  | "cast" => some .castWord
  | "struct" => some .structWord
  | "true" => some .trueWord
  | "false" => some .falseWord
  | _ => none

end Kind

end Reckon
