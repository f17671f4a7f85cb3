import LoopBound.Text.Blank
import LoopBound.Text.Word

/-!
# Tokens

A token is a class of texts that the grammar takes as one unit. `Token.length?` says how many
characters of the given text the token takes, if it stands at the front; what comes behind may
decide, as with a keyword, which no further name character may follow.
-/

namespace LoopBound.Grammar

open LoopBound.Text

/-! ## Pieces of text -/

/-- The number of leading characters in a class. -/
def runLength (p : Char → Bool) (cs : List Char) : Nat :=
  (cs.takeWhile p).length

/-- The length of `word` if the text begins with it. -/
def spelled? (word : List Char) (cs : List Char) : Option Nat :=
  if word.isPrefixOf cs then some word.length else none

/-- The text goes on with one of these characters. -/
def startsIn (p : Char → Bool) : List Char → Bool
  | [] => false
  | c :: _ => p c

/-- No name goes on here. -/
def atNameEdge (cs : List Char) : Bool :=
  !startsIn isNamePart cs

/-- A line feed or a carriage return. -/
def isLineEnd (c : Char) : Bool :=
  c == '\n' || c == '\r'

/-- The total length of pieces taken one after another, none of them empty. The text itself bounds
their number: it is passed a second time as the fuel. -/
def piecesLength (piece : List Char → Nat) : List Char → List Char → Nat
  | [], _ => 0
  | _ :: fuel, cs =>
    match piece cs with
    | 0 => 0
    | n + 1 => n + 1 + piecesLength piece fuel (cs.drop (n + 1))

/-! ## Layout -/

/-- The length of a comment up to and including its closing mark, the opening mark taken away. -/
def commentTail? : List Char → Option Nat
  | [] => none
  | '*' :: '/' :: _ => some 2
  | _ :: cs => (commentTail? cs).map (· + 1)

/-- One blank, one line comment or one closed comment; zero if there is none. -/
def layoutPiece : List Char → Nat
  | [] => 0
  | '/' :: '/' :: cs => 2 + runLength (!isLineEnd ·) cs
  | '/' :: '*' :: cs => ((commentTail? cs).map (2 + ·)).getD 0
  | c :: _ => if isBlank c then 1 else 0

/-- Blanks and comments, as many as there are. -/
def layoutLength (cs : List Char) : Nat :=
  piecesLength layoutPiece cs cs

/-- Spaces, tabs and feeds that stay on the line. -/
def isLineBlank (c : Char) : Bool :=
  c == ' ' || c == '\t' || c == '\x0c' || c == '\x0b'

/-- A comment that closes before the line ends. -/
def lineCommentTail? : List Char → Option Nat
  | [] => none
  | '*' :: '/' :: _ => some 2
  | c :: cs => if isLineEnd c then none else (lineCommentTail? cs).map (· + 1)

/-- One blank of the line or one closed comment within the line; zero if there is none. -/
def sameLinePiece : List Char → Nat
  | [] => 0
  | '/' :: '*' :: cs => ((lineCommentTail? cs).map (2 + ·)).getD 0
  | c :: _ => if isLineBlank c then 1 else 0

/-- Layout that does not leave the line. -/
def sameLineLength (cs : List Char) : Nat :=
  piecesLength sameLinePiece cs cs

/-- A line end, with the line comment in front of it. -/
def lineBreakLength? (cs : List Char) : Option Nat :=
  let comment :=
    match cs with
    | '/' :: '/' :: rest => 2 + runLength (!isLineEnd ·) rest
    | _ => 0
  if startsIn isLineEnd (cs.drop comment) then some (comment + 1) else none

/-! ## Names and words -/

/-- A name, reserved or not. -/
def nameLength? : List Char → Option Nat
  | [] => none
  | c :: cs => if isNameStart c then some (1 + runLength isNamePart cs) else none

/-- A word that no name character follows. -/
def wordLength? (word : String) (cs : List Char) : Option Nat :=
  (spelled? word.toList cs).filter fun n => atNameEdge (cs.drop n)

/-- The words that are no identifiers. -/
def reservedWords : List String := [
  "await", "break", "case", "catch", "class", "const", "continue", "debugger", "default", "delete",
  "do", "else", "enum", "export", "extends", "false", "finally", "for", "function", "if", "import",
  "in", "instanceof", "let", "new", "null", "return", "super", "switch", "this", "throw", "true",
  "try", "typeof", "var", "void", "while", "with", "yield"]

/-- The words that introduce or join constructs. Some of them may also be identifiers. -/
inductive Keyword where
  | async | await | break | case | catch | «class» | const | continue | debugger | default | do
  | else | extends | finally | for | function | get | if | in | let | new | of | return | set
  | static | switch | throw | try | var | while | yield
  deriving DecidableEq, Repr

/-- The spelling of a keyword. -/
def Keyword.spelling : Keyword → String
  | .async => "async" | .await => "await" | .break => "break" | .case => "case" | .catch => "catch"
  | .class => "class" | .const => "const" | .continue => "continue" | .debugger => "debugger"
  | .default => "default" | .do => "do" | .else => "else" | .extends => "extends"
  | .finally => "finally" | .for => "for" | .function => "function" | .get => "get" | .if => "if"
  | .in => "in" | .let => "let" | .new => "new" | .of => "of" | .return => "return" | .set => "set"
  | .static => "static" | .switch => "switch" | .throw => "throw" | .try => "try" | .var => "var"
  | .while => "while" | .yield => "yield"

/-- All keywords. -/
def Keyword.all : List Keyword := [
  .async, .await, .break, .case, .catch, .class, .const, .continue, .debugger, .default, .do, .else,
  .extends, .finally, .for, .function, .get, .if, .in, .let, .new, .of, .return, .set, .static,
  .switch, .throw, .try, .var, .while, .yield]

/-! ## Literals -/

/-- The rest of a string after its opening quote, up to and including the closing quote. -/
def stringTail? (quote : Char) : List Char → Option Nat
  | [] => none
  | '\\' :: _ :: cs => (stringTail? quote cs).map (· + 2)
  | c :: cs =>
    if c == quote then some 1
    else if c == '\\' || isLineEnd c then none
    else (stringTail? quote cs).map (· + 1)

/-- A string in double or single quotes on one line. -/
def stringLength? : List Char → Option Nat
  | '"' :: cs => (stringTail? '"' cs).map (· + 1)
  | '\'' :: cs => (stringTail? '\'' cs).map (· + 1)
  | _ => none

/-- The rest of a regular expression after its opening slash, up to and including the closing slash.
Inside brackets a slash does not close it. -/
def regexTail? (bracketed : Bool) : List Char → Option Nat
  | [] => none
  | '\\' :: c :: cs => if c == '\n' then none else (regexTail? bracketed cs).map (· + 2)
  | c :: cs =>
    if c == '\\' || isLineEnd c then none
    else if bracketed then (regexTail? (c != ']') cs).map (· + 1)
    else if c == '/' then some 1
    else (regexTail? (c == '[') cs).map (· + 1)

/-- A regular expression with its flags; it is neither empty nor the start of a comment. -/
def regexLength? : List Char → Option Nat
  | '/' :: cs =>
    if startsIn (fun c => c == '*' || c == '/') cs then none
    else (regexTail? false cs).map fun n => 1 + n + runLength isAsciiLetter (cs.drop n)
  | _ => none

/-- Template text up to a substitution, the closing mark or an escape that is cut off. -/
def templateLength : List Char → Nat
  | [] => 0
  | '\\' :: _ :: cs => 2 + templateLength cs
  | '$' :: '\x7b' :: _ => 0
  | c :: cs => if c == '\x60' || c == '\\' then 0 else 1 + templateLength cs

/-- A digit or the separator inside numbers. -/
def isDigitPart (c : Char) : Bool :=
  isScriptDigit c || c == '_'

/-- Digits after the radix mark, if the text begins with zero and one of the two marks. -/
def radixLengths (lower upper : Char) (digit : Char → Bool) : List Char → List Nat
  | '0' :: mark :: cs =>
    let n := runLength (fun c => digit c || c == '_') cs
    if (mark == lower || mark == upper) && n != 0 then [2 + n] else []
  | _ => []

/-- The length of an exponent; zero if there is none. -/
def exponentLength : List Char → Nat
  | e :: cs =>
    let sign := if startsIn (fun c => c == '+' || c == '-') cs then 1 else 0
    if (e == 'e' || e == 'E') && startsIn isScriptDigit (cs.drop sign) then
      1 + sign + runLength isDigitPart (cs.drop sign)
    else 0
  | [] => 0

/-- With the exponent behind it, then without. -/
def withExponent (cs : List Char) (n : Nat) : List Nat :=
  match exponentLength (cs.drop n) with
  | 0 => [n]
  | e + 1 => [n + e + 1, n]

/-- The ways to read a decimal number, longest first. -/
def decimalLengths (cs : List Char) : List Nat :=
  if startsIn isScriptDigit cs then
    let whole := runLength isDigitPart cs
    if startsIn (· == '.') (cs.drop whole) then
      withExponent cs (whole + 1 + runLength isDigitPart (cs.drop (whole + 1))) ++ [whole]
    else withExponent cs whole
  else
    match cs with
    | '.' :: fraction =>
      if startsIn isScriptDigit fraction then withExponent cs (1 + runLength isDigitPart fraction)
      else []
    | _ => []

/-- A hexadecimal digit. -/
def isHexDigit (c : Char) : Bool :=
  isAsciiDigit c || ('a' ≤ c && c ≤ 'f') || ('A' ≤ c && c ≤ 'F')

/-- An octal digit. -/
def isOctalDigit (c : Char) : Bool :=
  '0' ≤ c && c ≤ '7'

/-- A binary digit. -/
def isBinaryDigit (c : Char) : Bool :=
  c == '0' || c == '1'

/-- A number: the first reading, with or without the suffix of big numbers, that no name character
follows. -/
def numberLength? (cs : List Char) : Option Nat :=
  let readings := radixLengths 'x' 'X' isHexDigit cs ++ radixLengths 'o' 'O' isOctalDigit cs ++
    radixLengths 'b' 'B' isBinaryDigit cs ++ decimalLengths cs
  let suffixed := readings.flatMap fun n =>
    if startsIn (· == 'n') (cs.drop n) then [n + 1, n] else [n]
  suffixed.find? fun n => atNameEdge (cs.drop n)

/-! ## Operators -/

/-- A spelling and what the text behind it must satisfy. -/
structure Spelling where
  text : List Char
  behind : List Char → Bool

/-- The first spelling that fits. -/
def firstSpelling? (spellings : List Spelling) (cs : List Char) : Option Nat :=
  spellings.findSome? fun s => (spelled? s.text cs).filter fun n => s.behind (cs.drop n)

/-- These spellings with one condition. -/
def spellings (texts : List String) (behind : List Char → Bool) : List Spelling :=
  texts.map fun t => ⟨t.toList, behind⟩

/-- The operators that assign. -/
def assignmentSpellings : List Spelling :=
  spellings [">>>=", "<<=", ">>=", "**=", "&&=", "||=", "??=",
    "-=", "+=", "*=", "/=", "%=", "&=", "|=", "^="] (fun _ => true) ++
  spellings ["="] fun cs => !startsIn (fun c => c == '=' || c == '>') cs

/-- The operators between two operands. -/
def binarySpellings : List Spelling :=
  spellings ["??", "||", "&&", "===", "!==", "==", "!=", "<=", ">=", ">>>", "<<", ">>", "**"]
    (fun cs => !startsIn (· == '=') cs) ++
  spellings ["instanceof", "in"] (fun cs => atNameEdge cs && !startsIn (· == '=') cs) ++
  spellings ["*", "/", "%", "<", ">", "&", "|", "^"] (fun cs => !startsIn (· == '=') cs) ++
  spellings ["+"] (fun cs => !startsIn (fun c => c == '+' || c == '=') cs) ++
  spellings ["-"] (fun cs => !startsIn (fun c => c == '-' || c == '=') cs)

/-- The operators in front of an operand. -/
def prefixSpellings : List Spelling :=
  spellings ["++", "--"] (fun _ => true) ++ spellings ["typeof", "void", "delete"] atNameEdge ++
  spellings ["!", "~", "+", "-"] fun _ => true

/-- The operators behind an operand. -/
def postfixSpellings : List Spelling :=
  spellings ["++", "--"] fun _ => true

/-- The dot of a member access: neither a second dot nor a digit follows. -/
def dotSpellings : List Spelling :=
  spellings ["."] fun cs => !startsIn (fun c => c == '.' || isScriptDigit c) cs

/-- The mark of an optional access: no digit follows. -/
def optionalDotSpellings : List Spelling :=
  spellings ["?."] fun cs => !startsIn isScriptDigit cs

/-! ## Tokens -/

/-- The lexical units of the grammar. -/
inductive Token where
  | layout | sameLine | lineBreak | anyCharacter
  | keyword (k : Keyword) | reservedWord | thisWord | superWord | wordLiteral
  | name | privateName
  | number | string | regex | templateText
  | assignmentOperator | binaryOperator | prefixOperator | postfixOperator
  | dot | optionalDot
  deriving DecidableEq, Repr

/-- How many characters the token takes from the front of the text. -/
def Token.length? (cs : List Char) : Token → Option Nat
  | .layout => some (layoutLength cs)
  | .sameLine => some (sameLineLength cs)
  | .lineBreak => lineBreakLength? cs
  | .anyCharacter => if cs.isEmpty then none else some 1
  | .keyword k => wordLength? k.spelling cs
  | .reservedWord => reservedWords.findSome? (wordLength? · cs)
  | .thisWord => wordLength? "this" cs
  | .superWord => wordLength? "super" cs
  | .wordLiteral => ["true", "false", "null"].findSome? (wordLength? · cs)
  | .name => nameLength? cs
  | .privateName =>
    match cs with
    | '#' :: rest => (nameLength? rest).map (· + 1)
    | _ => none
  | .number => numberLength? cs
  | .string => stringLength? cs
  | .regex => regexLength? cs
  | .templateText =>
    match templateLength cs with
    | 0 => none
    | n + 1 => some (n + 1)
  | .assignmentOperator => firstSpelling? assignmentSpellings cs
  | .binaryOperator => firstSpelling? binarySpellings cs
  | .prefixOperator => firstSpelling? prefixSpellings cs
  | .postfixOperator => firstSpelling? postfixSpellings cs
  | .dot => firstSpelling? dotSpellings cs
  | .optionalDot => firstSpelling? optionalDotSpellings cs

end LoopBound.Grammar
