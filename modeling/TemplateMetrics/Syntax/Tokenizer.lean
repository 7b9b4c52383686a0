import TemplateMetrics.Syntax.Fault
import TemplateMetrics.Text.Letter

/-!
From source text to tokens.

A source alternates between text and constructs: outputs, tags and comments. A mark right inside
a delimiter trims the text next to it: `-` removes all white space, `~` only spaces and tabs. The
tag `verbatim` (or `raw`) turns everything up to its end tag into text.

The scan carries the place reached and the trim that the last construct asks of the text after it.
-/

namespace TemplateMetrics.Syntax

inductive Trim where
  | keep
  | all
  | line
deriving Repr, DecidableEq

def Trim.removes : Trim → Char → Bool
  | .keep, _ => false
  | .all, c => Text.isBlank c
  | .line, c => Text.isIndent c

def Trim.ofMark? : Char → Option Trim
  | '-' => some .all
  | '~' => some .line
  | _ => none

/-- A trim mark at the start of a text: the mark itself, what it asks for, and the rest. -/
def takeMark : List Char → List Char × Trim × List Char
  | [] => ([], .keep, [])
  | c :: r =>
    match Trim.ofMark? c with
    | some t => ([c], t, r)
    | none => ([], .keep, c :: r)

def textToken (before after : Trim) (p : Position) (run : List Char) : List Located :=
  let kept := Text.dropRight after.removes (run.dropWhile before.removes)
  if kept.isEmpty then [] else [⟨.text (String.ofList kept), p⟩]

/-! ### Constructs -/

inductive Opener where
  | output
  | tag
  | comment
deriving Repr, DecidableEq

/-- The text up to the first opening delimiter, and what follows that delimiter. -/
def splitOpener : List Char → List Char × Option (Opener × List Char)
  | '{' :: '{' :: r => ([], some (.output, r))
  | '{' :: '%' :: r => ([], some (.tag, r))
  | '{' :: '#' :: r => ([], some (.comment, r))
  | c :: r => let (run, found) := splitOpener r; (c :: run, found)
  | [] => ([], none)

def Opener.text : Opener → List Char
  | .output => ['{', '{']
  | .tag => ['{', '%']
  | .comment => ['{', '#']

/-- Outputs and tags, the two constructs that hold an expression. -/
inductive Delimiter where
  | output
  | tag
deriving Repr, DecidableEq

def Delimiter.close : Delimiter → List Char
  | .output => ['}', '}']
  | .tag => ['%', '}']

def Delimiter.startToken : Delimiter → Token
  | .output => .outputStart
  | .tag => .tagStart

def Delimiter.endToken : Delimiter → Token
  | .output => .outputEnd
  | .tag => .tagEnd

def Delimiter.unclosed : Delimiter → Fault
  | .output => .unclosedOutput
  | .tag => .unclosedTag

/-- A closing delimiter at the start of a text: its characters, its trim, and the rest. -/
def Delimiter.closing? (d : Delimiter) (cs : List Char) : Option (List Char × Trim × List Char) :=
  let (mark, trim, rest) := takeMark cs
  match Text.afterStart? d.close rest with
  | some r => some (mark ++ d.close, trim, r)
  | none => (Text.afterStart? d.close cs).map fun r => (d.close, .keep, r)

/-! ### Lexemes inside a construct -/

/-- The body of a string up to its closing quote: its value, the characters read, and the rest. A
backslash stands for the character after it. -/
def readString (quote : Char) : List Char → Option (List Char × List Char × List Char)
  | [] => none
  | '\\' :: [] => none
  | '\\' :: c :: r =>
    (readString quote r).map fun (value, read, rest) => (c :: value, '\\' :: c :: read, rest)
  | c :: r =>
    if c = quote then some ([], [c], r)
    else (readString quote r).map fun (value, read, rest) => (c :: value, c :: read, rest)

def isNumberPart (c : Char) : Bool := c.isDigit || c = '_'

/-- A number: digits and underscores, then a point with digits if a digit follows the point. -/
def readNumber (cs : List Char) : Decimal.Numeral × List Char × List Char :=
  let whole := cs.takeWhile isNumberPart
  let digits := whole.filter (· ≠ '_')
  match cs.dropWhile isNumberPart with
  | '.' :: d :: r =>
    if d.isDigit then
      let fraction := (d :: r).takeWhile Char.isDigit
      (⟨Decimal.digitsValue (digits ++ fraction), fraction.length⟩, whole ++ '.' :: fraction,
        (d :: r).dropWhile Char.isDigit)
    else (⟨Decimal.digitsValue digits, 0⟩, whole, '.' :: d :: r)
  | rest => (⟨Decimal.digitsValue digits, 0⟩, whole, rest)

/-- The lexeme at the start of a text that is no blank: its token, its characters, and the rest. -/
def readLexeme : List Char → Except Fault (Token × List Char × List Char)
  | [] => .error .unclosedTag
  | c :: r =>
    if c = '"' ∨ c = '\'' then
      match readString c r with
      | some (value, read, rest) => .ok (.str (String.ofList value), c :: read, rest)
      | none => .error .unterminatedString
    else if c.isDigit then
      let (n, read, rest) := readNumber (c :: r)
      .ok (.number n, read, rest)
    else if Text.isNameStart c then
      let name := (c :: r).takeWhile Text.isNamePart
      .ok (.name (String.ofList name), name, (c :: r).dropWhile Text.isNamePart)
    else
      match Punct.read? (c :: r) with
      | some (p, rest) => .ok (.punct p, p.text.toList, rest)
      | none => .error (.unexpectedCharacter c)

def Token.depthAfter (depth : Nat) : Token → Nat
  | .punct p => p.depthAfter depth
  | _ => depth

/-- What a construct leaves behind: its tokens, the trim it asks for, and where the scan goes on. -/
structure Scanned where
  tokens : List Located
  trim : Trim
  position : Position
  rest : List Char
deriving Repr, DecidableEq

/-- Read lexemes up to the closing delimiter at bracket depth 0. Every lexeme has a character, so
`steps` beyond the length of the text are never used. -/
def scanExpression (d : Delimiter) : Nat → Nat → Position → List Char → Except SyntaxError Scanned
  | 0, _, p, _ => .error ⟨p.line, d.unclosed⟩
  | steps + 1, depth, p, cs =>
    let blanks := cs.takeWhile Text.isBlank
    let cs := cs.dropWhile Text.isBlank
    let p := p.after blanks
    if cs.isEmpty then .error ⟨p.line, d.unclosed⟩
    else
      match if depth = 0 then d.closing? cs else none with
      | some (read, trim, rest) => .ok ⟨[⟨d.endToken, p⟩], trim, p.after read, rest⟩
      | none =>
        match readLexeme cs with
        | .error fault => .error ⟨p.line, fault⟩
        | .ok (token, read, rest) => do
          let s ← scanExpression d steps (token.depthAfter depth) (p.after read) rest
          return { s with tokens := ⟨token, p⟩ :: s.tokens }

/-! ### Raw sections -/

def rawEndWord? (cs : List Char) : Option (List Char × List Char) :=
  let verbatim := "endverbatim".toList
  let raw := "endraw".toList
  match Text.afterStart? verbatim cs with
  | some r => some (verbatim, r)
  | none => (Text.afterStart? raw cs).map fun r => (raw, r)

/-- An end tag of a raw section at the start of a text: its characters and the rest. -/
def rawEnd? (cs : List Char) : Option (List Char × List Char) := do
  let r ← Text.afterStart? ['{', '%'] cs
  let (mark, _, r) := takeMark r
  let blanks := r.takeWhile Text.isBlank
  let (word, r) ← rawEndWord? (r.dropWhile Text.isBlank)
  let blanks' := r.takeWhile Text.isBlank
  let (mark', _, r) := takeMark (r.dropWhile Text.isBlank)
  let r ← Text.afterStart? ['%', '}'] r
  return (['{', '%'] ++ mark ++ blanks ++ word ++ blanks' ++ mark' ++ ['%', '}'], r)

def splitRaw? : List Char → Option (List Char × List Char × List Char)
  | [] => none
  | c :: r =>
    match rawEnd? (c :: r) with
    | some (endTag, rest) => some ([], endTag, rest)
    | none => (splitRaw? r).map fun (body, endTag, rest) => (c :: body, endTag, rest)

def opensRaw : List Located → Bool
  | [⟨.tagStart, _⟩, ⟨.name s, _⟩, ⟨.tagEnd, _⟩] => s = "verbatim" || s = "raw"
  | _ => false

/-! ### The scan -/

def scanComment (p : Position) (cs : List Char) : Except SyntaxError Scanned :=
  match Text.splitAtFirst? ['#', '}'] cs with
  | none => .error ⟨p.line, .unclosedComment⟩
  | some (body, rest) =>
    let trim := (body.getLast?.bind Trim.ofMark?).getD .keep
    .ok ⟨[], trim, p.after (body ++ ['#', '}']), rest⟩

/-- An output or a tag that opens at `start`, read from `p` on, behind its delimiter. -/
def scanDelimited (d : Delimiter) (start p : Position) (cs : List Char) :
    Except SyntaxError Scanned := do
  let s ← scanExpression d (cs.length + 1) 0 p cs
  return { s with tokens := ⟨d.startToken, start⟩ :: s.tokens }

def scanTag (start p : Position) (cs : List Char) : Except SyntaxError Scanned := do
  let s ← scanDelimited .tag start p cs
  if opensRaw s.tokens then
    match splitRaw? s.rest with
    | none => .error ⟨start.line, .unclosedVerbatim⟩
    | some (body, endTag, rest) =>
      .ok ⟨textToken s.trim .keep s.position body, .keep, s.position.after (body ++ endTag), rest⟩
  else return s

def scanConstruct : Opener → Position → Position → List Char → Except SyntaxError Scanned
  | .output, start, p, cs => scanDelimited .output start p cs
  | .tag, start, p, cs => scanTag start p cs
  | .comment, _, p, cs => scanComment p cs

/-- Scan a source from a place on. Every construct has characters, so `steps` beyond the length of
the text are never used. The end token stands where the last construct ends. -/
def scan : Nat → Trim → Position → List Char → Except SyntaxError (List Located)
  | 0, _, p, _ => .ok [⟨.eof, p⟩]
  | steps + 1, trim, p, cs =>
    match splitOpener cs with
    | (run, none) => .ok (textToken trim .keep p run ++ [⟨.eof, p⟩])
    | (run, some (opener, rest)) => do
      let (mark, before, rest) := takeMark rest
      let start := p.after run
      let s ← scanConstruct opener start (start.after (opener.text ++ mark)) rest
      let more ← scan steps s.trim s.position s.rest
      return textToken trim before p run ++ s.tokens ++ more

def tokenize (source : String) : Except SyntaxError (List Located) :=
  let cs := source.toList
  scan (cs.length + 1) .keep .first cs

end TemplateMetrics.Syntax
