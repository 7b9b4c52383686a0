import TemplateMetrics.Decimal.Numeral
import TemplateMetrics.Text.Blank

/-!
Tokens of a template and where they stand.
-/

namespace TemplateMetrics.Syntax

/-- A place in a source: its line, counted from 1, and the number of characters before it. -/
structure Position where
  line : Nat
  offset : Nat
deriving Repr, DecidableEq, Inhabited

def Position.first : Position := ⟨1, 0⟩

/-- The place reached by reading `cs` from `p` on. -/
def Position.after (p : Position) (cs : List Char) : Position :=
  ⟨p.line + Text.newlines cs, p.offset + cs.length⟩

inductive Punct where
  | coalesce | elvis | equal | notEqual | atMost | atLeast | range | floorDivide | power
  | plus | minus | times | divide | modulo | tilde | less | greater | assign | pipe | dot
  | comma | colon | question
  | openParen | closeParen | openBracket | closeBracket | openBrace | closeBrace
deriving Repr, DecidableEq, Inhabited

def Punct.text : Punct → String
  | .coalesce => "??" | .elvis => "?:" | .equal => "==" | .notEqual => "!=" | .atMost => "<="
  | .atLeast => ">=" | .range => ".." | .floorDivide => "//" | .power => "**" | .plus => "+"
  | .minus => "-" | .times => "*" | .divide => "/" | .modulo => "%" | .tilde => "~" | .less => "<"
  | .greater => ">" | .assign => "=" | .pipe => "|" | .dot => "." | .comma => "," | .colon => ":"
  | .question => "?" | .openParen => "(" | .closeParen => ")" | .openBracket => "["
  | .closeBracket => "]" | .openBrace => "\x7b" | .closeBrace => "\x7d"

/-- The longest mark at the start of a text, with the text after it. -/
def Punct.read? : List Char → Option (Punct × List Char)
  | '?' :: '?' :: r => some (.coalesce, r)
  | '?' :: ':' :: r => some (.elvis, r)
  | '=' :: '=' :: r => some (.equal, r)
  | '!' :: '=' :: r => some (.notEqual, r)
  | '<' :: '=' :: r => some (.atMost, r)
  | '>' :: '=' :: r => some (.atLeast, r)
  | '.' :: '.' :: r => some (.range, r)
  | '/' :: '/' :: r => some (.floorDivide, r)
  | '*' :: '*' :: r => some (.power, r)
  | '+' :: r => some (.plus, r)
  | '-' :: r => some (.minus, r)
  | '*' :: r => some (.times, r)
  | '/' :: r => some (.divide, r)
  | '%' :: r => some (.modulo, r)
  | '~' :: r => some (.tilde, r)
  | '<' :: r => some (.less, r)
  | '>' :: r => some (.greater, r)
  | '=' :: r => some (.assign, r)
  | '|' :: r => some (.pipe, r)
  | '.' :: r => some (.dot, r)
  | ',' :: r => some (.comma, r)
  | ':' :: r => some (.colon, r)
  | '?' :: r => some (.question, r)
  | '(' :: r => some (.openParen, r)
  | ')' :: r => some (.closeParen, r)
  | '[' :: r => some (.openBracket, r)
  | ']' :: r => some (.closeBracket, r)
  | '{' :: r => some (.openBrace, r)
  | '}' :: r => some (.closeBrace, r)
  | _ => none

/-- Bracket depth after a mark; a stray closing bracket leaves depth 0. -/
def Punct.depthAfter (depth : Nat) : Punct → Nat
  | .openParen | .openBracket | .openBrace => depth + 1
  | .closeParen | .closeBracket | .closeBrace => depth - 1
  | _ => depth

inductive Token where
  | text (s : String)
  | outputStart
  | outputEnd
  | tagStart
  | tagEnd
  | name (s : String)
  | str (s : String)
  | number (n : Decimal.Numeral)
  | punct (p : Punct)
  | eof
deriving Repr, DecidableEq, Inhabited

structure Located where
  token : Token
  position : Position
deriving Repr, DecidableEq, Inhabited

def Located.line (t : Located) : Nat := t.position.line

end TemplateMetrics.Syntax
