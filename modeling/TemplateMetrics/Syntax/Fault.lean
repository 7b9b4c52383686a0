import TemplateMetrics.Decimal.Layout
import TemplateMetrics.Syntax.Token

/-!
What can be wrong with a template, and how it is reported.
-/

namespace TemplateMetrics.Syntax

/-- How a message names a token. -/
def Token.describe : Token → String
  | .text _ => "text"
  | .outputStart => "'\x7b\x7b'"
  | .outputEnd => "'\x7d\x7d'"
  | .tagStart => "'\x7b%'"
  | .tagEnd => "'%\x7d'"
  | .name s => "name '" ++ s ++ "'"
  | .str s => "string \"" ++ s ++ "\""
  | .number n => "number " ++ Decimal.inText.write n.toFloat
  | .punct p => "'" ++ p.text ++ "'"
  | .eof => "end of template"

/-- Causes of failure, first those of reading tokens, then those of reading the tree. -/
inductive Fault where
  | unclosedComment
  | unclosedOutput
  | unclosedTag
  | unterminatedString
  | unexpectedCharacter (c : Char)
  | unclosedVerbatim
  | expectedPunct (p : Punct) (found : Token)
  | expectedName (found : Token)
  | expectedTagEnd (found : Token)
  | expectedOutputEnd
  | nestingTooDeep
  | chainTooLong
  | tooTall
  | unexpectedEnd (expected : List String)
  | unexpectedTag (name : String)
  | unexpectedToken (found : Token)
  | expectedIn
  | expectedMissing
  | expectedAs
  | expectedImport
  | expectedMember (found : Token)
  | unexpectedInExpression (found : Token)
  | unexpectedHashKey (found : Token)
  | expectedColon
deriving Repr, DecidableEq

def Fault.message : Fault → String
  | .unclosedComment => "unclosed comment"
  | .unclosedOutput => "unclosed output delimiter"
  | .unclosedTag => "unclosed tag delimiter"
  | .unterminatedString => "unterminated string"
  | .unexpectedCharacter c => "unexpected character '" ++ String.ofList [c] ++ "'"
  | .unclosedVerbatim => "unclosed verbatim section"
  | .expectedPunct p found => "expected '" ++ p.text ++ "', found " ++ found.describe
  | .expectedName found => "expected a name, found " ++ found.describe
  | .expectedTagEnd found => "expected end of tag, found " ++ found.describe
  | .expectedOutputEnd => "expected '\x7d\x7d'"
  | .nestingTooDeep => "nesting too deep"
  | .chainTooLong => "expression chain too long"
  | .tooTall => "expression nested too deeply"
  | .unexpectedEnd expected =>
    "unexpected end of template, expected '" ++ String.intercalate "' or '" expected ++ "'"
  | .unexpectedTag name => "unexpected '" ++ name ++ "' tag"
  | .unexpectedToken found => "unexpected " ++ found.describe
  | .expectedIn => "expected 'in' in for tag"
  | .expectedMissing => "expected 'missing' after 'ignore'"
  | .expectedAs => "expected 'as' in import tag"
  | .expectedImport => "expected 'import' in from tag"
  | .expectedMember found => "expected attribute name, found " ++ found.describe
  | .unexpectedInExpression found => "unexpected " ++ found.describe ++ " in expression"
  | .unexpectedHashKey found => "unexpected " ++ found.describe ++ " as hash key"
  | .expectedColon => "expected ':' after hash key"

/-- A fault and the line it is reported at. -/
structure SyntaxError where
  line : Nat
  fault : Fault
deriving Repr, DecidableEq

end TemplateMetrics.Syntax
