import TemplateMetrics.Decimal.Layout
import TemplateMetrics.Json.Basic

/-!
Text of JSON documents, on one line or indented.
-/

namespace TemplateMetrics.Json

def hexDigit (n : Nat) : Char := (Nat.digitChar n)

/-- A character inside a string. Only quotes, backslashes and control characters are escaped. -/
def escapeChar (c : Char) : List Char :=
  match c with
  | '"' => ['\\', '"']
  | '\\' => ['\\', '\\']
  | '\n' => ['\\', 'n']
  | '\r' => ['\\', 'r']
  | '\t' => ['\\', 't']
  | '\x08' => ['\\', 'b']
  | '\x0c' => ['\\', 'f']
  | c =>
    if c.toNat < 0x20 then ['\\', 'u', '0', '0', hexDigit (c.toNat / 16), hexDigit (c.toNat % 16)]
    else [c]

def quote (s : String) : String := String.ofList ('"' :: s.toList.flatMap escapeChar ++ ['"'])

/-- Text of a float; what is no number is written as nothing. -/
def writeFloat (x : Float) : String := if x.isFinite then Decimal.inDocument.write x else "null"

def writeLeaf : Json → String
  | .null => "null"
  | .bool true => "true"
  | .bool false => "false"
  | .int n => toString n
  | .float x => writeFloat x
  | .str s => quote s
  | .arr _ => "[]"
  | .obj _ => "\x7b\x7d"

mutual

/-- A document on one line, without blanks. -/
def compact : Json → String
  | .arr items => "[" ++ compactItems items ++ "]"
  | .obj fields => "\x7b" ++ compactFields fields ++ "\x7d"
  | leaf => writeLeaf leaf

def compactItems : List Json → String
  | [] => ""
  | [j] => compact j
  | j :: r => compact j ++ "," ++ compactItems r

def compactFields : List (String × Json) → String
  | [] => ""
  | [(k, j)] => quote k ++ ":" ++ compact j
  | (k, j) :: r => quote k ++ ":" ++ compact j ++ "," ++ compactFields r

end

def newLine (depth : Nat) : String := String.ofList ('\n' :: List.replicate (2 * depth) ' ')

mutual

/-- A document with an item or field on each line. -/
def indented (depth : Nat) : Json → String
  | .arr (j :: r) =>
    "[" ++ newLine (depth + 1) ++ indented (depth + 1) j ++ indentedItems (depth + 1) r ++
      newLine depth ++ "]"
  | .obj ((k, j) :: r) =>
    "\x7b" ++ newLine (depth + 1) ++ quote k ++ ": " ++ indented (depth + 1) j ++
      indentedFields (depth + 1) r ++ newLine depth ++ "\x7d"
  | leaf => writeLeaf leaf

def indentedItems (depth : Nat) : List Json → String
  | [] => ""
  | j :: r => "," ++ newLine depth ++ indented depth j ++ indentedItems depth r

def indentedFields (depth : Nat) : List (String × Json) → String
  | [] => ""
  | (k, j) :: r =>
    "," ++ newLine depth ++ quote k ++ ": " ++ indented depth j ++ indentedFields depth r

end

inductive Format where
  | indented
  | compact
deriving Repr, DecidableEq

def Format.write : Format → Json → String
  | .indented, j => Json.indented 0 j ++ "\n"
  | .compact, j => Json.compact j ++ "\n"

end TemplateMetrics.Json
