import TemplateMetrics.Toml.Scalar

/-!
Quoted strings of TOML, on one line and on several.
-/

namespace TemplateMetrics.Toml

def isPlain (c : Char) : Bool := (0x20 ≤ c.toNat || c = '\t') && c.toNat ≠ 0x7F

def codePoint? (n : Nat) (cs : List Char) : Option (Char × List Char) :=
  let ds := cs.take n
  if ds.length = n ∧ ds.all isHex then
    let v := baseValue 16 ds
    if v < 0xD800 ∨ 0xDFFF < v ∧ v < 0x110000 then some (Char.ofNat v, cs.drop n) else none
  else none

def escape? (edition : Edition) : List Char → Option (Char × List Char)
  | [] => none
  | c :: r =>
    match c with
    | 'b' => some ('\x08', r)
    | 't' => some ('\t', r)
    | 'n' => some ('\n', r)
    | 'f' => some ('\x0c', r)
    | 'r' => some ('\r', r)
    | '"' => some ('"', r)
    | '\\' => some ('\\', r)
    | 'u' => codePoint? 4 r
    | 'U' => codePoint? 8 r
    | 'e' => if edition = .v11 then some ('\x1b', r) else none
    | 'x' => if edition = .v11 then codePoint? 2 r else none
    | _ => none

def basicLine (edition : Edition) : Nat → List Char → List Char → Option (String × List Char)
  | 0, _, _ => none
  | _ + 1, _, [] => none
  | steps + 1, done, c :: r =>
    if c = '"' then some (String.ofList done.reverse, r)
    else if c = '\\' then do
      let (c, r) ← escape? edition r
      basicLine edition steps (c :: done) r
    else if isPlain c then basicLine edition steps (c :: done) r
    else none

def literalLine : List Char → List Char → Option (String × List Char)
  | _, [] => none
  | done, c :: r =>
    if c = '\'' then some (String.ofList done.reverse, r)
    else if isPlain c then literalLine (c :: done) r
    else none

def skipNewline? : List Char → Option (List Char)
  | '\n' :: r => some r
  | '\r' :: '\n' :: r => some r
  | _ => none

/-- The line ending that starts with a character, last character first, as it stands in a string;
the first edition spells all line endings alike. -/
def newlineText (edition : Edition) (c : Char) : List Char :=
  if c = '\r' ∧ edition = .v11 then ['\n', '\r'] else ['\n']

def isTomlBlank (c : Char) : Bool := c = ' ' || c = '\t'

def skipBlankLines : List Char → List Char
  | '\r' :: '\n' :: r => skipBlankLines r
  | c :: r => if isTomlBlank c || c = '\n' then skipBlankLines r else c :: r
  | [] => []

/-- What follows a backslash at the end of a line, with its line ending and all blanks skipped. -/
def continuation? (cs : List Char) : Option (List Char) :=
  (skipNewline? (cs.dropWhile isTomlBlank)).map skipBlankLines

/-- The end of a string of several lines: up to two quotes may stand before the three that close
it, and belong to the text. -/
def closing? (quote : Char) (cs : List Char) : Option (Nat × List Char) :=
  let quotes := (cs.takeWhile (· = quote)).length
  if 3 ≤ quotes then
    let extra := min (quotes - 3) 2
    some (extra, cs.drop (3 + extra))
  else none

def severalLines (edition : Edition) (quote : Char) :
    Nat → List Char → List Char → Option (String × List Char)
  | 0, _, _ => none
  | _ + 1, _, [] => none
  | steps + 1, done, c :: r =>
    match closing? quote (c :: r) with
    | some (extra, rest) => some (String.ofList (List.replicate extra quote ++ done).reverse, rest)
    | none =>
      match skipNewline? (c :: r) with
      | some r => severalLines edition quote steps (newlineText edition c ++ done) r
      | none =>
        if c = '\\' ∧ quote = '"' then
          match continuation? r with
          | some r => severalLines edition quote steps done r
          | none => do
            let (c, r) ← escape? edition r
            severalLines edition quote steps (c :: done) r
        else if isPlain c then severalLines edition quote steps (c :: done) r
        else none

/-- A line ending right behind the opening quotes does not count. -/
def dropFirstNewline (cs : List Char) : List Char := (skipNewline? cs).getD cs

/-- A string, behind none of its quotes. -/
def string? (edition : Edition) (cs : List Char) : Option (String × List Char) :=
  match cs with
  | '"' :: '"' :: '"' :: r =>
    severalLines edition '"' (r.length + 1) [] (dropFirstNewline r)
  | '\'' :: '\'' :: '\'' :: r =>
    severalLines edition '\'' (r.length + 1) [] (dropFirstNewline r)
  | '"' :: r => basicLine edition (r.length + 1) [] r
  | '\'' :: r => literalLine [] r
  | _ => none

/-! ### Keys -/

def isBareKeyPart (c : Char) : Bool := c.isAlphanum || c = '_' || c = '-'

def simpleKey? (edition : Edition) (cs : List Char) : Option (String × List Char) :=
  match cs with
  | '"' :: r => basicLine edition (r.length + 1) [] r
  | '\'' :: r => literalLine [] r
  | cs =>
    let key := cs.takeWhile isBareKeyPart
    if key.isEmpty then none else some (String.ofList key, cs.dropWhile isBareKeyPart)

def skipBlanks (cs : List Char) : List Char := cs.dropWhile isTomlBlank

/-- At most `room` keys with points between them, and the blanks behind the last. -/
def keysWithin? (edition : Edition) : Nat → List Char → Option (List String × List Char)
  | 0, _ => none
  | room + 1, cs => do
    let (key, r) ← simpleKey? edition (skipBlanks cs)
    match skipBlanks r with
    | '.' :: r => do
      let (keys, r) ← keysWithin? edition room r
      return (key :: keys, r)
    | r => return ([key], r)

def keyPath? (edition : Edition) (cs : List Char) : Option (List String × List Char) :=
  keysWithin? edition edition.depth cs

end TemplateMetrics.Toml
