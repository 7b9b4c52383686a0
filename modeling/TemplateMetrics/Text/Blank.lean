/-!
White space, and text without it at its ends.
-/

namespace TemplateMetrics.Text

/-- The Unicode property White_Space. -/
def isBlank (c : Char) : Bool :=
  let n := c.toNat
  (9 ≤ n && n ≤ 13) || n = 0x20 || n = 0x85 || n = 0xA0 || n = 0x1680 ||
    (0x2000 ≤ n && n ≤ 0x200A) || n = 0x2028 || n = 0x2029 || n = 0x202F || n = 0x205F || n = 0x3000

def isPlainBlank (c : Char) : Bool :=
  let n := c.toNat
  n = 9 || n = 10 || n = 12 || n = 13 || n = 0x20

/-- A blank that stays on its line: space or tab. -/
def isIndent (c : Char) : Bool := c = ' ' || c = '\t'

/-- Drop the longest suffix of characters that satisfy `p`. -/
def dropRight (p : Char → Bool) (cs : List Char) : List Char :=
  (cs.reverse.dropWhile p).reverse

def trim (cs : List Char) : List Char := dropRight isBlank (cs.dropWhile isBlank)

def newlines (cs : List Char) : Nat := cs.countP (· = '\n')

def afterStart? : List Char → List Char → Option (List Char)
  | [], cs => some cs
  | _ :: _, [] => none
  | p :: ps, c :: cs => if p = c then afterStart? ps cs else none

def startsWith (p cs : List Char) : Bool := (afterStart? p cs).isSome

/-- Split at the first place where `p` stands: the text before it and the text after it. -/
def splitAtFirst? (p : List Char) : List Char → Option (List Char × List Char)
  | [] => (afterStart? p []).map fun r => ([], r)
  | c :: cs =>
    match afterStart? p (c :: cs) with
    | some r => some ([], r)
    | none => (splitAtFirst? p cs).map fun (before, after) => (c :: before, after)

end TemplateMetrics.Text
