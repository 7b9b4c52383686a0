/-!
Patterns for paths, and what they match.

A pattern is matched byte by byte. Each part of it takes some start of the text, and what can be
left is always a list of suffixes of the text; a pattern matches when nothing can be left.
-/

namespace TemplateMetrics

inductive Glob.Part where
  | char (c : Char)
  | anyOne
  | anyRun
  /-- Any directories before a name, or none. -/
  | leading
  /-- All that is below a directory. -/
  | inside
  /-- A slash, or a slash with any directories behind it. -/
  | between
  | oneOf (negated : Bool) (ranges : List (Char × Char))
  | choice (branches : List (List Part))
deriving Repr, Inhabited

structure Glob where
  parts : List Glob.Part
  /-- Whether wildcards stop at slashes. -/
  stopsAtSlash : Bool

namespace Glob

def slash : UInt8 := '/'.toNat.toUInt8

def bytesOf (s : String) : List UInt8 := s.toUTF8.toList

/-! ### Classes -/

/-- Ranges of bytes that a range of characters stands for: where a character has several bytes,
only the last one of the lower end and the first one of the upper end are joined. -/
def byteRanges (lo hi : Char) : List (UInt8 × UInt8) :=
  let los := bytesOf (String.ofList [lo])
  if lo = hi then los.map fun b => (b, b)
  else
    let his := bytesOf (String.ofList [hi])
    los.dropLast.map (fun b => (b, b)) ++
      (match los.getLast?, his.head? with
        | some a, some b => [(a, b)]
        | _, _ => []) ++
      his.tail.map fun b => (b, b)

def classHas (ranges : List (Char × Char)) (b : UInt8) : Bool :=
  ranges.any fun (lo, hi) => (byteRanges lo hi).any fun (a, z) => a ≤ b && b ≤ z

/-! ### Suffixes -/

def suffixes : List UInt8 → List (List UInt8)
  | [] => [[]]
  | b :: r => (b :: r) :: suffixes r

/-- Suffixes that start right behind a slash. -/
def afterSlashes : List UInt8 → List (List UInt8)
  | [] => []
  | b :: r => if b = slash then r :: afterSlashes r else afterSlashes r

/-- Suffixes with no slash before them. -/
def inDirectory : List UInt8 → List (List UInt8)
  | [] => [[]]
  | b :: r => (b :: r) :: (if b = slash then [] else inDirectory r)

def afterOne (p : UInt8 → Bool) : List UInt8 → List (List UInt8)
  | [] => []
  | b :: r => if p b then [r] else []

def afterBytes : List UInt8 → List UInt8 → List (List UInt8)
  | [], cs => [cs]
  | _ :: _, [] => []
  | p :: ps, b :: r => if p = b then afterBytes ps r else []

/-! ### Matching -/

mutual

/-- Whether a part stands for nothing at all. -/
def Part.isVoid : Part → Bool
  | .choice branches => allVoid branches
  | _ => false

def branchVoid : List Part → Bool
  | [] => true
  | p :: r => p.isVoid && branchVoid r

def allVoid : List (List Part) → Bool
  | [] => true
  | b :: r => branchVoid b && allVoid r

end

mutual

/-- What can be left of a text behind a part. Of the branches of a choice those that stand for
nothing do not count. -/
def Part.rests (stops : Bool) (text : List UInt8) : Part → List (List UInt8)
  | .char c => afterBytes (bytesOf (String.ofList [c])) text
  | .anyOne => afterOne (fun b => !(stops && b = slash)) text
  | .anyRun => if stops then inDirectory text else suffixes text
  | .leading => text :: afterSlashes text
  | .inside => (afterOne (· = slash) text).flatMap suffixes
  | .between => (afterOne (· = slash) text).flatMap fun r => r :: afterSlashes r
  | .oneOf negated ranges => afterOne (fun b => classHas ranges b != negated) text
  | .choice branches => if allVoid branches then [text] else choiceRests stops text branches

def branchRests (stops : Bool) (texts : List (List UInt8)) : List Part → List (List UInt8)
  | [] => texts
  | p :: r => branchRests stops (texts.flatMap fun t => p.rests stops t).eraseDups r

def choiceRests (stops : Bool) (text : List UInt8) : List (List Part) → List (List UInt8)
  | [] => []
  | b :: r =>
    (if branchVoid b then [] else branchRests stops [text] b) ++ choiceRests stops text r

end

/-- Whether a path fits. A pattern of nothing but leading directories fits every path. -/
def accepts (g : Glob) (path : String) : Bool :=
  match g.parts with
  | [.leading] => true
  | parts => (branchRests g.stopsAtSlash [bytesOf path] parts).contains []

end Glob

end TemplateMetrics
