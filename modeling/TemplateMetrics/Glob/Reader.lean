import TemplateMetrics.Glob.Basic

/-!
Patterns from their text.

Stars, question marks, classes in brackets and choices in braces have a meaning, and a backslash
takes it away from the character behind it. Two stars match directories when they stand alone
between slashes; anywhere else they are two single stars.
-/

namespace TemplateMetrics.Glob

/-- Where a pattern comes from: a list of paths to exclude, or a file of ignore rules. -/
inductive Dialect where
  | exclude
  | ignore
deriving Repr, DecidableEq

/-- An open choice: the parts before it and its finished branches, the last ones first. -/
structure Group where
  outer : List Part
  branches : List (List Part)

structure State where
  /-- The character read last. -/
  last : Option Char
  /-- The parts of the current branch, the last one first. -/
  parts : List Part
  /-- Open choices, the innermost first. -/
  groups : List Group
  /-- Whether a bracket was found that is never closed; then no bracket opens a class. -/
  plainBrackets : Bool

namespace State

def start : State := ⟨none, [], [], false⟩

def push (s : State) (last : Char) (p : Part) : State :=
  { s with last := some last, parts := p :: s.parts }

def pushTwoStars (s : State) : State :=
  { s with last := some '*', parts := .anyRun :: .anyRun :: s.parts }

/-- Replace the slash before two stars by a part for directories. Directories that are already
matched there take them in. -/
def pushDirectories (s : State) (last : Char) (p : Part) : State :=
  let parts := match s.parts with
    | .leading :: r => .leading :: r
    | .inside :: r => .inside :: r
    | _ :: r => p :: r
    | [] => [p]
  { s with last := some last, parts := parts }

def readTwoStars (s : State) (rest : List Char) : State × List Char :=
  if s.parts.isEmpty then
    match rest with
    | [] => (s.push '*' .leading, [])
    | '/' :: r => (s.push '/' .leading, r)
    | r => (s.pushTwoStars, r)
  else if s.last = some '/' ||
      !s.groups.isEmpty && (s.last = some ',' || s.last = some '\x7b') then
    match rest with
    | [] => (s.pushDirectories '*' .inside, [])
    | '/' :: r => (s.pushDirectories '/' .between, r)
    | c :: r =>
      if !s.groups.isEmpty && (c = ',' || c = '\x7d') then
        (s.pushDirectories '*' .inside, c :: r)
      else (s.pushTwoStars, c :: r)
  else (s.pushTwoStars, rest)

end State

/-! ### Classes -/

inductive ClassEnd where
  | closed (ranges : List (Char × Char)) (rest : List Char)
  | unclosed
  | reversed

/-- Characters of a class, its ranges the last one first. `dash` tells that a hyphen was read which
may join the last character with the next. -/
def readClass (first dash : Bool) (ranges : List (Char × Char)) : List Char → ClassEnd
  | [] => .unclosed
  | c :: r =>
    if c = ']' && !first then
      .closed (if dash then ('-', '-') :: ranges else ranges).reverse r
    else if c = '-' && !first && !dash then readClass false true ranges r
    else
      match dash, ranges with
      | true, (lo, _) :: earlier =>
        if c < lo then .reversed else readClass false false ((lo, c) :: earlier) r
      | _, _ => readClass false false ((c, c) :: ranges) r

/-! ### Patterns -/

def readOne (dialect : Dialect) (s : State) (c : Char) (rest : List Char) :
    Option (State × List Char) :=
  match c with
  | '?' => some (s.push '?' .anyOne, rest)
  | '*' =>
    match rest with
    | '*' :: r => some (s.readTwoStars r)
    | r => some (s.push '*' .anyRun, r)
  | '[' =>
    if s.plainBrackets then some (s.push '[' (.char '['), rest)
    else
      let (negated, body) := match rest with
        | '!' :: r => (true, r)
        | '^' :: r => (true, r)
        | r => (false, r)
      match readClass true false [] body with
      | .closed ranges r => some (s.push ']' (.oneOf negated ranges), r)
      | .unclosed =>
        if dialect = .ignore then
          some ({ s.push '[' (.char '[') with plainBrackets := true }, rest)
        else none
      | .reversed => none
  | '\x7b' =>
    some ({ s with last := some c, parts := [], groups := ⟨s.parts, []⟩ :: s.groups }, rest)
  | '\x7d' =>
    match s.groups with
    | [] => none
    | g :: groups =>
      let branches := (s.parts.reverse :: g.branches).reverse
      some ({ s with last := some c, parts := .choice branches :: g.outer, groups := groups }, rest)
  | ',' =>
    match s.groups with
    | [] => some (s.push ',' (.char ','), rest)
    | g :: groups =>
      let g := { g with branches := s.parts.reverse :: g.branches }
      some ({ s with last := some c, parts := [], groups := g :: groups }, rest)
  | '\\' =>
    match rest with
    | [] => none
    | d :: r => some (s.push d (.char d), r)
  | c => some (s.push c (.char c), rest)

/-- Read everything. Each step takes a character, so `steps` beyond the length are never used. -/
def readAll (dialect : Dialect) : Nat → State → List Char → Option State
  | _, s, [] => some s
  | 0, _, _ :: _ => none
  | steps + 1, s, c :: r => do
    let (s, r) ← readOne dialect s c r
    readAll dialect steps s r

/-- A pattern from its text, unless something in it is left open or reversed. -/
def parse? (dialect : Dialect) (text : String) : Option Glob := do
  let s ← readAll dialect text.toList.length State.start text.toList
  if s.groups.isEmpty then return ⟨s.parts.reverse, dialect = .ignore⟩ else none

end TemplateMetrics.Glob
