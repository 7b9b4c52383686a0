import TemplateMetrics.Syntax.Fault

/-!
Reading a list of tokens from its front.
-/

namespace TemplateMetrics.Syntax

abbrev Tokens := List Located

/-- What reading gives, or the error. -/
abbrev Parsed := Except SyntaxError

/-- A reader takes tokens off the front and leaves the rest. -/
abbrev Reader (α : Type) := Tokens → Parsed (α × Tokens)

/-- The first token; behind the last one the template has ended. -/
def peek : Tokens → Token
  | [] => .eof
  | t :: _ => t.token

def lineOf : Tokens → Nat
  | [] => 1
  | t :: _ => t.line

/-- The line that comes after `t`; behind the last token it is that token's own. -/
def lineAfter (t : Located) : Tokens → Nat
  | [] => t.line
  | u :: _ => u.line

def failAt {α : Type} (ts : Tokens) (fault : Fault) : Parsed α :=
  .error ⟨lineOf ts, fault⟩

def isPunct (p : Punct) (ts : Tokens) : Bool := peek ts = .punct p

def isName (s : String) (ts : Tokens) : Bool := peek ts = .name s

def eatPunct? (p : Punct) (ts : Tokens) : Option Tokens :=
  if isPunct p ts then some ts.tail else none

def eatName? (s : String) (ts : Tokens) : Option Tokens :=
  if isName s ts then some ts.tail else none

def skipName (s : String) (ts : Tokens) : Tokens := (eatName? s ts).getD ts

def expectPunct (p : Punct) (ts : Tokens) : Parsed Tokens :=
  match eatPunct? p ts with
  | some r => .ok r
  | none => failAt ts (.expectedPunct p (peek ts))

def expectName : Reader String
  | ⟨.name s, _⟩ :: r => .ok (s, r)
  | ts => failAt ts (.expectedName (peek ts))

def expectTagEnd (ts : Tokens) : Parsed Tokens :=
  if peek ts = .tagEnd then .ok ts.tail else failAt ts (.expectedTagEnd (peek ts))

/-- Skip one name of any spelling. -/
def skipAnyName : Tokens → Tokens
  | ⟨.name _, _⟩ :: r => r
  | ts => ts

/-! ### Loops

A loop over tokens is given by its round, which says what to do where the loop stands if `next`
says what the loop gives from any later place. A round takes a token before it goes on, so there are
no more rounds than tokens, and the last value of `rounds` is never met. -/

variable {σ α : Type}

/-- A round of a loop that carries a `σ` along. -/
abbrev Round (σ α : Type) := (σ → Tokens → Parsed α) → σ → Tokens → Parsed α

def rounds (round : Round σ α) : Nat → σ → Tokens → Parsed α
  | 0, _, _ => .error ⟨1, .chainTooLong⟩
  | n + 1, s, ts => round (rounds round n) s ts

def loop (round : Round σ α) : σ → Tokens → Parsed α :=
  fun s ts => rounds round (ts.length + 1) s ts

/-! ### Lists of items -/

def closedRound (close : Punct) (item : Reader α) : Round Unit (List α × Tokens) :=
  fun next _ ts =>
    match eatPunct? close ts with
    | some r => .ok ([], r)
    | none => do
      let (x, ts) ← item ts
      match eatPunct? .comma ts with
      | some r => do
        let (xs, r) ← next () r
        return (x :: xs, r)
      | none => do
        let r ← expectPunct close ts
        return ([x], r)

/-- Items up to a closing mark, with commas between them and perhaps after the last. -/
def closedList (close : Punct) (item : Reader α) : Reader (List α) :=
  loop (closedRound close item) ()

def commaRound (item : Reader α) : Round Unit (List α × Tokens) := fun next _ ts => do
  let (x, ts) ← item ts
  match eatPunct? .comma ts with
  | some r => do
    let (xs, r) ← next () r
    return (x :: xs, r)
  | none => return ([x], ts)

/-- One or more items with commas between them. -/
def commaList (item : Reader α) : Reader (List α) := loop (commaRound item) ()

end TemplateMetrics.Syntax
