import TemplateMetrics.Decimal.Numeral
import TemplateMetrics.Json.Printer

/-!
The arguments of the command line.

Arguments are read from left to right. An option that waits for its value takes the next argument,
and its value is checked when the next option comes or when everything is read: what stands between
decides first.
-/

namespace TemplateMetrics.CommandLine

inductive Command where
  | analyze
  | graph
  | report (failUnder : Option Float)

structure Options where
  path : String
  format : Json.Format
  config : Option String
  verbose : Bool
  jobs : Option Nat

inductive Request where
  | run (options : Options) (command : Command)
  | help
  | version

inductive Stop where
  | usage
  | help
  | version
deriving Repr, DecidableEq

/-! ### Options -/

/-- Options that can be told apart by their names, with a value or without. -/
inductive Key where
  | path
  | format
  | config
  | jobs
  | verbose
  | failUnder
  | help
  | version
deriving Repr, DecidableEq

def Key.takesValue : Key → Bool
  | .path | .format | .config | .jobs | .failUnder => true
  | .verbose | .help | .version => false

/-- Names of the options of a command: long ones, and those of one letter. -/
structure Names where
  long : String → Option Key
  short : Char → Option Key

def mainNames : Names where
  long
    | "path" => some .path
    | "format" => some .format
    | "config" => some .config
    | "jobs" => some .jobs
    | "verbose" => some .verbose
    | "help" => some .help
    | "version" => some .version
    | _ => none
  short
    | 'p' => some .path
    | 'f' => some .format
    | 'c' => some .config
    | 'j' => some .jobs
    | 'v' => some .verbose
    | 'h' => some .help
    | 'V' => some .version
    | _ => none

def plainNames : Names where
  long
    | "help" => some .help
    | _ => none
  short
    | 'h' => some .help
    | _ => none

def reportNames : Names where
  long
    | "fail-under" => some .failUnder
    | "help" => some .help
    | _ => none
  short
    | 'h' => some .help
    | _ => none

/-! ### Values -/

structure Given where
  path : Option String
  format : Option Json.Format
  config : Option String
  jobs : Option Nat
  verbose : Bool
  failUnder : Option Float
  /-- An option whose value is not checked yet, and the value if it has come. -/
  pending : Option (Key × Option String)

def Given.start : Given := ⟨none, none, none, none, false, none, none⟩

def format? : String → Option Json.Format
  | "json" => some .indented
  | "compact" => some .compact
  | _ => none

def jobs? (s : String) : Option Nat :=
  match Decimal.readNat s with
  | some n => if n < Nat.pow 2 64 then some n else none
  | none => none

def path? (s : String) : Option String := if s = "" then none else some s

def setOnce {α : Type} (old new : Option α) : Option (Option α) :=
  match old, new with
  | none, some a => some (some a)
  | _, _ => none

/-- Take an option with its value. No option comes twice. -/
def Given.set (g : Given) (key : Key) (value : String) : Option Given :=
  match key with
  | .path => (setOnce g.path (path? value)).map fun v => { g with path := v }
  | .format => (setOnce g.format (format? value)).map fun v => { g with format := v }
  | .config => (setOnce g.config (path? value)).map fun v => { g with config := v }
  | .jobs => (setOnce g.jobs (jobs? value)).map fun v => { g with jobs := v }
  | .failUnder =>
    (setOnce g.failUnder (Decimal.readFloat value)).map fun v => { g with failUnder := v }
  | .verbose | .help | .version => none

def Given.settle (g : Given) : Except Stop Given :=
  match g.pending with
  | none => .ok g
  | some (_, none) => .error .usage
  | some (key, some value) =>
    match { g with pending := none }.set key value with
    | some g => .ok g
    | none => .error .usage

def Given.waits (g : Given) : Bool :=
  match g.pending with
  | some (_, none) => true
  | _ => false

/-! ### Arguments -/

def Given.flag (g : Given) (key : Key) : Except Stop Given := do
  let g ← g.settle
  match key with
  | .help => .error .help
  | .version => .error .version
  | _ => if g.verbose then .error .usage else return { g with verbose := true }

def Given.attach (g : Given) (key : Key) (value : String) : Except Stop Given := do
  match (← g.settle).set key value with
  | some g => return g
  | none => .error .usage

def Given.await (g : Given) (key : Key) : Except Stop Given := do
  return { ← g.settle with pending := some (key, none) }

def readLong (names : Names) (g : Given) (cs : List Char) : Except Stop Given :=
  let name := String.ofList (cs.takeWhile (· ≠ '='))
  match names.long name, cs.dropWhile (· ≠ '=') with
  | none, _ => .error .usage
  | some key, [] => if key.takesValue then g.await key else g.flag key
  | some key, _ :: value =>
    if key.takesValue then g.attach key (String.ofList value) else .error .usage

/-- Letters behind one hyphen. The first option with a value takes what follows it, without a sign
of equality in front. -/
def readShort (names : Names) (g : Given) : List Char → Except Stop Given
  | [] => .ok g
  | c :: r =>
    match names.short c with
    | none => .error .usage
    | some key =>
      if key.takesValue then
        match r with
        | [] => g.await key
        | '=' :: value => g.attach key (String.ofList value)
        | value => g.attach key (String.ofList value)
      else do readShort names (← g.flag key) r

def readOption? (names : Names) (g : Given) (arg : String) : Option (Except Stop Given) :=
  match arg.toList with
  | '-' :: '-' :: [] => none
  | '-' :: '-' :: cs => some (readLong names g cs)
  | '-' :: c :: cs => some (readShort names g (c :: cs))
  | _ => none

/-- The arguments of a command that has no commands itself. Behind `--` nothing may follow. -/
def readAll (names : Names) : Given → List String → Except Stop Given
  | g, [] => g.settle
  | g, arg :: rest =>
    if arg = "--" then if rest.isEmpty then g.settle else .error .usage
    else
      match readOption? names g arg with
      | some (.ok g) => readAll names g rest
      | some (.error stop) => .error stop
      | none =>
        match g.pending with
        | some (key, none) => readAll names { g with pending := some (key, some arg) } rest
        | _ => .error .usage

def command? : String → Option (List String → Except Stop Command)
  | "analyze" | "a" => some fun args => (readAll plainNames .start args).map fun _ => .analyze
  | "graph" | "dag" => some fun args => (readAll plainNames .start args).map fun _ => .graph
  | "report" | "score" =>
    some fun args => (readAll reportNames .start args).map fun g => .report g.failUnder
  | _ => none

/-- Help on everything or on one command, which must exist. -/
def helpOn : List String → Stop
  | [] => .help
  | [name] => if name = "help" || (command? name).isSome then .help else .usage
  | _ => .usage

def Given.options (g : Given) : Options where
  path := g.path.getD "."
  format := g.format.getD .indented
  config := g.config
  verbose := g.verbose
  jobs := g.jobs

/-- Options up to the command, and the command with its own. -/
def readMain : Given → List String → Except Stop (Options × Command)
  | _, [] => .error .usage
  | g, arg :: rest =>
    if g.waits then
      match readOption? mainNames g arg, g.pending with
      | none, some (key, none) =>
        if arg = "--" then .error .usage
        else readMain { g with pending := some (key, some arg) } rest
      | _, _ => .error .usage
    else if arg = "help" then .error (helpOn rest)
    else
      match command? arg with
      | some read => do
        let command ← read rest
        return ((← g.settle).options, command)
      | none =>
        match readOption? mainNames g arg with
        | some (.ok g) => readMain g rest
        | some (.error stop) => .error stop
        | none => .error .usage

def parse? (args : List String) : Option Request :=
  match readMain .start args with
  | .ok (options, command) => some (.run options command)
  | .error .help => some .help
  | .error .version => some .version
  | .error .usage => none

end TemplateMetrics.CommandLine
