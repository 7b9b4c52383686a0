import TemplateMetrics.Glob.Reader
import TemplateMetrics.Text.Lines

/-!
Rules of ignore files.
-/

namespace TemplateMetrics.Ignore

/-- A rule tells to skip the paths it fits, or to keep them. -/
structure Rule where
  glob : Glob
  keeps : Bool
  onlyDirectories : Bool

inductive Verdict where
  | skip
  | keep
deriving Repr, DecidableEq

def trimEnd (line : List Char) : List Char :=
  match line.reverse with
  | ' ' :: '\\' :: _ => line
  | _ => Text.dropRight Text.isBlank line

/-- The text of a pattern behind its marks: whether it keeps, whether it stands for a path from the
directory of its file on, and the rest. -/
def readMarks (line : List Char) : Bool × Bool × List Char :=
  match line with
  | '\\' :: '!' :: r => (false, false, '!' :: r)
  | '\\' :: '#' :: r => (false, false, '#' :: r)
  | _ =>
    let (keeps, line) := match line with
      | '!' :: r => (true, r)
      | r => (false, r)
    match line with
    | '/' :: r => (keeps, true, r)
    | r => (keeps, false, r)

def readDirectoryMark (line : List Char) : Bool × List Char :=
  match line.reverse with
  | '/' :: '\\' :: r => (true, r.reverse)
  | '/' :: r => (true, r.reverse)
  | _ => (false, line)

/-- A pattern without a slash fits a name in any directory, and one that ends in two stars fits what
is in a directory but not the directory. -/
def completed (anchored : Bool) (line : List Char) : List Char :=
  let stars := "**".toList
  let deep := Text.startsWith "**/".toList line || line = stars
  let line := if !anchored && !line.contains '/' && !deep then "**/".toList ++ line else line
  if Text.startsWith "**/".toList line.reverse then line ++ "/*".toList else line

/-- The rule of a line; comments, empty lines and patterns that cannot be read have none. -/
def Rule.ofLine? (line : List Char) : Option Rule :=
  if line.head? = some '#' then none
  else
    let line := trimEnd line
    if line.isEmpty then none
    else
      let (keeps, anchored, line) := readMarks line
      let (onlyDirectories, line) := readDirectoryMark line
      (Glob.parse? .ignore (String.ofList (completed anchored line))).map fun glob =>
        ⟨glob, keeps, onlyDirectories⟩

/-- The rules of a file. A byte order mark may stand before the first line. -/
def rulesOf (text : String) : List Rule :=
  (Text.lines (text.toList.dropWhile fun c => c.toNat = 0xFEFF)).filterMap Rule.ofLine?

def verdict? (rules : List Rule) (path : String) (isDirectory : Bool) : Option Verdict :=
  (rules.reverse.find? fun r => (!r.onlyDirectories || isDirectory) && r.glob.accepts path).map
    fun r => if r.keeps then .keep else .skip

end TemplateMetrics.Ignore
