import TemplateMetrics.Text.Blank

/-!
Paths that identify templates. They are relative and use `/`.
-/

namespace TemplateMetrics.Path

/-- With `/` for every backslash and without one leading `./`. -/
def normalize (path : String) : String :=
  let cs := path.toList.map fun c => if c = '\\' then '/' else c
  match cs with
  | '.' :: '/' :: r => String.ofList r
  | cs => String.ofList cs

/-- The path that a reference written in a template points to. -/
def normalizeTarget (target : String) : String :=
  String.ofList ((normalize target).toList.dropWhile (· = '/'))

def segments (cs : List Char) : List (List Char) :=
  cs.foldr (fun c parts =>
    match parts with
    | [] => if c = '/' then [[], []] else [[c]]
    | p :: ps => if c = '/' then [] :: p :: ps else (c :: p) :: ps) [[]]

/-- What comes before the last slash; nothing if there is none. -/
def directory (path : String) : String :=
  String.ofList ((path.toList.reverse.dropWhile (· ≠ '/')).tail.reverse)

def fileName (path : String) : String :=
  String.ofList (path.toList.reverse.takeWhile (· ≠ '/')).reverse

def directoryCategory? : String → Option String
  | "component" | "components" => some "component"
  | "layout" | "layouts" => some "layout"
  | "page" | "pages" => some "page"
  | "partial" | "partials" => some "partial"
  | "email" | "emails" => some "email"
  | "form" | "forms" => some "form"
  | "macro" | "macros" => some "macro"
  | _ => none

/-- The category of a template: that of its outermost telling directory; else a file whose name
starts with an underscore is a partial. -/
def category (path : String) : String :=
  let directories := (segments path.toList).dropLast
  match directories.findSome? fun d => directoryCategory? (String.ofList (d.map Char.toLower)) with
  | some c => c
  | none => if (fileName path).toList.head? = some '_' then "partial" else "other"

/-! ### Paths below a root

Paths compare by their components: repeated slashes and inner dots do not count. -/

def isVoid (segment : List Char) : Bool := segment = [] || segment = ['.']

/-- The start of a path, which is a slash, a dot or nothing, and the segments behind it. -/
def start (cs : List Char) : List Char × List (List Char) :=
  match cs with
  | '/' :: r => (['/'], segments r)
  | ['.'] => (['.'], [[]])
  | '.' :: '/' :: r => (['.'], segments ('/' :: r))
  | cs => ([], segments cs)

def components (cs : List Char) : List (List Char) :=
  let (first, body) := start cs
  (if first = [] then [] else [first]) ++ body.filter fun s => !isVoid s

def join : List (List Char) → List Char
  | [] => []
  | [s] => s
  | s :: r => s ++ '/' :: join r

def dropLastVoid (body : List (List Char)) : List (List Char) :=
  (body.reverse.dropWhile isVoid).reverse

/-- Drop so many components, and what is no component before and behind them. -/
def dropComponents : Nat → List (List Char) → List (List Char)
  | _, [] => []
  | n, s :: r =>
    if isVoid s then dropComponents n r
    else
      match n with
      | 0 => s :: r
      | n + 1 => dropComponents n r

/-- A path relative to a root, as an identity. A path that is not below the root stays as it is. -/
def relativeTo (root file : String) : String :=
  let rootParts := components root.toList
  let cs := file.toList
  if rootParts.isPrefixOf (components cs) then
    let (first, body) := start cs
    let rest := if rootParts.isEmpty then first ++ join (dropLastVoid body)
      else
        let n := rootParts.length - (if first = [] then 0 else 1)
        join (dropLastVoid (dropComponents n body))
    normalize (String.ofList rest)
  else normalize file

end TemplateMetrics.Path
