import TemplateMetrics.Json.Basic

/-!
Tables of a TOML document while it is read.

A table is implicit as long as it was only mentioned on the way to another one, and dotted when a
dotted key made it. These marks decide which tables may still be extended.
-/

namespace TemplateMetrics.Toml

inductive Item where
  | value (j : Json)
  | table (implicit dotted : Bool) (entries : List (String × Item))
  /-- A list of tables, the last one first. -/
  | tables (elements : List (List (String × Item)))

abbrev Entries := List (String × Item)

mutual

def Item.toJson : Item → Json
  | .value j => j
  | .table _ _ entries => .ofFields (entriesToFields entries)
  | .tables elements => .arr (elementsToJson elements).reverse

def entriesToFields : List (String × Item) → List (String × Json)
  | [] => []
  | (k, item) :: r => (k, item.toJson) :: entriesToFields r

def elementsToJson : List (List (String × Item)) → List Json
  | [] => []
  | e :: r => .ofFields (entriesToFields e) :: elementsToJson r

end

def Entries.toJson (es : Entries) : Json := .ofFields (entriesToFields es)

def Entries.put (k : String) (item : Item) : Entries → Entries
  | [] => [(k, item)]
  | (k', old) :: r => if k = k' then (k, item) :: r else (k', old) :: Entries.put k item r

/-- Change the table at the end of a path. Missing tables are made on the way. A dotted key goes
only through tables that are still implicit. `f` gets to know whether the table is dotted. -/
def Entries.descend (dotted : Bool) (f : Bool → Entries → Option Entries) :
    List String → Bool → Entries → Option Entries
  | [], isDotted, es => f isDotted es
  | k :: ks, _, es =>
    match es.lookup k with
    | none => do
      let sub ← Entries.descend dotted f ks dotted []
      return Entries.put k (.table true dotted sub) es
    | some (.value _) => none
    | some (.tables []) => none
    | some (.tables (last :: earlier)) => do
      let sub ← Entries.descend dotted f ks false last
      return Entries.put k (.tables (sub :: earlier)) es
    | some (.table implicit isDotted sub) =>
      if dotted ∧ !implicit then none
      else do
        let sub ← Entries.descend dotted f ks isDotted sub
        return Entries.put k (.table implicit isDotted sub) es

/-- Add a value under a dotted key. The key must be new, and a table that a header made is not
extended by a dotted key. -/
def Entries.addValue (path : List String) (key : String) (j : Json) (es : Entries) :
    Option Entries :=
  Entries.descend true (fun isDotted es =>
    if !path.isEmpty && !isDotted then none
    else if (es.lookup key).isSome then none
    else some (Entries.put key (.value j) es)) path false es

/-- Open the table of a header. It may only have been mentioned before. -/
def Entries.openTable (path : List String) (key : String) (es : Entries) : Option Entries :=
  Entries.descend false (fun _ es =>
    match es.lookup key with
    | none => some (Entries.put key (.table false false []) es)
    | some (.table true false sub) => some (Entries.put key (.table false false sub) es)
    | some _ => none) path false es

def Entries.openElement (path : List String) (key : String) (es : Entries) : Option Entries :=
  Entries.descend false (fun _ es =>
    match es.lookup key with
    | none => some (Entries.put key (.tables [[]]) es)
    | some (.tables elements) => some (Entries.put key (.tables ([] :: elements)) es)
    | some _ => none) path false es

def splitLast : List String → Option (List String × String)
  | [] => none
  | [k] => some ([], k)
  | k :: r => (splitLast r).map fun (path, key) => (k :: path, key)

end TemplateMetrics.Toml
