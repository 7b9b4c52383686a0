import TemplateMetrics.Toml.Quoted
import TemplateMetrics.Toml.Table

/-!
TOML documents from their text.
-/

namespace TemplateMetrics.Toml

/-- The end of a comment's line; control characters may not stand in a comment. -/
def skipComment? : List Char → Option (List Char)
  | [] => some []
  | '\n' :: r => some ('\n' :: r)
  | '\r' :: '\n' :: r => some ('\r' :: '\n' :: r)
  | c :: r => if isPlain c then skipComment? r else none

def skipGaps? : Nat → List Char → Option (List Char)
  | 0, cs => some cs
  | steps + 1, cs =>
    match skipBlankLines cs with
    | '#' :: r => (skipComment? r).bind (skipGaps? steps)
    | r => some r

/-- Skip a gap inside an inline table, which only later editions spread over lines. -/
def skipInline? (edition : Edition) (cs : List Char) : Option (List Char) :=
  if edition = .v11 then skipGaps? (cs.length + 1) cs else some (skipBlanks cs)

mutual

/-- A value with brackets around its parts at most `room` deep. -/
def value? (edition : Edition) : Nat → Nat → List Char → Option (Json × List Char)
  | 0, _, _ => none
  | steps + 1, room, cs =>
    match cs, room with
    | '"' :: _, _ => (string? edition cs).map fun (s, r) => (.str s, r)
    | '\'' :: _, _ => (string? edition cs).map fun (s, r) => (.str s, r)
    | '[' :: _, 0 => none
    | '[' :: r, room + 1 => (items? edition steps room r).map fun (items, r) => (.arr items, r)
    | '\x7b' :: _, 0 => none
    | '\x7b' :: r, room + 1 => do
      match ← skipInline? edition r with
      | '\x7d' :: r => return (.obj [], r)
      | r => do
        let (entries, r) ← pairs? edition steps room [] r
        return (entries.toJson, r)
    | cs, _ =>
      let (word, r) := takeWord cs
      (word? edition word).map fun j => (j, r)

def items? (edition : Edition) : Nat → Nat → List Char → Option (List Json × List Char)
  | 0, _, _ => none
  | steps + 1, room, cs => do
    match ← skipGaps? (cs.length + 1) cs with
    | ']' :: r => return ([], r)
    | r => do
      let (j, r) ← value? edition steps room r
      match ← skipGaps? (r.length + 1) r with
      | ',' :: r => do
        let (items, r) ← items? edition steps room r
        return (j :: items, r)
      | ']' :: r => return ([j], r)
      | _ => none

def pairs? (edition : Edition) : Nat → Nat → Entries → List Char → Option (Entries × List Char)
  | 0, _, _, _ => none
  | steps + 1, room, es, cs => do
    let (keys, r) ← keyPath? edition cs
    let (path, key) ← splitLast keys
    match ← skipInline? edition r with
    | '=' :: r => do
      let (j, r) ← value? edition steps room (← skipInline? edition r)
      let es ← es.addValue path key j
      match ← skipInline? edition r with
      | ',' :: r => do
        match ← skipInline? edition r with
        | '\x7d' :: r => if edition = .v11 then return (es, r) else none
        | r => pairs? edition steps room es r
      | '\x7d' :: r => return (es, r)
      | _ => none
    | _ => none

end

/-- The rest of a line: blanks, a comment, and the line ending or the end of the text. -/
def endOfLine? (cs : List Char) : Option (List Char) := do
  let r ← match skipBlanks cs with
    | '#' :: r => skipComment? r
    | r => some r
  match r with
  | [] => return []
  | r => skipNewline? r

/-- One line of a document: a header, or a key with its value below the header `at'`. -/
def line? (edition : Edition) (at' : List String) (es : Entries) (cs : List Char) :
    Option (List String × Entries × List Char) :=
  match cs with
  | '[' :: '[' :: r => do
    let (keys, r) ← keyPath? edition r
    let (path, key) ← splitLast keys
    match r with
    | ']' :: ']' :: r => return (keys, ← es.openElement path key, ← endOfLine? r)
    | _ => none
  | '[' :: r => do
    let (keys, r) ← keyPath? edition r
    let (path, key) ← splitLast keys
    match r with
    | ']' :: r => return (keys, ← es.openTable path key, ← endOfLine? r)
    | _ => none
  | cs => do
    let (keys, r) ← keyPath? edition cs
    let (path, key) ← splitLast keys
    match r with
    | '=' :: r => do
      let (j, r) ← value? edition (r.length + 1) edition.depth (skipBlanks r)
      let es ← es.descend false (fun _ current => current.addValue path key j) at' false
      return (at', es, ← endOfLine? r)
    | _ => none

/-- All lines. Each takes a character, so `steps` beyond the length are never used. -/
def lines? (edition : Edition) : Nat → List String → Entries → List Char → Option Entries
  | 0, _, _, _ => none
  | steps + 1, at', es, cs => do
    match ← skipGaps? (cs.length + 1) cs with
    | [] => return es
    | r => do
      let (at', es, r) ← line? edition at' es r
      lines? edition steps at' es r

def parse? (edition : Edition) (s : String) : Option Json := do
  let cs := match s.toList with
    | '﻿' :: r => r
    | cs => cs
  let es ← lines? edition (cs.length + 1) [] [] cs
  return es.toJson

end TemplateMetrics.Toml
