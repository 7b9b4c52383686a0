import Mathlib.Data.List.TakeWhile
import TemplateMetrics.Proofs.TokenStream

/-!
The parts of a source and where its tokens stand.

A scan leaves nothing of its source out. The source falls into segments, each of which gives one
token or none (`Segment`): runs of text, delimiters with their trim marks, white space and lexemes
within constructs, comments, and the three parts of a raw section (`Falls`). A token stands where
its segment starts, so its line counts the line feeds of all segments before it.
-/

namespace TemplateMetrics.Syntax

/-! ### Segments -/

/-- A stretch of a source and the token that it gives. -/
structure Segment where
  text : List Char
  token : Option Token

/-- The place behind `read`, where a source starts with `read`. -/
def Position.behind (read : List Char) : Position := ⟨1 + Text.newlines read, read.length⟩

namespace Segment

def texts (segments : List Segment) : List Char := segments.flatMap text

/-- The tokens of segments that stand behind `read`, each where its segment starts. -/
def locate : List Char → List Segment → List Located
  | _, [] => []
  | read, s :: r => (s.token.toList.map fun t => ⟨t, .behind read⟩) ++ locate (read ++ s.text) r

@[simp] lemma texts_nil : texts [] = [] := rfl

@[simp] lemma texts_cons (s : Segment) (r : List Segment) : texts (s :: r) = s.text ++ texts r :=
  List.flatMap_cons

@[simp] lemma texts_append (a b : List Segment) : texts (a ++ b) = texts a ++ texts b :=
  List.flatMap_append

lemma locate_append (read : List Char) (a b : List Segment) :
    locate read (a ++ b) = locate read a ++ locate (read ++ texts a) b := by
  induction a generalizing read with
  | nil => simp [locate]
  | cons s r ih => simp [locate, ih, List.append_assoc]

lemma map_token_locate (read : List Char) (segments : List Segment) :
    (locate read segments).map (·.token) = segments.filterMap (·.token) := by
  induction segments generalizing read with
  | nil => rfl
  | cons s r ih =>
    cases h : s.token <;> simp [locate, h, ih]

end Segment

lemma newlines_append (a b : List Char) :
    Text.newlines (a ++ b) = Text.newlines a + Text.newlines b := List.countP_append

lemma Position.behind_after (read cs : List Char) :
    (behind read).after cs = behind (read ++ cs) := by
  simp [behind, after, newlines_append, Nat.add_assoc]

/-! ### Lexemes -/

/-- What a string means and how it stands between its quotes: a backslash stands for the character
behind it. -/
inductive Quotes (quote : Char) : List Char → List Char → Prop
  | nil : Quotes quote [] []
  | plain {c : Char} {value body : List Char} (hquote : c ≠ quote) (hslash : c ≠ '\\')
      (h : Quotes quote value body) : Quotes quote (c :: value) (c :: body)
  | escaped {c : Char} {value body : List Char} (h : Quotes quote value body) :
      Quotes quote (c :: value) ('\\' :: c :: body)

/-- A token of an expression and the characters that spell it. -/
inductive Spells : Token → List Char → Prop
  | name {c : Char} {r : List Char} (hc : Text.isNameStart c = true)
      (hr : ∀ x ∈ r, Text.isNamePart x = true) : Spells (.name (String.ofList (c :: r))) (c :: r)
  | str {quote : Char} {value body : List Char} (hquote : quote = '"' ∨ quote = '\'')
      (h : Quotes quote value body) :
      Spells (.str (String.ofList value)) (quote :: (body ++ [quote]))
  | whole {c : Char} {r : List Char} (hc : c.isDigit = true) (hr : ∀ x ∈ r, isNumberPart x = true) :
      Spells (.number ⟨Decimal.digitsValue ((c :: r).filter (· ≠ '_')), 0⟩) (c :: r)
  | decimal {c : Char} {r fraction : List Char} (hc : c.isDigit = true)
      (hr : ∀ x ∈ r, isNumberPart x = true) (hne : fraction ≠ [])
      (hfraction : ∀ x ∈ fraction, x.isDigit = true) :
      Spells (.number ⟨Decimal.digitsValue ((c :: r).filter (· ≠ '_') ++ fraction),
        fraction.length⟩) (c :: r ++ '.' :: fraction)
  | punct (p : Punct) : Spells (.punct p) p.text.toList

lemma Spells.ne_nil {token : Token} {cs : List Char} (h : Spells token cs) : cs ≠ [] := by
  cases h with
  | punct p => cases p <;> decide
  | _ => simp

/-- A character that escapes neither nothing nor the character behind it is no backslash. -/
lemma ne_backslash {c : Char} {r : List Char} (hlast : c = '\\' → r = [] → False)
    (hescape : ∀ x r', c = '\\' → r = x :: r' → False) : c ≠ '\\' := by
  intro hc
  cases r with
  | nil => exact hlast hc rfl
  | cons x r => exact hescape x r hc rfl

lemma quotes_readString {quote : Char} {cs value read rest : List Char}
    (h : readString quote cs = some (value, read, rest)) :
    cs = read ++ rest ∧ ∃ body, read = body ++ [quote] ∧ Quotes quote value body := by
  fun_induction readString quote cs generalizing value read rest with
  | case1 => cases h
  | case2 => cases h
  | case3 c r ih =>
    -- an escaped character
    obtain ⟨⟨value, read, rest⟩, hr, hparts⟩ := Option.map_eq_some_iff.1 h
    obtain ⟨rfl, rfl, rfl⟩ : _ ∧ _ ∧ _ := by simpa using hparts
    obtain ⟨rfl, body, rfl, hbody⟩ := ih hr
    exact ⟨rfl, '\\' :: c :: body, rfl, .escaped hbody⟩
  | case4 c r =>
    -- the quote that ends the string
    obtain ⟨rfl, rfl, rfl⟩ : _ ∧ _ ∧ _ := by simpa using h
    exact ⟨rfl, [], rfl, .nil⟩
  | case5 c r hlast hescape hquote ih =>
    -- any other character
    obtain ⟨⟨value, read, rest⟩, hr, hparts⟩ := Option.map_eq_some_iff.1 h
    obtain ⟨rfl, rfl, rfl⟩ : _ ∧ _ ∧ _ := by simpa using hparts
    have hc := ne_backslash hlast hescape
    obtain ⟨rfl, body, rfl, hbody⟩ := ih hr
    exact ⟨rfl, c :: body, rfl, .plain hquote hc hbody⟩

lemma read?_eq_append {cs rest : List Char} {p : Punct} (h : Punct.read? cs = some (p, rest)) :
    cs = p.text.toList ++ rest := by
  unfold Punct.read? at h
  split at h <;> cases h <;> rfl

lemma spells_readNumber {c : Char} {r read rest : List Char} {n : Decimal.Numeral}
    (hc : c.isDigit = true) (h : readNumber (c :: r) = (n, read, rest)) :
    c :: r = read ++ rest ∧ Spells (.number n) read := by
  have hwhole : (c :: r).takeWhile isNumberPart = c :: r.takeWhile isNumberPart := by
    simp [isNumberPart, hc]
  have hparts : ∀ x ∈ r.takeWhile isNumberPart, isNumberPart x = true :=
    fun x hx => List.mem_takeWhile_imp hx
  have hsplit := List.takeWhile_append_dropWhile (p := isNumberPart) (l := c :: r)
  unfold readNumber at h
  rw [hwhole] at h hsplit
  dsimp only at h
  split at h
  · -- a point and a digit behind it make a decimal
    rename_i d r' hrest
    rw [hrest] at hsplit
    split at h
    · rename_i hd
      obtain ⟨rfl, rfl, rfl⟩ : _ ∧ _ ∧ _ := by simpa only [Prod.mk.injEq] using h
      refine ⟨?_, .decimal hc hparts (by simp [hd]) fun x hx => List.mem_takeWhile_imp hx⟩
      have hfraction := List.takeWhile_append_dropWhile (p := Char.isDigit) (l := d :: r')
      rw [List.append_assoc, ← hsplit]
      exact congrArg (fun l => c :: r.takeWhile isNumberPart ++ '.' :: l) hfraction.symm
    · -- a point without a digit is no part of the number
      obtain ⟨rfl, rfl, rfl⟩ : _ ∧ _ ∧ _ := by simpa only [Prod.mk.injEq] using h
      exact ⟨hsplit.symm, .whole hc hparts⟩
  · obtain ⟨rfl, rfl, rfl⟩ : _ ∧ _ ∧ _ := by simpa only [Prod.mk.injEq] using h
    exact ⟨hsplit.symm, .whole hc hparts⟩

/-- A lexeme is what stands first, and it spells its token. -/
lemma spells_readLexeme {cs read rest : List Char} {token : Token}
    (h : readLexeme cs = .ok (token, read, rest)) : cs = read ++ rest ∧ Spells token read := by
  unfold readLexeme at h
  split at h
  · cases h
  · rename_i c r
    split at h
    · -- a string
      rename_i hquote
      split at h
      · rename_i value body rest hstring
        obtain ⟨rfl, rfl, rfl⟩ : _ ∧ _ ∧ _ := by simpa using h
        obtain ⟨rfl, body, rfl, hbody⟩ := quotes_readString hstring
        exact ⟨rfl, .str hquote hbody⟩
      · cases h
    · split at h
      · -- a number
        rename_i hdigit
        rcases hnumber : readNumber (c :: r) with ⟨n, read', rest'⟩
        rw [hnumber] at h
        obtain ⟨rfl, rfl, rfl⟩ : _ ∧ _ ∧ _ := by simpa using h
        exact spells_readNumber hdigit hnumber
      · split at h
        · -- a word
          rename_i hstart
          obtain ⟨rfl, rfl, rfl⟩ : _ ∧ _ ∧ _ := by
            simpa only [Except.ok.injEq, Prod.mk.injEq] using h
          refine ⟨List.takeWhile_append_dropWhile.symm, ?_⟩
          rw [List.takeWhile_cons_of_pos (isNamePart_of_isNameStart hstart)]
          exact .name hstart fun x hx => List.mem_takeWhile_imp hx
        · split at h
          · -- a punctuation mark
            rename_i p rest hpunct
            obtain ⟨rfl, rfl, rfl⟩ : _ ∧ _ ∧ _ := by simpa using h
            exact ⟨read?_eq_append hpunct, .punct p⟩
          · cases h

/-! ### Constructs -/

/-- A trim mark or none, and what it asks for. -/
inductive Marks : List Char → Trim → Prop
  | none : Marks [] .keep
  | all : Marks ['-'] .all
  | line : Marks ['~'] .line

lemma marks_takeMark {cs mark rest : List Char} {trim : Trim}
    (h : takeMark cs = (mark, trim, rest)) : cs = mark ++ rest ∧ Marks mark trim := by
  unfold takeMark Trim.ofMark? at h
  split at h
  · obtain ⟨rfl, rfl, rfl⟩ : _ ∧ _ ∧ _ := by simpa using h
    exact ⟨rfl, .none⟩
  · split at h
    · rename_i t hmark
      obtain ⟨rfl, rfl, rfl⟩ : _ ∧ _ ∧ _ := by simpa using h
      refine ⟨rfl, ?_⟩
      split at hmark <;> cases hmark
      · exact .all
      · exact .line
    · obtain ⟨rfl, rfl, rfl⟩ : _ ∧ _ ∧ _ := by simpa using h
      exact ⟨rfl, .none⟩

lemma afterStart?_eq_some_iff {start cs rest : List Char} :
    Text.afterStart? start cs = some rest ↔ cs = start ++ rest := by
  fun_induction Text.afterStart? start cs with
  | case1 cs => simp
  | case2 => simp
  | case3 p ps cs ih => simp [ih]
  | case4 p ps c cs hne => simp [Ne.symm hne]

lemma takeMark_of_marks {mark rest : List Char} {trim : Trim} (h : Marks mark trim)
    (hrest : ∀ c ∈ rest.head?, Trim.ofMark? c = none) :
    takeMark (mark ++ rest) = (mark, trim, rest) := by
  cases h with
  | none =>
    cases rest with
    | nil => rfl
    | cons c r => simp [takeMark, hrest c rfl]
  | all => rfl
  | line => rfl

variable {d : Delimiter}

lemma ofMark?_of_isBlank {c : Char} (h : Text.isBlank c = true) : Trim.ofMark? c = none := by
  unfold Trim.ofMark?
  split
  · cases h
  · cases h
  · rfl

lemma head?_close (d : Delimiter) (rest : List Char) :
    ∀ c ∈ (d.close ++ rest).head?, Trim.ofMark? c = none := by
  cases d <;> rintro c ⟨⟩ <;> rfl

/-- A construct is closed by its delimiter, perhaps with a trim mark before it. -/
lemma closing?_eq_some_iff {cs read rest : List Char} {trim : Trim} :
    d.closing? cs = some (read, trim, rest) ↔
      ∃ mark, Marks mark trim ∧ read = mark ++ d.close ∧ cs = read ++ rest := by
  constructor
  · intro h
    -- a mark that no delimiter follows belongs to the text of the construct
    rcases hmark : takeMark cs with ⟨mark, trim', behind⟩
    obtain ⟨hcs, hmarks⟩ := marks_takeMark hmark
    simp only [Delimiter.closing?, hmark] at h
    split at h
    · rename_i r hr
      obtain ⟨rfl, rfl, rfl⟩ : _ ∧ _ ∧ _ := by simpa using h
      refine ⟨mark, hmarks, rfl, ?_⟩
      rw [hcs, afterStart?_eq_some_iff.1 hr, List.append_assoc]
    · obtain ⟨r, hr, hparts⟩ := Option.map_eq_some_iff.1 h
      obtain ⟨rfl, rfl, rfl⟩ : _ ∧ _ ∧ _ := by simpa using hparts
      exact ⟨[], .none, rfl, afterStart?_eq_some_iff.1 hr⟩
  · rintro ⟨mark, hmark, rfl, rfl⟩
    unfold Delimiter.closing?
    rw [List.append_assoc, takeMark_of_marks hmark (head?_close d rest)]
    simp [afterStart?_eq_some_iff.2 rfl]

/-- The end tag of a raw section. -/
inductive RawEnd : List Char → Prop
  | mk {mark mark' blanks blanks' word : List Char} {trim trim' : Trim} (hmark : Marks mark trim)
      (hblanks : ∀ c ∈ blanks, Text.isBlank c = true)
      (hword : word = "endverbatim".toList ∨ word = "endraw".toList)
      (hblanks' : ∀ c ∈ blanks', Text.isBlank c = true) (hmark' : Marks mark' trim') :
      RawEnd (['{', '%'] ++ mark ++ blanks ++ word ++ blanks' ++ mark' ++ ['%', '}'])

lemma rawEndWord?_eq_some {cs word rest : List Char} (h : rawEndWord? cs = some (word, rest)) :
    (word = "endverbatim".toList ∨ word = "endraw".toList) ∧ cs = word ++ rest := by
  unfold rawEndWord? at h
  dsimp only at h
  split at h
  · rename_i r hr
    obtain ⟨rfl, rfl⟩ : _ ∧ _ := by simpa only [Option.some.injEq, Prod.mk.injEq] using h
    exact ⟨.inl rfl, afterStart?_eq_some_iff.1 hr⟩
  · obtain ⟨r, hr, hparts⟩ := Option.map_eq_some_iff.1 h
    obtain ⟨rfl, rfl⟩ := Prod.mk.inj hparts
    exact ⟨.inr rfl, afterStart?_eq_some_iff.1 hr⟩

lemma rawEndWord?_append {word : List Char}
    (h : word = "endverbatim".toList ∨ word = "endraw".toList) (rest : List Char) :
    rawEndWord? (word ++ rest) = some (word, rest) := by
  rcases h with rfl | rfl <;> rfl

lemma rawEnd?_eq_some_iff {cs tag rest : List Char} :
    rawEnd? cs = some (tag, rest) ↔ RawEnd tag ∧ cs = tag ++ rest := by
  constructor
  · intro h
    unfold rawEnd? at h
    obtain ⟨r, hopen, h⟩ := Option.bind_eq_some_iff.1 h
    rcases hmark : takeMark r with ⟨mark, trim, r₁⟩
    rw [hmark] at h
    obtain ⟨⟨word, r₂⟩, hword, h⟩ := Option.bind_eq_some_iff.1 h
    dsimp only at h
    rcases hmark' : takeMark (r₂.dropWhile Text.isBlank) with ⟨mark', trim', r₃⟩
    rw [hmark'] at h
    obtain ⟨r₄, hclose, h⟩ := Option.bind_eq_some_iff.1 h
    obtain ⟨rfl, rfl⟩ := Prod.mk.inj (Option.some.inj h)
    obtain ⟨rfl, hmarks⟩ := marks_takeMark hmark
    obtain ⟨hr₂, hmarks'⟩ := marks_takeMark hmark'
    obtain ⟨hword, hr₁⟩ := rawEndWord?_eq_some hword
    refine ⟨.mk hmarks (fun c hc => List.mem_takeWhile_imp hc) hword
      (fun c hc => List.mem_takeWhile_imp hc) hmarks', ?_⟩
    -- blanks stand before the word and behind it
    have hr₁ : r₁ = r₁.takeWhile Text.isBlank ++ (word ++ r₂) := by
      rw [← hr₁, List.takeWhile_append_dropWhile]
    have hr₂ : r₂ = r₂.takeWhile Text.isBlank ++ (mark' ++ (['%', '}'] ++ r₄)) := by
      rw [← afterStart?_eq_some_iff.1 hclose, ← hr₂, List.takeWhile_append_dropWhile]
    rw [afterStart?_eq_some_iff.1 hopen]
    simp only [List.append_assoc]
    rw [← hr₂, ← hr₁]
  · rintro ⟨⟨hmark, hblanks, hword, hblanks', hmark'⟩, rfl⟩
    rename_i mark mark' blanks blanks' word trim trim'
    -- neither the word nor a blank is taken for a trim mark
    have hhead : ∀ z, ∀ c ∈ (word ++ z).head?, c = 'e' := by
      rcases hword with rfl | rfl <;> rintro z c ⟨⟩ <;> rfl
    have hhead' : ∀ c ∈ (mark' ++ (['%', '}'] ++ rest)).head?, Text.isBlank c = false := by
      cases hmark' <;> rintro c ⟨⟩ <;> decide
    have hopen : ∀ z, ∀ c ∈ (blanks ++ (word ++ z)).head?, Trim.ofMark? c = none := by
      intro z c hc
      cases blanks with
      | nil =>
        rw [hhead z c hc]
        rfl
      | cons b r =>
        obtain rfl : b = c := Option.some.inj hc
        exact ofMark?_of_isBlank (hblanks b List.mem_cons_self)
    have hblank : ∀ z, ∀ c ∈ (word ++ z).head?, Text.isBlank c = false := fun z c hc => by
      rw [hhead z c hc]
      decide
    have hclose : takeMark (mark' ++ (['%', '}'] ++ rest)) = (mark', trim', ['%', '}'] ++ rest) :=
      takeMark_of_marks hmark' (head?_close .tag rest)
    simp only [rawEnd?, List.append_assoc, afterStart?_eq_some_iff.2 rfl, Option.bind_eq_bind,
      Option.bind_some, takeMark_of_marks hmark (hopen _),
      takeWhile_append_of_head hblanks (hblank _), dropWhile_append_of_head hblanks (hblank _),
      rawEndWord?_append hword, takeWhile_append_of_head hblanks' hhead',
      dropWhile_append_of_head hblanks' hhead', hclose]
    rfl

/-! ### Up to the first -/

/-- Nothing of the kind `P` starts within `cs`, where `rest` stands behind it. -/
def Clear (P : List Char → Prop) (cs rest : List Char) : Prop :=
  ∀ before found behind, cs ++ rest = before ++ found ++ behind → P found →
    cs.length ≤ before.length

section Clear

variable {P : List Char → Prop} {c : Char} {cs rest : List Char}

lemma clear_nil : Clear P [] rest := fun _ _ _ _ _ => Nat.zero_le _

lemma Clear.cons (h : Clear P cs rest)
    (hhere : ∀ found behind, P found → c :: (cs ++ rest) ≠ found ++ behind) :
    Clear P (c :: cs) rest := by
  intro before found behind heq hfound
  cases before with
  | nil => exact absurd heq (hhere found behind hfound)
  | cons x before =>
    obtain ⟨rfl, htail⟩ := List.cons.inj heq
    exact Nat.succ_le_succ (h before found behind htail hfound)

end Clear

/-- The opening delimiters. -/
def IsOpener (cs : List Char) : Prop := ∃ opener : Opener, cs = opener.text

/-- What stands behind a run of text: nothing, or a delimiter and what follows it. -/
def afterRun : Option (Opener × List Char) → List Char
  | none => []
  | some (opener, rest) => opener.text ++ rest

lemma clear_splitOpener {cs run : List Char} {found : Option (Opener × List Char)}
    (h : splitOpener cs = (run, found)) :
    cs = run ++ afterRun found ∧ Clear IsOpener run (afterRun found) := by
  fun_induction splitOpener cs generalizing run with
  | case1 r | case2 r | case3 r =>
    obtain ⟨rfl, rfl⟩ := Prod.mk.inj h
    exact ⟨rfl, clear_nil⟩
  | case4 c r houtput htag hcomment run' found' hr ih =>
    obtain ⟨rfl, rfl⟩ := Prod.mk.inj h
    obtain ⟨rfl, hclear⟩ := ih hr
    refine ⟨rfl, hclear.cons ?_⟩
    -- an opener here would have been found
    rintro _ behind ⟨opener, rfl⟩ heq
    cases opener with
    | output =>
      obtain ⟨hc, hr⟩ := List.cons.inj heq
      exact houtput _ hc hr
    | tag =>
      obtain ⟨hc, hr⟩ := List.cons.inj heq
      exact htag _ hc hr
    | comment =>
      obtain ⟨hc, hr⟩ := List.cons.inj heq
      exact hcomment _ hc hr
  | case5 =>
    obtain ⟨rfl, rfl⟩ := Prod.mk.inj h
    exact ⟨rfl, clear_nil⟩

lemma clear_splitAtFirst? {mark cs body rest : List Char}
    (h : Text.splitAtFirst? mark cs = some (body, rest)) :
    cs = body ++ (mark ++ rest) ∧ Clear (· = mark) body (mark ++ rest) := by
  fun_induction Text.splitAtFirst? mark cs generalizing body with
  | case1 =>
    obtain ⟨r, hr, hparts⟩ := Option.map_eq_some_iff.1 h
    obtain ⟨rfl, rfl⟩ := Prod.mk.inj hparts
    exact ⟨(afterStart?_eq_some_iff.1 hr : _ = mark ++ _), clear_nil⟩
  | case2 c cs r hr =>
    obtain ⟨rfl, rfl⟩ := Prod.mk.inj (Option.some.inj h)
    exact ⟨(afterStart?_eq_some_iff.1 hr : _ = mark ++ _), clear_nil⟩
  | case3 c cs hnone ih =>
    obtain ⟨⟨body, after⟩, hr, hparts⟩ := Option.map_eq_some_iff.1 h
    obtain ⟨rfl, rfl⟩ := Prod.mk.inj hparts
    obtain ⟨rfl, hclear⟩ := ih hr
    refine ⟨rfl, hclear.cons ?_⟩
    -- the mark here would have been found
    rintro _ behind rfl heq
    rw [afterStart?_eq_some_iff.2 heq] at hnone
    cases hnone

lemma clear_splitRaw? {cs body endTag rest : List Char}
    (h : splitRaw? cs = some (body, endTag, rest)) :
    cs = body ++ (endTag ++ rest) ∧ RawEnd endTag ∧ Clear RawEnd body (endTag ++ rest) := by
  fun_induction splitRaw? cs generalizing body with
  | case1 => cases h
  | case2 c r endTag' rest' hend =>
    obtain ⟨rfl, rfl, rfl⟩ : _ ∧ _ ∧ _ := by simpa using h
    obtain ⟨htag, hcs⟩ := rawEnd?_eq_some_iff.1 hend
    exact ⟨hcs, htag, clear_nil⟩
  | case3 c r hnone ih =>
    obtain ⟨⟨body, endTag, rest⟩, hr, hparts⟩ := Option.map_eq_some_iff.1 h
    obtain ⟨rfl, rfl, rfl⟩ : _ ∧ _ ∧ _ := by simpa using hparts
    obtain ⟨rfl, htag, hclear⟩ := ih hr
    refine ⟨rfl, htag, hclear.cons ?_⟩
    -- an end tag here would have been found
    intro found behind hfound heq
    rw [rawEnd?_eq_some_iff.2 ⟨hfound, heq⟩] at hnone
    cases hnone

/-! ### The parts of a source -/

namespace Segment

/-- A run of text between two constructs, of which a token has what trimming leaves. -/
def ofRun (before after : Trim) (run : List Char) : Segment :=
  let kept := Text.dropRight after.removes (run.dropWhile before.removes)
  ⟨run, if kept.isEmpty then none else some (.text (String.ofList kept))⟩

lemma textToken_eq_locate (before after : Trim) (read run : List Char) :
    textToken before after (.behind read) run = locate read [ofRun before after run] := by
  unfold textToken ofRun
  dsimp only
  split <;> simp [locate, *]

end Segment

open Segment

def Delimiter.opener : Delimiter → Opener
  | .output => .output
  | .tag => .tag

/-- Segments of a construct from behind its opening delimiter on, where `rest` stands behind them.
The construct ends at the first closing delimiter at bracket depth 0. -/
inductive Inside (d : Delimiter) (rest : List Char) (trim : Trim) : Nat → List Segment → Prop
  | close {blanks mark : List Char} (hblanks : ∀ c ∈ blanks, Text.isBlank c = true)
      (hmark : Marks mark trim) :
      Inside d rest trim 0 [⟨blanks, none⟩, ⟨mark ++ d.close, some d.endToken⟩]
  | lexeme {depth : Nat} {blanks cs : List Char} {token : Token} {r : List Segment}
      (hblanks : ∀ c ∈ blanks, Text.isBlank c = true) (htoken : Spells token cs)
      (hopen : depth = 0 → ∀ mark trim behind, Marks mark trim →
        cs ++ texts r ++ rest ≠ mark ++ d.close ++ behind)
      (h : Inside d rest trim (token.depthAfter depth) r) :
      Inside d rest trim depth (⟨blanks, none⟩ :: ⟨cs, some token⟩ :: r)

/-- Whether a tag with these segments behind its opening delimiter opens a raw section. -/
def OpensRaw (inner : List Segment) : Prop :=
  ∃ word ∈ rawWords, inner.filterMap (·.token) = [.name word, .tagEnd]

/-- Segments of a comment, of an output or a tag, or of a raw section, where `rest` stands behind
them. The trims are those asked of the text before and of the text behind. -/
inductive Construct (rest : List Char) : Trim → Trim → List Segment → Prop
  | comment {before : Trim} {mark body : List Char} (hmark : Marks mark before)
      (hbody : Clear (· = ['#', '}']) body (['#', '}'] ++ rest)) :
      Construct rest before ((body.getLast?.bind Trim.ofMark?).getD .keep)
        [⟨Opener.comment.text ++ mark ++ body ++ ['#', '}'], none⟩]
  | delimited (d : Delimiter) {before after : Trim} {mark : List Char} {inner : List Segment}
      (hmark : Marks mark before) (hinner : Inside d rest after 0 inner)
      (hraw : d = .tag → ¬ OpensRaw inner) :
      Construct rest before after (⟨d.opener.text ++ mark, some d.startToken⟩ :: inner)
  | raw {before after : Trim} {mark body endTag : List Char} {inner : List Segment}
      (hmark : Marks mark before) (hinner : Inside .tag (body ++ (endTag ++ rest)) after 0 inner)
      (hraw : OpensRaw inner) (hbody : Clear RawEnd body (endTag ++ rest)) (hend : RawEnd endTag) :
      Construct rest before .keep
        [⟨Opener.tag.text ++ mark ++ texts inner, none⟩, ofRun after .keep body, ⟨endTag, none⟩]

/-- Segments of a source behind a construct that asks for a trim: runs of text up to the next
opening delimiter, constructs between them, and a run up to the end. -/
inductive Falls : Trim → List Segment → Prop
  | finish {trim : Trim} {run : List Char} (hrun : Clear IsOpener run []) :
      Falls trim [ofRun trim .keep run]
  | construct {trim before after : Trim} {run : List Char} {segments r : List Segment}
      (hrun : Clear IsOpener run (texts segments ++ texts r))
      (hsegments : Construct (texts r) before after segments) (h : Falls after r) :
      Falls trim (ofRun trim before run :: (segments ++ r))

lemma gives_inside (d : Delimiter) (steps depth : Nat) (read cs : List Char) :
    Gives (scanExpression d steps depth (.behind read) cs) fun s => ∃ inner,
      Inside d s.rest s.trim depth inner ∧ cs = texts inner ++ s.rest ∧
        s.tokens = locate read inner ∧ s.position = .behind (read ++ texts inner) := by
  induction steps generalizing depth read cs with
  | zero => exact gives_error _
  | succ steps ih =>
    have hblanks : ∀ c ∈ cs.takeWhile Text.isBlank, Text.isBlank c = true :=
      fun c hc => List.mem_takeWhile_imp hc
    have hcs := List.takeWhile_append_dropWhile (p := Text.isBlank) (l := cs)
    unfold scanExpression
    simp only [Position.behind_after]
    split
    · exact gives_error _
    · split
      · -- the delimiter that closes the construct, outside all brackets
        rename_i closing trim rest hclosing
        split at hclosing
        · rename_i hdepth
          subst hdepth
          obtain ⟨mark, hmark, rfl, hrest⟩ := closing?_eq_some_iff.1 hclosing
          refine gives_ok ⟨_, .close hblanks hmark, ?_, ?_, ?_⟩
          · refine hcs.symm.trans ?_
            rw [hrest]
            simp
          · simp [locate]
          · simp
        · cases hclosing
      · rename_i hnone
        split
        · exact gives_error _
        · -- a lexeme, which does not close the construct where it stands
          rename_i token lexeme rest hlexeme
          obtain ⟨hsplit, htoken⟩ := spells_readLexeme hlexeme
          refine gives_bind (ih _ _ _) ?_
          rintro s ⟨inner, hinner, hrest, htokens, hposition⟩
          have hall : cs.dropWhile Text.isBlank = lexeme ++ texts inner ++ s.rest := by
            rw [hsplit, hrest, List.append_assoc]
          refine gives_pure ⟨_, .lexeme hblanks htoken ?_ hinner, ?_, ?_, ?_⟩
          · intro hdepth mark trim behind hmark heq
            rw [if_pos hdepth, closing?_eq_some_iff.2 ⟨mark, hmark, rfl, hall.trans heq⟩] at hnone
            cases hnone
          · refine hcs.symm.trans ?_
            rw [hall]
            simp
          · simp [locate, htokens]
          · simp [hposition]

lemma gives_delimited (d : Delimiter) (mark read cs : List Char) :
    Gives (scanDelimited d (.behind read) (.behind (read ++ (d.opener.text ++ mark))) cs) fun s =>
      ∃ inner, Inside d s.rest s.trim 0 inner ∧ cs = texts inner ++ s.rest ∧
        s.tokens = locate read (⟨d.opener.text ++ mark, some d.startToken⟩ :: inner) ∧
          s.position = .behind (read ++ (d.opener.text ++ mark) ++ texts inner) := by
  refine gives_bind (gives_inside d _ 0 _ cs) ?_
  rintro s ⟨inner, hinner, hcs, htokens, hposition⟩
  exact gives_pure ⟨inner, hinner, hcs, by simp [locate, htokens], hposition⟩

lemma gives_construct (opener : Opener) {before : Trim} {mark : List Char}
    (hmark : Marks mark before) (read cs : List Char) :
    Gives (scanConstruct opener (.behind read) (.behind (read ++ (opener.text ++ mark))) cs)
      fun s => ∃ segments, Construct s.rest before s.trim segments ∧
        opener.text ++ mark ++ cs = texts segments ++ s.rest ∧
          s.tokens = locate read segments ∧ s.position = .behind (read ++ texts segments) := by
  cases opener with
  | output =>
    refine (gives_delimited .output mark read cs).mono ?_
    rintro s ⟨inner, hinner, rfl, htokens, hposition⟩
    refine ⟨_, .delimited .output hmark hinner (by simp), ?_, htokens, ?_⟩
    · simp [Delimiter.opener]
    · simp [hposition]
  | tag =>
    refine gives_bind (gives_delimited .tag mark read cs) ?_
    rintro s ⟨inner, hinner, rfl, htokens, hposition⟩
    have hopens : opensRaw s.tokens = true ↔ OpensRaw inner := by
      rw [opensRaw_iff, htokens, map_token_locate]
      simp [OpensRaw, Delimiter.startToken]
    split
    · -- the tag and its section are one construct
      rename_i hraw
      split
      · exact gives_error _
      · rename_i body endTag rest hbody
        obtain ⟨hrest, hend, hclear⟩ := clear_splitRaw? hbody
        rw [hrest] at hinner
        refine gives_ok ⟨_, .raw hmark hinner (hopens.1 hraw) hclear hend, ?_, ?_, ?_⟩
        · simp [hrest, ofRun]
        · rw [hposition, textToken_eq_locate]
          simp [locate, Delimiter.opener]
        · simp [hposition, Position.behind_after, ofRun, Delimiter.opener]
    · rename_i hraw
      refine gives_pure ⟨_, .delimited .tag hmark hinner fun _ => mt hopens.2 hraw, ?_, htokens, ?_⟩
      · simp [Delimiter.opener]
      · simp [hposition]
  | comment =>
    change Gives (scanComment _ _) _
    unfold scanComment
    split
    · exact gives_error _
    · rename_i body rest hbody
      obtain ⟨rfl, hclear⟩ := clear_splitAtFirst? hbody
      refine gives_ok ⟨_, .comment hmark hclear, ?_, rfl, ?_⟩
      · simp
      · simp [Position.behind_after]

lemma Construct.texts_ne_nil {rest : List Char} {before after : Trim} {segments : List Segment}
    (h : Construct rest before after segments) : texts segments ≠ [] := by
  cases h with
  | delimited d => cases d <;> simp [Delimiter.opener, Opener.text]
  | _ => simp [Opener.text]

lemma Falls.ne_nil {trim : Trim} {segments : List Segment} (h : Falls trim segments) :
    segments ≠ [] := by
  cases h <;> simp

/-- A source is read to its end. The end token stands where the last run of text starts. -/
lemma gives_falls (steps : Nat) (trim : Trim) (read cs : List Char) (hsteps : cs.length < steps) :
    Gives (scan steps trim (.behind read) cs) fun l => ∃ segments,
      Falls trim segments ∧ cs = texts segments ∧
        l = locate read segments ++ [⟨.eof, .behind (read ++ texts segments.dropLast)⟩] := by
  induction steps generalizing trim read cs with
  | zero => exact absurd hsteps (Nat.not_lt_zero _)
  | succ steps ih =>
    unfold scan
    split
    · rename_i run hsplit
      obtain ⟨rfl, hclear⟩ := clear_splitOpener hsplit
      refine gives_ok ⟨_, .finish hclear, by simp [ofRun, afterRun], ?_⟩
      rw [textToken_eq_locate]
      simp
    · rename_i run opener rest hsplit
      obtain ⟨rfl, hclear⟩ := clear_splitOpener hsplit
      rcases hmark : takeMark rest with ⟨mark, before, rest'⟩
      obtain ⟨rfl, hmarks⟩ := marks_takeMark hmark
      simp only [Position.behind_after]
      refine gives_bind (gives_construct opener hmarks (read ++ run) rest') ?_
      rintro s ⟨segments, hsegments, hrest, htokens, hposition⟩
      -- a construct has some text, so less is left than there are steps
      have hlength : s.rest.length < steps := by
        have hpos := List.length_pos_of_ne_nil hsegments.texts_ne_nil
        have hsame := congrArg List.length hrest
        simp only [afterRun, List.length_append] at hsteps hsame
        omega
      rw [hposition]
      refine gives_bind (ih _ _ s.rest hlength) ?_
      rintro l ⟨r, hr, hrest', rfl⟩
      rw [hrest'] at hrest hsegments
      -- the run is clear of openers before the constructs that follow
      have hclear' : Clear IsOpener run (texts segments ++ texts r) := by
        rw [← hrest, List.append_assoc]
        exact hclear
      have hlast : (ofRun trim before run :: (segments ++ r)).dropLast =
          ofRun trim before run :: (segments ++ r.dropLast) := by
        rw [← List.cons_append, List.dropLast_append_of_ne_nil hr.ne_nil, List.cons_append]
      refine gives_pure ⟨_, .construct hclear' hsegments hr, ?_, ?_⟩
      · simp only [afterRun, texts_cons, texts_append, ← hrest]
        simp [ofRun]
      · rw [hlast, textToken_eq_locate, htokens]
        simp [locate, locate_append, ofRun]

/-! ### Lines -/

end TemplateMetrics.Syntax
