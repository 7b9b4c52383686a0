import TemplateMetrics.Proofs.Rendering

/-!
Scanning what has been spelled.

`Scans` says which tokens a stretch of text gives and at which bracket depth the scan comes out of
it, whatever stands behind the stretch. Stretches that follow one another compose, so a layout is
scanned lexeme by lexeme; the one thing to see to at each seam is that a lexeme does not swallow the
character behind it.
-/

namespace TemplateMetrics.Syntax

/-! ### Characters -/

lemma ne_of_isNameStart {c : Char} (h : Text.isNameStart c = true) {x : Char}
    (hx : Text.isNameStart x = false) : c ≠ x := by
  rintro rfl
  rw [hx] at h
  cases h

/-- A character that starts a name has none of the code points that lie outside the letters. -/
lemma toNat_of_isNameStart {c : Char} (h : Text.isNameStart c = true) {l : List Nat}
    (hl : ∀ n ∈ l, n ≠ 95 ∧ Text.inRanges n Text.alphabeticRanges = false) : c.toNat ∉ l := by
  intro hc
  obtain ⟨hne, hrange⟩ := hl _ hc
  have hunder : c ≠ '_' := by
    rintro rfl
    exact hne rfl
  simp [Text.isNameStart, Text.isLetter, hunder, hrange] at h

lemma isBlank_of_isNameStart {c : Char} (h : Text.isNameStart c = true) :
    Text.isBlank c = false := by
  have hc := toNat_of_isNameStart (l := [9, 10, 11, 12, 13, 0x20, 0x85, 0xA0, 0x1680, 0x2000,
    0x2001, 0x2002, 0x2003, 0x2004, 0x2005, 0x2006, 0x2007, 0x2008, 0x2009, 0x200A, 0x2028, 0x2029,
    0x202F, 0x205F, 0x3000]) h (by decide +kernel)
  by_contra hcon
  exact hc (by simp [Text.isBlank] at hcon ⊢; omega)

lemma isDigit_of_isNameStart {c : Char} (h : Text.isNameStart c = true) : c.isDigit = false := by
  have hc := toNat_of_isNameStart (l := [48, 49, 50, 51, 52, 53, 54, 55, 56, 57]) h
    (by decide +kernel)
  by_contra hcon
  simp only [Char.isDigit, Bool.not_eq_false, Bool.and_eq_true, decide_eq_true_eq] at hcon
  have hlow : 48 ≤ c.toNat := hcon.1
  have hhigh : c.toNat ≤ 57 := hcon.2
  exact hc (by simp; omega)

lemma isNamePart_of_isNameStart {c : Char} (h : Text.isNameStart c = true) :
    Text.isNamePart c = true := by
  unfold Text.isNameStart at h
  simp [Text.isNamePart, h]

/-- A free name starts with a character that starts names and goes on as names do. -/
lemma isIdentifier_iff {s : String} : isIdentifier s = true ↔
    ∃ c r, s.toList = c :: r ∧ Text.isNameStart c = true ∧ ∀ x ∈ r, Text.isNamePart x = true := by
  unfold isIdentifier
  split
  · rename_i h
    simp [h]
  · rename_i c r h
    simp [h]

/-! ### Stretches of text -/

/-- From `cs` at one bracket depth the scan gives these tokens and comes to `rest` at the other. -/
def Scans (d : Delimiter) (depth : Nat) (cs : List Char) (toks : List Token) (depth' : Nat)
    (rest : List Char) : Prop :=
  ∀ steps p, cs.length < steps → ∃ steps' p' located,
    rest.length < steps' ∧ located.map Located.token = toks ∧
      ∀ s, scanExpression d steps' depth' p' rest = .ok s →
        scanExpression d steps depth p cs = .ok { s with tokens := located ++ s.tokens }

variable {d : Delimiter} {depth : Nat} {cs rest : List Char}

lemma scans_nil : Scans d depth cs [] depth cs :=
  fun steps p hsteps => ⟨steps, p, [], hsteps, rfl, fun _ hs => hs⟩

lemma Scans.trans {a b : List Token} {middle : List Char} {depth' depth'' : Nat}
    (h₁ : Scans d depth cs a depth' middle) (h₂ : Scans d depth' middle b depth'' rest) :
    Scans d depth cs (a ++ b) depth'' rest := by
  intro steps p hsteps
  obtain ⟨steps', p', located, hsteps', htoks, hscan⟩ := h₁ steps p hsteps
  obtain ⟨steps'', p'', located', hsteps'', htoks', hscan'⟩ := h₂ steps' p' hsteps'
  refine ⟨steps'', p'', located ++ located', hsteps'', by rw [List.map_append, htoks, htoks'], ?_⟩
  intro s hs
  rw [hscan _ (hscan' s hs), List.append_assoc]

lemma scans_blank {c : Char} (hc : Text.isBlank c = true) :
    Scans d depth (c :: cs) [] depth cs := by
  intro steps p hsteps
  refine ⟨steps, p.after [c], [], by simp at hsteps; omega, rfl, fun s hs => ?_⟩
  cases steps with
  | zero => simp at hsteps
  | succ steps =>
    have hafter : p.after (c :: cs.takeWhile Text.isBlank) =
        (p.after [c]).after (cs.takeWhile Text.isBlank) := by
      simp only [Position.after, Text.newlines, List.countP_cons, List.countP_nil, List.length_cons,
        List.length_nil, Position.mk.injEq]
      omega
    rw [scanExpression] at hs ⊢
    simp only [List.takeWhile_cons, List.dropWhile_cons, hc, if_true, hafter]
    exact hs

/-- A lexeme gives its token, unless it closes the construct. -/
lemma scans_lexeme {c : Char} {token : Token} {read : List Char} (hblank : Text.isBlank c = false)
    (hclose : depth = 0 → d.closing? (c :: cs) = none)
    (hread : readLexeme (c :: cs) = .ok (token, read, rest)) (hrest : rest.length ≤ cs.length) :
    Scans d depth (c :: cs) [token] (token.depthAfter depth) rest := by
  intro steps p hsteps
  cases steps with
  | zero => simp at hsteps
  | succ steps =>
    simp only [List.length_cons] at hsteps
    refine ⟨steps, (p.after []).after read, [⟨token, p.after []⟩], by omega, rfl, fun s hs => ?_⟩
    -- at the outer level the lexeme closes nothing, and inside brackets nothing is closed
    have hnone : (if depth = 0 then d.closing? (c :: cs) else none) = none := by
      split
      · rename_i h
        exact hclose h
      · rfl
    rw [scanExpression]
    simp only [List.takeWhile_cons, List.dropWhile_cons, hblank, Bool.false_eq_true, if_false,
      List.isEmpty_cons, hnone, hread, hs]
    rfl

/-! ### Reading a lexeme -/

lemma takeWhile_append_of_head {p : Char → Bool} {a rest : List Char} (ha : ∀ c ∈ a, p c = true)
    (hrest : ∀ c ∈ rest.head?, p c = false) : (a ++ rest).takeWhile p = a := by
  have hnone : rest.takeWhile p = [] := by
    cases rest with
    | nil => rfl
    | cons c r => simp [hrest c rfl]
  rw [List.takeWhile_append_of_pos ha, hnone, List.append_nil]

lemma dropWhile_append_of_head {p : Char → Bool} {a rest : List Char} (ha : ∀ c ∈ a, p c = true)
    (hrest : ∀ c ∈ rest.head?, p c = false) : (a ++ rest).dropWhile p = rest := by
  rw [List.dropWhile_append_of_pos ha]
  cases rest with
  | nil => rfl
  | cons c r => simp [hrest c rfl]

lemma readString_escape (quote : Quote) (s rest : List Char) :
    readString quote.mark (escape quote s ++ quote.mark :: rest) =
      some (s, escape quote s ++ [quote.mark], rest) := by
  have hmark : quote.mark ≠ '\\' := by cases quote <;> decide
  induction s with
  | nil => simp [escape, readString, hmark]
  | cons c r ih =>
    by_cases hc : c = quote.mark ∨ c = '\\'
    · -- a quote or a backslash is written behind a backslash
      have hescape : escape quote (c :: r) = '\\' :: c :: escape quote r := by simp [escape, hc]
      rw [hescape, List.cons_append, List.cons_append, readString, ih]
      rfl
    · have hescape : escape quote (c :: r) = c :: escape quote r := by simp [escape, hc]
      obtain ⟨hquote, hslash⟩ := not_or.1 hc
      rw [hescape, List.cons_append, readString, if_neg hquote, ih]
      · rfl
      · exact fun h => absurd h hslash
      · exact fun _ _ h => absurd h hslash

lemma readLexeme_quoted (quote : Quote) (s : String) (rest : List Char) :
    readLexeme (Lexeme.text quote (.quoted s) ++ rest) =
      .ok (.str s, Lexeme.text quote (.quoted s), rest) := by
  have hmark : quote.mark = '"' ∨ quote.mark = '\'' := by cases quote <;> simp [Quote.mark]
  have hread := readString_escape quote s.toList rest
  simp only [Lexeme.text, List.cons_append, List.append_assoc, List.nil_append, readLexeme,
    if_pos hmark, hread, String.ofList_toList]

lemma readLexeme_word {s : String} (hs : isIdentifier s = true)
    (hrest : ∀ c ∈ rest.head?, Text.isNamePart c = false) :
    readLexeme (s.toList ++ rest) = .ok (.name s, s.toList, rest) := by
  obtain ⟨c, r, hcr, hc, hr⟩ := isIdentifier_iff.1 hs
  have hparts : ∀ x ∈ s.toList, Text.isNamePart x = true := by
    rw [hcr]
    exact List.forall_mem_cons.2 ⟨isNamePart_of_isNameStart hc, hr⟩
  have htake := takeWhile_append_of_head hparts hrest
  have hdrop := dropWhile_append_of_head hparts hrest
  have hquote : ¬(c = '"' ∨ c = '\'') :=
    not_or.2 ⟨ne_of_isNameStart hc (by decide), ne_of_isNameStart hc (by decide)⟩
  rw [hcr, List.cons_append] at htake hdrop ⊢
  simp only [readLexeme, if_neg hquote, isDigit_of_isNameStart hc, Bool.false_eq_true, if_false, hc,
    if_true, htake, hdrop, ← hcr, String.ofList_toList]

/-- Whether a character may stand right behind a mark: it does not make a longer mark of it, nor, of
a mark that trims, the end of an output. -/
def Punct.admits : Punct → Char → Bool
  | .question, c => c ≠ '?' && c ≠ ':'
  | .assign, c | .less, c | .greater, c => c ≠ '='
  | .dot, c => c ≠ '.'
  | .divide, c => c ≠ '/'
  | .times, c => c ≠ '*'
  | .minus, c | .tilde, c => c ≠ '}'
  | _, _ => true

/-- The longest mark is the one that was written. -/
lemma Punct.read?_text {p : Punct} (hrest : ∀ c ∈ rest.head?, p.admits c = true) :
    Punct.read? (p.text.toList ++ rest) = some (p, rest) := by
  cases rest with
  | nil => cases p <;> rfl
  | cons c r =>
    have hc := hrest c rfl
    cases p <;> simp_all [Punct.admits, Punct.text, Punct.read?]

lemma readLexeme_mark {p : Punct} (hrest : ∀ c ∈ rest.head?, p.admits c = true) :
    readLexeme (p.text.toList ++ rest) = .ok (.punct p, p.text.toList, rest) := by
  have hread := Punct.read?_text hrest
  obtain ⟨c, r, hcr, hquote, hdigit, hname⟩ : ∃ c r, p.text.toList = c :: r ∧
      ¬(c = '"' ∨ c = '\'') ∧ c.isDigit = false ∧ Text.isNameStart c = false := by
    cases p <;> exact ⟨_, _, rfl, by decide, by decide, by decide⟩
  rw [hcr, List.cons_append] at hread ⊢
  simp only [readLexeme, if_neg hquote, hdigit, hname, Bool.false_eq_true, if_false, hread, hcr]

/-! ### Scanning a lexeme -/

/-- No construct ends at a character that does not start its closing delimiter, unless that
character trims and the delimiter starts behind it. -/
lemma closing?_eq_none {c : Char} (hc : d.close.head? ≠ some c)
    (hcs : Trim.ofMark? c ≠ none → d.close.head? ≠ cs.head?) : d.closing? (c :: cs) = none := by
  have hafter : ∀ {l : List Char}, d.close.head? ≠ l.head? → Text.afterStart? d.close l = none := by
    intro l hl
    cases l with
    | nil => cases d <;> rfl
    | cons x r =>
      cases d <;> simp only [Delimiter.close, List.head?_cons, ne_eq, Option.some.injEq] at hl <;>
        simp [Delimiter.close, Text.afterStart?, hl]
  have hself : Text.afterStart? d.close (c :: cs) = none := hafter hc
  unfold Delimiter.closing? takeMark
  cases hmark : Trim.ofMark? c with
  | none => simp [hmark, hself]
  | some trim =>
    -- the character trims, and behind it the delimiter does not start either
    have hbehind : Text.afterStart? d.close cs = none := hafter (hcs (by simp [hmark]))
    simp [hmark, hself, hbehind]

lemma scans_word {s : String} (hs : isIdentifier s = true)
    (hrest : ∀ c ∈ rest.head?, Text.isNamePart c = false) :
    Scans d depth (s.toList ++ rest) [.name s] depth rest := by
  have hread := readLexeme_word hs hrest
  obtain ⟨c, r, hcr, hc, -⟩ := isIdentifier_iff.1 hs
  have hplain : ∀ {x : Char}, Text.isNameStart x = false → c ≠ x := ne_of_isNameStart hc
  have hmark : Trim.ofMark? c = none := by
    simp [Trim.ofMark?, hplain (x := '-') (by decide), hplain (x := '~') (by decide)]
  rw [hcr, List.cons_append] at hread ⊢
  refine scans_lexeme (isBlank_of_isNameStart hc) (fun _ => ?_) hread (by simp)
  refine closing?_eq_none ?_ fun h => absurd hmark h
  cases d
  · simpa [Delimiter.close, eq_comm] using hplain (x := '}') (by decide)
  · simpa [Delimiter.close, eq_comm] using hplain (x := '%') (by decide)

lemma scans_quoted (quote : Quote) (s : String) :
    Scans d depth (Lexeme.text quote (.quoted s) ++ rest) [.str s] depth rest := by
  have hread := readLexeme_quoted quote s rest
  rw [Lexeme.text, List.cons_append] at hread ⊢
  have hrest : rest.length ≤ (escape quote s.toList ++ [quote.mark] ++ rest).length := by
    rw [List.length_append]
    omega
  refine scans_lexeme (by cases quote <;> rfl) (fun _ => closing?_eq_none ?_ ?_) hread hrest
  · cases d <;> cases quote <;> decide
  · cases quote <;> exact fun h => absurd rfl h

lemma scans_mark {p : Punct} {depth' : Nat} (hdepth : p.depthAfter depth = depth')
    (hrest : ∀ c ∈ rest.head?, p.admits c = true)
    (hclose : depth = 0 → d.closing? (p.text.toList ++ rest) = none) :
    Scans d depth (p.text.toList ++ rest) [.punct p] depth' rest := by
  subst hdepth
  have hread := readLexeme_mark hrest
  obtain ⟨c, r, hcr, hblank⟩ : ∃ c r, p.text.toList = c :: r ∧ Text.isBlank c = false := by
    cases p <;> exact ⟨_, _, rfl, rfl⟩
  rw [hcr, List.cons_append] at hread hclose ⊢
  exact scans_lexeme hblank hclose hread (by simp)

/-- The only mark that may end an output is a closing brace. -/
lemma closing?_mark {p : Punct} (hp : p ≠ .closeBrace)
    (hrest : ∀ c ∈ rest.head?, p.admits c = true) :
    Delimiter.output.closing? (p.text.toList ++ rest) = none := by
  have htrims : ∀ {c : Char}, c = '-' ∨ c = '~' → (∀ x ∈ rest.head?, x ≠ '}') →
      Delimiter.output.closing? (c :: rest) = none := by
    intro c hc hx
    refine closing?_eq_none (by rcases hc with rfl | rfl <;> decide) fun _ h => ?_
    exact hx '}' h.symm rfl
  cases p with
  | closeBrace => exact absurd rfl hp
  | minus => exact htrims (.inl rfl) fun x hx => of_decide_eq_true (hrest x hx)
  | tilde => exact htrims (.inr rfl) fun x hx => of_decide_eq_true (hrest x hx)
  | _ => rfl

/-! ### Scanning a layout -/

/-- Whatever stands around it, a layout gives its tokens and leaves the depth as it was, if the
character behind it may stand there. -/
def Lexed (free : Char → Bool) (ls : List Lexeme) : Prop :=
  ∀ quote depth rest, (∀ c ∈ rest.head?, free c = true) →
    Scans .output depth (spell quote ls ++ rest) (tokensOf ls) depth rest

/-- Any character may follow. -/
def anyChar (_ : Char) : Bool := true

/-- No character may follow that would go on with a name. -/
def endsWord (c : Char) : Bool := !Text.isNamePart c

variable {f g : Char → Bool} {a b ls : List Lexeme}

lemma Lexed.mono (h : Lexed f ls) (hfg : ∀ c, g c = true → f c = true) : Lexed g ls :=
  fun quote depth rest hrest => h quote depth rest fun c hc => hfg c (hrest c hc)

lemma Lexed.toEndsWord (h : Lexed anyChar ls) : Lexed endsWord ls := h.mono fun _ _ => rfl

lemma Lexed.append (ha : Lexed f a) (hb : Lexed g b)
    (hjoin : ∀ quote rest, (∀ c ∈ rest.head?, g c = true) →
      ∀ c ∈ (spell quote b ++ rest).head?, f c = true) : Lexed g (a ++ b) := by
  intro quote depth rest hrest
  rw [spell_append, tokensOf_append, List.append_assoc]
  exact (ha quote depth _ (hjoin quote rest hrest)).trans (hb quote depth rest hrest)

lemma Lexed.append_any (ha : Lexed anyChar a) (hb : Lexed g b) : Lexed g (a ++ b) :=
  ha.append hb fun _ _ _ _ _ => rfl

lemma lexed_nil : Lexed anyChar [] := fun _ _ _ _ => scans_nil

lemma lexed_space : Lexed anyChar [.space] := fun _ _ _ _ => scans_blank rfl

lemma lexed_quoted (s : String) : Lexed anyChar [.quoted s] := by
  intro quote depth rest _
  rw [spell_cons, spell_nil, List.append_nil]
  exact scans_quoted quote s

lemma lexed_word {s : String} (hs : isIdentifier s = true) : Lexed endsWord [.word s] := by
  intro quote depth rest hrest
  rw [spell_cons, spell_nil, List.append_nil]
  exact scans_word hs fun c hc => by simpa [endsWord] using hrest c hc

lemma lexed_mark {p : Punct} (hp : ∀ n, p.depthAfter n = n) : Lexed p.admits [.mark p] := by
  intro quote depth rest hrest
  have hbrace : p ≠ .closeBrace := by
    rintro rfl
    exact absurd (hp 1) (by decide)
  rw [spell_cons, spell_nil, List.append_nil]
  exact scans_mark (hp depth) hrest fun _ => closing?_mark hbrace hrest

/-- A mark that no character can lengthen. -/
lemma lexed_markAny {p : Punct} (hp : ∀ n, p.depthAfter n = n) (hadmits : ∀ c, p.admits c = true) :
    Lexed anyChar [.mark p] := (lexed_mark hp).mono fun c _ => hadmits c

lemma Lexed.space (ha : Lexed f a) (hspace : f ' ' = true) (hb : Lexed g b) :
    Lexed g (a ++ (.space :: b)) := by
  refine ha.append (lexed_space.append_any hb) fun quote rest _ c hc => ?_
  obtain rfl : ' ' = c := Option.some.inj hc
  exact hspace

inductive Brackets : Punct → Punct → Prop
  | parens : Brackets .openParen .closeParen
  | brackets : Brackets .openBracket .closeBracket
  | braces : Brackets .openBrace .closeBrace

/-- Brackets set what they hold apart from what stands behind them. -/
lemma lexed_enclosed {opening closing : Punct} (hb : Brackets opening closing)
    (h : Lexed endsWord ls) : Lexed anyChar (enclosed opening closing ls) := by
  intro quote depth rest _
  obtain ⟨hopen, hclose, hbrace, hadmits, hadmits', c, hc, hword⟩ :
      (∀ n, opening.depthAfter n = n + 1) ∧ (∀ n, closing.depthAfter (n + 1) = n) ∧
        opening ≠ .closeBrace ∧ (∀ c, opening.admits c = true) ∧ (∀ c, closing.admits c = true) ∧
          ∃ c, closing.text.toList = [c] ∧ endsWord c = true := by
    cases hb <;>
      exact ⟨fun _ => rfl, fun _ => rfl, by decide, fun _ => rfl, fun _ => rfl, _, rfl, by decide⟩
  have hfirst : ∀ r,
      Scans .output depth (opening.text.toList ++ r) [.punct opening] (depth + 1) r := fun r =>
    scans_mark (hopen depth) (fun x _ => hadmits x) fun _ =>
      closing?_mark hbrace fun x _ => hadmits x
  -- inside brackets, no mark closes the output
  have hlast :
      Scans .output (depth + 1) (closing.text.toList ++ rest) [.punct closing] depth rest :=
    scans_mark (hclose depth) (fun x _ => hadmits' x) fun h => absurd h (Nat.succ_ne_zero depth)
  have hmiddle := h quote (depth + 1) (closing.text.toList ++ rest) (by simpa [hc] using hword)
  have hall := (hfirst _).trans (hmiddle.trans hlast)
  simpa [enclosed, Lexeme.text, Lexeme.token?] using hall

lemma lexed_parens (h : Lexed endsWord ls) : Lexed anyChar (parens ls) := lexed_enclosed .parens h

lemma lexed_joined {left operator right : List Lexeme} (hleft : Lexed endsWord left)
    (hop : Lexed f operator) (hspace : f ' ' = true) (hright : Lexed endsWord right) :
    Lexed anyChar (joined left operator right) :=
  (lexed_parens hleft).append_any (lexed_space.append_any (hop.space hspace (lexed_parens hright)))

lemma lexed_commas {parts : List (List Lexeme)} (h : ∀ part ∈ parts, Lexed anyChar part) :
    Lexed anyChar (commas parts) := by
  induction parts with
  | nil => exact lexed_nil
  | cons part r ih =>
    have hpart := h part List.mem_cons_self
    have hr := ih fun x hx => h x (List.mem_cons_of_mem _ hx)
    cases r with
    | nil => exact hpart
    | cons next r =>
      have hcomma : Lexed anyChar [.mark .comma] := lexed_markAny (fun _ => rfl) fun _ => rfl
      exact hpart.append_any (hcomma.append_any (lexed_space.append_any hr))

lemma lexed_items {parts : List (List Lexeme)} (h : ∀ part ∈ parts, Lexed endsWord part) :
    Lexed endsWord (commas (parts.map parens)) := by
  refine (lexed_commas fun part hpart => ?_).toEndsWord
  obtain ⟨x, hx, rfl⟩ := List.mem_map.1 hpart
  exact lexed_parens (h x hx)

/-- Keys and values come in pairs, so that none is left over. -/
lemma lexed_entries {parts : List (List Lexeme)} (h : ∀ part ∈ parts, Lexed endsWord part) :
    Lexed endsWord (commas (entries parts)) := by
  refine (lexed_commas ?_).toEndsWord
  fun_induction entries parts with
  | case1 key value r ih =>
    have hcolon : Lexed anyChar [.mark .colon] := lexed_markAny (fun _ => rfl) fun _ => rfl
    refine List.forall_mem_cons.2 ⟨?_, ih fun x hx => h x (by simp [hx])⟩
    exact (lexed_parens (h key (by simp))).append_any
      (hcolon.append_any (lexed_space.append_any (lexed_parens (h value (by simp)))))
  | case2 => simp

lemma lexed_call {name : String} (hname : isIdentifier name = true) {parts : List (List Lexeme)}
    (h : ∀ part ∈ parts, Lexed endsWord part) : Lexed endsWord (.word name :: arguments parts) := by
  have hargs : Lexed endsWord (arguments parts) := (lexed_parens (lexed_items h)).toEndsWord
  refine (lexed_word hname).append hargs fun quote rest _ c hc => ?_
  -- the parenthesis ends the name
  obtain rfl : '(' = c := Option.some.inj hc
  decide

lemma lexed_callIfAny {name : String} (hname : isIdentifier name = true)
    {parts : List (List Lexeme)} (h : ∀ part ∈ parts, Lexed endsWord part) :
    Lexed endsWord (.word name :: argumentsIfAny parts) := by
  cases parts with
  | nil => exact lexed_word hname
  | cons part r => exact lexed_call hname h

lemma Lexed.dot {name : String} (hname : isIdentifier name = true)
    (h : Lexed g (.word name :: ls)) : Lexed g (.mark .dot :: .word name :: ls) := by
  have hdot : Lexed (Punct.admits .dot) [.mark .dot] := lexed_mark fun _ => rfl
  refine hdot.append h fun quote rest _ c hc => ?_
  obtain ⟨x, r, hxr, hx, -⟩ := isIdentifier_iff.1 hname
  rw [spell_cons, Lexeme.text, hxr] at hc
  obtain rfl : x = c := Option.some.inj hc
  exact decide_eq_true (ne_of_isNameStart hx (by decide))

lemma lexed_operator (op : BinaryOp) : ∃ f, Lexed f op.lexemes ∧ f ' ' = true := by
  have hmark : ∀ {p : Punct}, (∀ n, p.depthAfter n = n) → p.admits ' ' = true →
      ∃ f, Lexed f [.mark p] ∧ f ' ' = true := fun hp hspace => ⟨_, lexed_mark hp, hspace⟩
  have hword : ∀ {s : String}, isIdentifier s = true → ∃ f, Lexed f [.word s] ∧ f ' ' = true :=
    fun hs => ⟨_, lexed_word hs, by decide⟩
  have hwords : ∀ {s t : String}, isIdentifier s = true → isIdentifier t = true →
      ∃ f, Lexed f [.word s, .space, .word t] ∧ f ' ' = true :=
    fun hs ht => ⟨_, (lexed_word hs).space (by decide) (lexed_word ht), by decide⟩
  cases op with
  | notIn | startsWith | endsWith => exact hwords (by decide) (by decide)
  | isIn | matching => exact hword (by decide)
  | _ => exact hmark (fun _ => rfl) (by decide)

lemma isIdentifier_of_isFreeName {s : String} (h : isFreeName s = true) :
    isIdentifier s = true := by
  simp only [isFreeName, Bool.and_eq_true] at h
  exact h.1

lemma lexed_layout {e : Node} (h : e.Writable) : Lexed endsWord (layout e) := by
  induction e using Node.induct with
  | step e ih =>
    have hself := h.self
    have hchild : ∀ c ∈ e.children, Lexed endsWord (layout c) := fun c hc => ih c hc (h.child hc)
    have hlist : ∀ {l : List Node}, (∀ c ∈ l, c ∈ e.children) →
        ∀ part ∈ l.map layout, Lexed endsWord part := by
      intro l hl part hpart
      obtain ⟨c, hc, rfl⟩ := List.mem_map.1 hpart
      exact hchild c (hl c hc)
    rw [layout_eq]
    cases e with
    | nameRef s => exact lexed_word (isIdentifier_of_isFreeName hself)
    | literal value =>
      cases value with
      | str s => exact (lexed_quoted s).toEndsWord
      | _ => cases hself
    | logical op left right =>
      have hop : Lexed endsWord [.word op.text] := lexed_word (by cases op <;> decide)
      exact (lexed_joined (hchild left (by simp [Node.children])) hop (by decide)
        (hchild right (by simp [Node.children]))).toEndsWord
    | unary op operand =>
      have hoperand := lexed_parens (hchild operand (by simp [Node.children]))
      cases op with
      | not => exact ((lexed_word (by decide)).space (by decide) hoperand).toEndsWord
      | minus | plus =>
        refine ((lexed_mark fun _ => rfl).append hoperand fun quote rest _ c hc => ?_).toEndsWord
        -- behind a sign stands the parenthesis of its operand
        obtain rfl : '(' = c := Option.some.inj hc
        decide
    | binary op left right =>
      obtain ⟨f, hop, hspace⟩ := lexed_operator op
      exact (lexed_joined (hchild left (by simp [Node.children])) hop hspace
        (hchild right (by simp [Node.children]))).toEndsWord
    | subscript object index =>
      exact ((lexed_parens (hchild object (by simp [Node.children]))).append_any
        (lexed_enclosed .brackets (lexed_parens (hchild index
          (by simp [Node.children]))).toEndsWord)).toEndsWord
    | functionCall name args =>
      exact lexed_call (isIdentifier_of_isFreeName hself) (hlist fun c hc => hc)
    | list items => exact (lexed_enclosed .brackets (lexed_items (hlist fun c hc => hc))).toEndsWord
    | hash pairs => exact (lexed_enclosed .braces (lexed_entries (hlist fun c hc => hc))).toEndsWord
    | conditional test thenNode orElse =>
      have htest := hchild test (by simp [Node.children])
      have hquestion : Lexed (Punct.admits .question) [.mark .question] := lexed_mark fun _ => rfl
      have helvis : Lexed (Punct.admits .elvis) [.mark .elvis] := lexed_mark fun _ => rfl
      have hcolon : Lexed (Punct.admits .colon) [.mark .colon] := lexed_mark fun _ => rfl
      cases thenNode with
      | some thenNode =>
        have hthen := lexed_joined htest hquestion (by decide)
          (hchild thenNode (by simp [Node.children]))
        cases orElse with
        | some orElse =>
          have helse := lexed_parens (hchild orElse (by simp [Node.children]))
          exact (hthen.append_any (lexed_space.append_any
            (hcolon.space (by decide) helse))).toEndsWord
        | none => exact hthen.toEndsWord
      | none =>
        cases orElse with
        | some orElse =>
          exact (lexed_joined htest helvis (by decide)
            (hchild orElse (by simp [Node.children]))).toEndsWord
        | none => cases hself
    | filterCall name target args =>
      cases target with
      | none => simp [Node.isWritable] at hself
      | some target =>
        simp only [Node.isWritable, Option.isSome_some, Bool.and_true] at hself
        have hpipe : Lexed anyChar [.mark .pipe] := lexed_markAny (fun _ => rfl) fun _ => rfl
        exact (lexed_parens (hchild target (by simp [Node.children]))).append_any
          (hpipe.append_any (lexed_callIfAny (isIdentifier_of_isFreeName hself)
            (hlist (l := args) fun c hc => by simp [Node.children, hc])))
    | testExpr name target args negated =>
      have hcall := lexed_callIfAny (isIdentifier_of_isFreeName hself)
        (hlist (l := args) fun c hc => by simp [Node.children, hc])
      have his : Lexed endsWord [.word "is"] := lexed_word (by decide)
      have hnot : Lexed endsWord [.word "not"] := lexed_word (by decide)
      refine (lexed_parens (hchild target (by simp [Node.children]))).append_any
        (lexed_space.append_any (his.space (by decide) ?_))
      cases negated with
      | false => exact hcall
      | true => exact hnot.space (by decide) hcall
    | member object name args =>
      have hname : isIdentifier name = true := by
        refine isIdentifier_of_isFreeName ?_
        unfold Node.isWritable at hself
        split at hself <;> simp_all
      have hobject := lexed_parens (hchild object (by simp [Node.children]))
      cases args with
      | none => exact hobject.append_any ((lexed_word hname).dot hname)
      | some args =>
        exact hobject.append_any ((lexed_call hname
          (hlist (l := args) fun c hc => by simp [Node.children, hc])).dot hname)
    | _ => cases hself

/-! ### A whole construct -/

/-- The closing delimiter ends the scan at depth 0. -/
lemma scanExpression_close (d : Delimiter) (steps : Nat) (p : Position) (rest : List Char) :
    scanExpression d (steps + 1) 0 p (d.close ++ rest) =
      .ok ⟨[⟨d.endToken, p.after []⟩], .keep, (p.after []).after d.close, rest⟩ := by
  cases d <;> rfl

lemma Scans.delimited {toks : List Token} (h : Scans d 0 cs toks 0 (d.close ++ rest))
    (start p : Position) :
    ∃ located last p', located.map Located.token = toks ∧
      scanDelimited d start p cs =
        .ok ⟨⟨d.startToken, start⟩ :: (located ++ [⟨d.endToken, last⟩]), .keep, p', rest⟩ := by
  obtain ⟨steps, p', located, hsteps, htoks, hscan⟩ := h (cs.length + 1) p (Nat.lt_succ_self _)
  obtain ⟨steps, rfl⟩ : ∃ k, steps = k + 1 := ⟨steps - 1, by omega⟩
  refine ⟨located, p'.after [], (p'.after []).after d.close, htoks, ?_⟩
  rw [scanDelimited, hscan _ (scanExpression_close d steps p' rest)]
  rfl

lemma scan_nil (steps : Nat) (p : Position) : scan steps .keep p [] = .ok [⟨.eof, p⟩] := by
  cases steps <;> rfl

lemma scan_construct (opener : Opener) (steps : Nat) (p : Position) (cs : List Char) :
    scan (steps + 1) .keep p (opener.text ++ ' ' :: cs) = (do
      let s ← scanConstruct opener (p.after []) ((p.after []).after opener.text) (' ' :: cs)
      let more ← scan steps s.trim s.position s.rest
      return s.tokens ++ more) := by
  cases opener <;> rfl

lemma scans_tagWord {s : String} (hs : isIdentifier s = true) (cs : List Char) :
    Scans .tag 0 (s.toList ++ ' ' :: cs) [.name s] 0 (' ' :: cs) := by
  refine scans_word hs fun c hc => ?_
  obtain rfl : ' ' = c := Option.some.inj hc
  decide

lemma opensRaw_eq_false {l : List Located}
    (h : ∀ s, s = "verbatim" ∨ s = "raw" → l.map Located.token ≠ [.tagStart, .name s, .tagEnd]) :
    opensRaw l = false := by
  unfold opensRaw
  split
  · rename_i s _ _
    by_contra hcon
    refine h s ?_ rfl
    simpa only [Bool.not_eq_false, Bool.or_eq_true, decide_eq_true_eq] using hcon
  · rfl

/-- A tag that opens no raw section, and the rest of the template. -/
lemma Scans.tag {cs rest : List Char} {toks : List Token}
    (h : Scans .tag 0 (' ' :: cs) toks 0 (Delimiter.tag.close ++ rest))
    (hraw : ∀ s, s = "verbatim" ∨ s = "raw" → toks ≠ [.name s]) (steps : Nat) (p : Position) :
    ∃ located p', located.map Located.token = .tagStart :: (toks ++ [.tagEnd]) ∧
      ∀ more, scan steps .keep p' rest = .ok more →
        scan (steps + 1) .keep p (Opener.tag.text ++ ' ' :: cs) = .ok (located ++ more) := by
  obtain ⟨located, last, p', htoks, hscan⟩ :=
    h.delimited (p.after []) ((p.after []).after Opener.tag.text)
  refine ⟨⟨.tagStart, p.after []⟩ :: (located ++ [⟨.tagEnd, last⟩]), p', by simp [htoks], ?_⟩
  -- the words that open a raw section stand alone in their tag
  have hopens : opensRaw (⟨.tagStart, p.after []⟩ :: (located ++ [⟨.tagEnd, last⟩])) = false := by
    refine opensRaw_eq_false fun s hs he => hraw s hs ?_
    simp only [List.map_cons, List.map_append, List.map_nil, htoks] at he
    exact List.append_cancel_right (List.cons.inj he).2
  have htag : scanTag (p.after []) ((p.after []).after Opener.tag.text) (' ' :: cs) =
      .ok ⟨⟨.tagStart, p.after []⟩ :: (located ++ [⟨.tagEnd, last⟩]), .keep, p', rest⟩ := by
    rw [scanTag, hscan]
    change (if opensRaw (⟨.tagStart, p.after []⟩ :: (located ++ [⟨.tagEnd, last⟩])) = true then _
      else _) = _
    rw [hopens]
    rfl
  intro more hmore
  rw [scan_construct, scanConstruct, htag]
  simp only [bind, Except.bind, hmore]
  rfl

/-- An output around a layout gives the tokens of the layout between its own two. -/
lemma tokenize_output (h : Lexed f ls) (hspace : f ' ' = true) (quote : Quote) :
    ∃ start located last stop, located.map Located.token = tokensOf ls ∧
      tokenize ("\x7b\x7b " ++ String.ofList (spell quote ls) ++ " \x7d\x7d") =
        .ok (⟨.outputStart, start⟩ :: (located ++ [⟨.outputEnd, last⟩, ⟨.eof, stop⟩])) := by
  have hlayout := h quote 0 [' ', '}', '}'] (by simpa using hspace)
  have hscan : Scans .output 0 (' ' :: (spell quote ls ++ [' ', '}', '}'])) (tokensOf ls) 0
      (Delimiter.output.close ++ []) := by
    have hall := (scans_blank (c := ' ') rfl).trans (hlayout.trans (scans_blank rfl))
    simpa [Delimiter.close] using hall
  obtain ⟨located, last, p', htoks, hdelimited⟩ :=
    hscan.delimited (Position.first.after []) ((Position.first.after []).after ['{', '{'])
  refine ⟨Position.first.after [], located, last, p', htoks, ?_⟩
  have hsource : ("\x7b\x7b " ++ String.ofList (spell quote ls) ++ " \x7d\x7d").toList =
      '{' :: '{' :: ' ' :: (spell quote ls ++ [' ', '}', '}']) := by
    simp [String.toList_append]
  have hfirst : '{' :: '{' :: ' ' :: (spell quote ls ++ [' ', '}', '}']) =
      Opener.output.text ++ ' ' :: (spell quote ls ++ [' ', '}', '}']) := rfl
  rw [tokenize, hsource, hfirst, scan_construct, scanConstruct, Opener.text, hdelimited]
  simp only [bind, Except.bind, scan_nil, pure, Except.pure, Delimiter.startToken,
    Delimiter.endToken, List.cons_append, List.append_assoc, List.nil_append]

end TemplateMetrics.Syntax
