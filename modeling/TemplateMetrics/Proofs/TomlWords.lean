import Mathlib.Tactic.Common
import TemplateMetrics.Toml.Document

/-!
Words in the two editions of TOML.

The editions take different words for numbers and moments: the first one knows no integers beyond
64 bits and no times without seconds, the later one no infinite floats that are spelled with digits.
A word that both take is still the same value in both (`word?_agree`), as the character that ends
its digits tells integers, floats and moments apart.
-/

namespace TemplateMetrics.Toml

/-! ### Words -/

lemma fit?_later {n : Int} {j : Json} (h : fit? .v10 n = some j) : fit? .v11 n = some j := by
  unfold fit? at h ⊢
  dsimp only at h ⊢
  split at h
  · rename_i hn
    rw [if_pos, h]
    refine ⟨Int.le_trans ?_ hn.1, Int.lt_of_lt_of_le hn.2 ?_⟩ <;> decide
  · cases h

/-- An integer stays what it is in the later edition, which knows larger ones. -/
lemma integer?_later {cs : List Char} {j : Json} (h : integer? .v10 cs = some j) :
    integer? .v11 cs = some j := by
  unfold integer? at h ⊢
  split at h
  all_goals
    obtain ⟨ds, hds, hfit⟩ := Option.bind_eq_some_iff.1 h
    exact Option.bind_eq_some_iff.2 ⟨ds, hds, fit?_later hfit⟩

/-- The characters of decimal digits in groups. -/
def isGrouped (c : Char) : Bool := c.isDigit || c = '_'

/-- The character that ends the digits at the start of a text. -/
def stop? (cs : List Char) : Option Char := cs.find? fun c => !isGrouped c

lemma stop?_append {ds : List Char} (h : ∀ d ∈ ds, isGrouped d = true) {c : Char}
    (hc : isGrouped c = false) (r : List Char) : stop? (ds ++ c :: r) = some c := by
  have hnone : ds.find? (fun c => !isGrouped c) = none := by simpa using h
  rw [stop?, List.find?_append, hnone, Option.none_or, List.find?_cons_of_pos]
  simpa using hc

lemma isGrouped_of_digitGroups? {cs ds : List Char} (h : digitGroups? Char.isDigit cs = some ds) :
    ∀ c ∈ cs, isGrouped c = true := by
  have hgo : ∀ cs ds, digitGroups?.go Char.isDigit cs = some ds → ∀ c ∈ cs, isGrouped c = true := by
    intro cs
    fun_induction digitGroups?.go Char.isDigit cs with
    | case1 => simp
    | case2 c r hc ih =>
      -- an underscore between digits
      intro ds hds
      obtain ⟨es, hes, -⟩ := Option.map_eq_some_iff.1 hds
      exact List.forall_mem_cons.2
        ⟨rfl, List.forall_mem_cons.2 ⟨by simp [isGrouped, hc], ih es hes⟩⟩
    | case3 => simp
    | case4 c r _ hc ih =>
      -- a digit
      intro ds hds
      obtain ⟨es, hes, -⟩ := Option.map_eq_some_iff.1 hds
      exact List.forall_mem_cons.2 ⟨by simp [isGrouped, hc], ih es hes⟩
    | case5 => simp
  unfold digitGroups? at h
  split at h
  · cases h
  · cases h
  · exact hgo _ _ h

lemma isGrouped_of_wholeDigits? {cs ds : List Char} (h : wholeDigits? cs = some ds) :
    ∀ c ∈ cs, isGrouped c = true := by
  obtain ⟨groups, hgroups, -⟩ := Option.bind_eq_some_iff.1 h
  exact isGrouped_of_digitGroups? hgroups

/-- What a text has behind its longest start of a kind is not of that kind. -/
lemma eq_append_of_dropWhile {p : Char → Bool} {cs r : List Char} {c : Char}
    (h : cs.dropWhile p = c :: r) : cs = cs.takeWhile p ++ c :: r ∧ p c = false := by
  have hhead := List.head?_dropWhile_not p cs
  rw [h] at hhead
  refine ⟨?_, by simpa using hhead⟩
  rw [← h, List.takeWhile_append_dropWhile]

/-- The digits of an integer end nowhere, or at the letter of its base. -/
lemma stop?_of_integer? {edition : Edition} {cs : List Char} {j : Json}
    (h : integer? edition cs = some j) :
    ∀ c ∈ stop? (Decimal.takeSign cs).2, c ∈ ['x', 'o', 'b'] := by
  unfold integer? at h
  split at h
  · -- a letter behind the zero says the base
    intro c hc
    obtain rfl := Option.some.inj hc
    simp
  · intro c hc
    obtain rfl := Option.some.inj hc
    simp
  · intro c hc
    obtain rfl := Option.some.inj hc
    simp
  · -- a decimal number has digits only
    obtain ⟨ds, hds, -⟩ := Option.bind_eq_some_iff.1 h
    have hnone : stop? (Decimal.takeSign cs).2 = none := by
      rw [stop?, List.find?_eq_none]
      intro c hc
      simpa using isGrouped_of_wholeDigits? hds c hc
    simp [hnone]

/-- The digits of a float end at its point or at its exponent. -/
lemma stop?_of_magnitude? {cs : List Char} {x : Float} (h : magnitude? cs = some x) :
    ∃ c ∈ ['.', 'e', 'E'], stop? cs = some c := by
  unfold magnitude? at h
  dsimp only at h
  set notE : Char → Bool := fun c => !(decide (c = 'e') || decide (c = 'E')) with hE
  have hwhole : ∀ d ∈ (cs.takeWhile notE).takeWhile (· ≠ '.'), isGrouped d = true := by
    cases hwhole : wholeDigits? ((cs.takeWhile notE).takeWhile (· ≠ '.')) with
    | none =>
      rw [hwhole] at h
      split at h <;> simp at h
    | some ds => exact isGrouped_of_wholeDigits? hwhole
  cases hpoint : (cs.takeWhile notE).dropWhile (· ≠ '.') with
  -- the point comes first
  | cons c r =>
    obtain ⟨happend, hc⟩ := eq_append_of_dropWhile hpoint
    obtain rfl : c = '.' := by simpa using hc
    refine ⟨'.', by simp, ?_⟩
    rw [← List.takeWhile_append_dropWhile (p := notE) (l := cs), happend, List.append_assoc]
    exact stop?_append hwhole rfl _
  | nil =>
    -- without a point there is an exponent
    cases hexponent : cs.dropWhile notE with
    | nil =>
      simp only [hexponent, hpoint] at h
      simp at h
    | cons c r =>
      obtain ⟨happend, hc⟩ := eq_append_of_dropWhile hexponent
      have hall : (cs.takeWhile notE).takeWhile (· ≠ '.') = cs.takeWhile notE := by
        rw [← List.append_nil (List.takeWhile _ _), ← hpoint, List.takeWhile_append_dropWhile]
      have hletter : c = 'e' ∨ c = 'E' := by simpa [hE, or_iff_not_imp_left] using hc
      refine ⟨c, List.mem_cons_of_mem _ (by simpa using hletter), ?_⟩
      rw [happend]
      refine stop?_append (hall ▸ hwhole) ?_ _
      rcases hletter with rfl | rfl <;> rfl

lemma stop?_of_float? {edition : Edition} {cs : List Char} {j : Json}
    (h : float? edition cs = some j) :
    ∃ c ∈ ['.', 'e', 'E', 'i', 'n'], stop? (Decimal.takeSign cs).2 = some c := by
  unfold float? at h
  dsimp only at h
  split at h
  · -- infinity
    rename_i hword
    refine ⟨'i', by simp, ?_⟩
    rw [← String.toList_ofList (l := (Decimal.takeSign cs).2), hword]
    decide +kernel
  · -- no number
    rename_i hword
    refine ⟨'n', by simp, ?_⟩
    rw [← String.toList_ofList (l := (Decimal.takeSign cs).2), hword]
    decide +kernel
  · split at h
    · rename_i hx
      obtain ⟨c, hc, hstop⟩ := stop?_of_magnitude? hx
      exact ⟨c, List.mem_append_left ['i', 'n'] hc, hstop⟩
    · cases h

lemma digits?_eq_some {n v : Nat} {cs r : List Char} (h : digits? n cs = some (v, r)) :
    ∃ ds, cs = ds ++ r ∧ ds.length = n ∧ ∀ d ∈ ds, d.isDigit = true := by
  unfold digits? at h
  dsimp only at h
  split at h
  · rename_i hds
    obtain ⟨-, rfl⟩ := Prod.mk.inj (Option.some.inj h)
    exact ⟨_, (List.take_append_drop n cs).symm, hds.1, by simpa using hds.2⟩
  · cases h

lemma after?_eq_some {c : Char} {cs r : List Char} (h : after? c cs = some r) : cs = c :: r := by
  cases cs with
  | nil => cases h
  | cons d t =>
    rw [after?] at h
    split at h
    · rename_i hd
      obtain rfl := Option.some.inj h
      rw [hd]
    · cases h

/-- A text without a sign whose digits end at a hyphen or a colon. -/
def Parted (cs : List Char) : Prop :=
  (Decimal.takeSign cs).2 = cs ∧ ∃ c ∈ ['-', ':'], stop? cs = some c

lemma parted_of_digits? {n v : Nat} {c : Char} {cs r r' : List Char}
    (hdigits : digits? (n + 1) cs = some (v, r)) (hafter : after? c r = some r')
    (hc : c ∈ ['-', ':']) : Parted cs := by
  obtain ⟨ds, rfl, hlength, hds⟩ := digits?_eq_some hdigits
  obtain rfl := after?_eq_some hafter
  have hstop : ∀ c ∈ ['-', ':'], isGrouped c = false :=
    List.forall_mem_cons.2 ⟨rfl, List.forall_mem_singleton.2 rfl⟩
  refine ⟨?_, c, hc, stop?_append (fun d hd => by simp [isGrouped, hds d hd]) (hstop c hc) r'⟩
  cases ds with
  | nil => cases hlength
  | cons d ds =>
    -- a digit is no sign
    have hd : d.isDigit = true := hds d List.mem_cons_self
    rw [List.cons_append]
    unfold Decimal.takeSign
    split
    · rename_i heq
      obtain ⟨rfl, -⟩ := List.cons.inj heq
      exact absurd hd (by decide)
    · rename_i heq
      obtain ⟨rfl, -⟩ := List.cons.inj heq
      exact absurd hd (by decide)
    · rfl

lemma parted_of_date? {cs r : List Char} (h : date? cs = some r) : Parted cs := by
  unfold date? at h
  simp only [Option.bind_eq_bind, Option.bind_eq_some_iff] at h
  obtain ⟨year, hyear, rest, hrest, -⟩ := h
  exact parted_of_digits? hyear hrest (by simp)

lemma parted_of_isMoment {edition : Edition} {cs : List Char} (h : isMoment edition cs = true) :
    Parted cs := by
  unfold isMoment at h
  split at h
  · exact parted_of_date? ‹_›
  · exact parted_of_date? ‹_›
  · cases htime : time? edition cs with
    | none => simp [htime] at h
    | some r =>
      unfold time? at htime
      simp only [Option.bind_eq_bind, Option.bind_eq_some_iff] at htime
      obtain ⟨hour, hhour, rest, hrest, -⟩ := htime
      exact parted_of_digits? hhour hrest (by simp)

/-- The first edition has all floats of the later one, and some with a minus that are too large. -/
lemma float?_earlier {cs : List Char} {j : Json} (h : float? .v11 cs = some j) :
    float? .v10 cs = some j := by
  unfold float? at h ⊢
  dsimp only at h ⊢
  split at h
  · exact h
  · exact h
  · split at h
    · rename_i x hx
      split at h
      · rename_i hfinite
        have hfinite : x.isFinite = true := by simpa using hfinite
        simpa [hx, hfinite] using h
      · cases h
    · cases h

lemma float?_later {cs : List Char} {j : Json} (h : float? .v10 cs = some j)
    (hsign : (Decimal.takeSign cs).1 = false) : float? .v11 cs = some j := by
  unfold float? at h ⊢
  dsimp only at h ⊢
  rw [hsign] at h ⊢
  exact h

lemma Parted.not_negative {cs : List Char} (h : Parted cs) : (Decimal.takeSign cs).1 = false := by
  have hsign := h.1
  unfold Decimal.takeSign at hsign ⊢
  split
  · rfl
  · exact absurd (congrArg List.length hsign) (by simp)
  · rfl

/-- A text that only the later edition takes for an integer is nothing in the first one. -/
lemma not_number_of_integer? {edition : Edition} {cs : List Char} {j : Json}
    (h : integer? edition cs = some j) : float? .v10 cs = none ∧ isMoment .v10 cs = false := by
  have hbase := stop?_of_integer? h
  constructor
  · rw [Option.eq_none_iff_forall_ne_some]
    intro x hx
    obtain ⟨c, hc, hstop⟩ := stop?_of_float? hx
    have hmarks : ∀ c ∈ ['.', 'e', 'E', 'i', 'n'], c ∉ ['x', 'o', 'b'] := by simp
    exact hmarks c hc (hbase c hstop)
  · rw [Bool.eq_false_iff]
    intro hmoment
    obtain ⟨hsign, c, hc, hstop⟩ := parted_of_isMoment hmoment
    have hmarks : ∀ c ∈ ['-', ':'], c ∉ ['x', 'o', 'b'] := by simp
    rw [hsign] at hbase
    exact hmarks c hc (hbase c hstop)

/-- A word that both editions know is the same in both. -/
lemma word?_agree {cs : List Char} {j j' : Json} (h : word? .v10 cs = some j)
    (h' : word? .v11 cs = some j') : j = j' := by
  unfold word? at h h'
  split at h'
  · rename_i hword
    rw [hword] at h
    exact Option.some.inj (h.symm.trans h')
  · rename_i hword
    rw [hword] at h
    exact Option.some.inj (h.symm.trans h')
  · -- an integer of the earlier edition is one of the later
    cases hint : integer? .v10 cs with
    | some n =>
      simp only [hint] at h
      simp only [integer?_later hint] at h'
      exact Option.some.inj (h.symm.trans h')
    | none =>
      simp only [hint] at h
      cases hlater : integer? .v11 cs with
      | some n =>
        -- an integer of the later edition alone is nothing that the earlier one knows
        obtain ⟨hfloat, hmoment⟩ := not_number_of_integer? hlater
        simp [hfloat, hmoment] at h
      | none =>
        simp only [hlater] at h'
        cases hfloat : float? .v11 cs with
        | some x =>
          simp only [float?_earlier hfloat] at h
          simp only [hfloat] at h'
          exact Option.some.inj (h.symm.trans h')
        | none =>
          simp only [hfloat] at h'
          split at h'
          · rename_i hmoment
            -- a moment has a separator where a float has its digits
            have hnone : float? .v10 cs = none := by
              rw [Option.eq_none_iff_forall_ne_some]
              intro x hx
              cases (float?_later hx (parted_of_isMoment hmoment).not_negative).symm.trans hfloat
            simp only [hnone] at h
            split at h
            · exact Option.some.inj (h.symm.trans h')
            · cases h
          · cases h'

end TemplateMetrics.Toml
