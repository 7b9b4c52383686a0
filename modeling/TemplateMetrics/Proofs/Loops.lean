import TemplateMetrics.Proofs.Failures

/-!
Loops over tokens end because the tokens do.

A round that goes on with fewer tokens only (`Descends`) leaves its loop no choice: just one reader
goes on as the rounds say, and `loop` computes it (`halts_loop`). So it never matters how many
rounds a loop has room for, or what it would give if they ran out. A round that went on without
taking a token would not descend, whatever it gave.
-/

namespace TemplateMetrics.Syntax

variable {σ α : Type} {round : Round σ α}

/-- A round goes on with fewer tokens than it was given: what it gives depends on no other
readings. -/
def Descends (round : Round σ α) : Prop :=
  ∀ f g s ts, (∀ s' r, r.length < ts.length → f s' r = g s' r) → round f s ts = round g s ts

/-- Once there are more rounds than tokens, further ones change nothing. -/
lemma Descends.rounds_eq (h : Descends round) {n m : Nat} {s : σ} {ts : Tokens}
    (hn : ts.length < n) (hm : ts.length < m) : rounds round n s ts = rounds round m s ts := by
  induction n generalizing m s ts with
  | zero => exact absurd hn (Nat.not_lt_zero _)
  | succ n ih =>
    obtain ⟨m, rfl⟩ := Nat.exists_eq_succ_of_ne_zero (Nat.ne_zero_of_lt hm)
    exact h _ _ s ts fun s' r hr => ih (by omega) (by omega)

lemma Descends.round_loop (h : Descends round) : round (loop round) = loop round := by
  funext s ts
  exact h _ _ s ts fun s' r hr => h.rounds_eq (Nat.lt_succ_self _) hr

section Lists

variable {item : Reader α}

lemma descends_closedRound (hitem : ∀ ts, Gives (item ts) fun r => Leaves ts r.2) (close : Punct) :
    Descends (closedRound close item) := by
  intro f g _ ts hnext
  unfold closedRound
  split
  · rfl
  · refine bind_congr_of_ok ?_
    rintro ⟨x, r⟩ hx
    have hle : r.length ≤ ts.length := (hitem ts _ hx).length_le
    dsimp only
    split
    · rename_i r' hcomma
      have hlt := (takes_eatPunct? hcomma).length_lt
      rw [hnext () r' (by omega)]
    · rfl

/-- A closed list is read round by round. -/
lemma closedList_eq (hitem : ∀ ts, Gives (item ts) fun r => Leaves ts r.2) (close : Punct)
    (ts : Tokens) : closedList close item ts =
      closedRound close item (fun _ => closedList close item) () ts :=
  congrFun (congrFun (descends_closedRound hitem close).round_loop.symm ()) ts

end Lists

end TemplateMetrics.Syntax
