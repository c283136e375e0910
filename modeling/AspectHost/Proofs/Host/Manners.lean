import AspectHost.Host.Function
import AspectHost.Proofs.Outcome

/-! # What host functions cannot do

A host function fails with a text of its own, or on an argument that is not what it takes. It has no way to
claim that gas ran out. Both ways to make one see to that (`dynamic_reports`, `lower_reports`). -/

namespace AspectHost

/-- The failures that a host function can end with. -/
inductive HostError.Reported : HostError → Prop
  | text (t : String) : Reported (.hostFunction t)
  | argument (c : DecodeError) : Reported (.decode c)

/-- The computation fails only in ways that a host function can. -/
def HostAct.Reports {α : Type} (x : HostAct HostError α) : Prop :=
  ∀ q, Act.Ends (fun _ _ => True) (fun e _ => ∀ cause, e = .error cause → cause.Reported) (x q)

namespace HostAct.Reports

variable {α β : Type}

theorem fail {e : HostError} (h : e.Reported) : HostAct.Reports (Act.fail e : HostAct HostError α) :=
  Act.FailsOnly.fail h

/-- A failed computation of the embedding program is known by its text. -/
theorem of_text (x : HostAct String α) :
    HostAct.Reports (Act.mapError HostError.hostFunction x) := by
  have htext : Act.FailsOnly (fun t => (HostError.hostFunction t).Reported) x := .of_forall .text x
  exact htext.mapError

theorem bind {x : HostAct HostError α} {f : α → HostAct HostError β} (hx : HostAct.Reports x)
    (hf : ∀ a, HostAct.Reports (f a)) : HostAct.Reports (x >>= f) :=
  Act.FailsOnly.bind hx hf

theorem map {x : HostAct HostError α} (hx : HostAct.Reports x) (f : α → β) : HostAct.Reports (f <$> x) :=
  Act.FailsOnly.map hx f

end HostAct.Reports

/-- A function of this language whose failures are those of a host function. -/
class LawfulLower (φ : Type) [Lower φ] : Prop where
  reports : ∀ (f : φ) args, HostAct.Reports (Lower.run f args)

namespace LawfulLower

variable {α φ : Type} [Native α]

instance : LawfulLower (Computation Empty α) where
  reports c _ := by
    have hnone : Act.FailsOnly (fun e : Empty => (e.elim : HostError).Reported) c.act :=
      .of_forall (fun e => e.elim) c.act
    have hlifted : HostAct.Reports (Act.mapError Empty.elim c.act) := hnone.mapError
    exact hlifted.map _

instance : LawfulLower (Computation String α) where
  reports c _ := (HostAct.Reports.of_text c.act).map _

instance : LawfulLower (Computation String Unit) where
  reports c _ := (HostAct.Reports.of_text c.act).map _

instance [Lower φ] [LawfulLower φ] : LawfulLower (α → φ) where
  reports f args := by
    cases args with
    | nil => exact .fail (.text _)
    | cons v vs =>
      change HostAct.Reports (match (Native.ofValue v : Except DecodeError α) with
        | .ok a => Lower.run (f a) vs
        | .error e => Act.fail (.decode e))
      cases (Native.ofValue v : Except DecodeError α) with
      | ok a => exact reports (f a) vs
      | error e => exact .fail (.argument e)

end LawfulLower

namespace HostFunction

variable {f : HostFunction}

/-- The function fails only with failures of its own. -/
def Reports (f : HostFunction) : Prop := ∀ args, HostAct.Reports (f.call args)

/-- The function leaves no more of its budget than it starts with. -/
def Spends (f : HostFunction) : Prop :=
  ∀ args q, (Act.finalState (f.call args q)).toNat ≤ q.toNat

theorem reports_of_body (h : ∀ args, HostAct.Reports (f.body args)) : f.Reports := by
  intro args
  unfold call
  dsimp only
  split
  · exact .fail (.text _)
  · split
    · exact .fail (.argument _)
    · exact h args

theorem spends_of_body (h : ∀ args q, (Act.finalState (f.body args q)).toNat ≤ q.toNat) : f.Spends := by
  intro args q
  unfold call
  split
  · exact Nat.le_refl _
  · cases mismatch? args f.signature.params with
    | some e => exact Nat.le_refl _
    | none => exact h args q

theorem dynamic_reports (s : Signature) (f : List Value → HostAct String (List Value)) :
    (dynamic s f).Reports := by
  refine reports_of_body fun args => (HostAct.Reports.of_text (f args)).bind fun results => ?_
  by_cases h : results.map Value.kind = s.results
  · simp only [if_pos h]
    exact fun q => .ok trivial
  · simp only [if_neg h]
    exact .fail (.text _)

theorem lower_reports {φ : Type} [Lower φ] [LawfulLower φ] (f : φ) : (lower f).Reports :=
  reports_of_body fun args => LawfulLower.reports f args

end HostFunction
end AspectHost
