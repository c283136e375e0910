import AspectHost.Pool
import AspectHost.Proofs.Idle

/-! # How checkouts and returns go

A checkout has five exits, and takes at most what is idle under the key of the code (`Pool.checkout_goes`).
A return puts what came back in front, without its instance. -/

namespace AspectHost.Pool

section

variable [Wasm.Engine]

section

variable (p : Pool) (code : Bytes) (apis : Registry) (retired : List Aspect) (events : List Event)

theorem buildFresh_pool : (p.buildFresh code apis retired events).pool = p := by
  unfold buildFresh
  split <;> rfl

theorem buildFresh_retired : (p.buildFresh code apis retired events).retired = retired := by
  unfold buildFresh
  split <;> rfl

theorem buildFresh_result : (p.buildFresh code apis retired events).result =
    (Aspect.build code apis p.config).1.map fun a => (poolKey code, a) := by
  unfold buildFresh
  split <;>
    · rename_i hbuild
      rw [hbuild]
      rfl

end

/-- The exits of a checkout, with all that it answers. -/
inductive Goes (p : Pool) (code : Bytes) (apis : Registry) : (refresh : Bool) → Answer Checkout → Prop
  | miss {refresh : Bool} (missing : Idle.take? (poolKey code) p.idle = none) :
    Goes p code apis refresh (p.buildFresh code apis [] [.poolMiss (poolKey code)])
  | refresh {a : Aspect} {idle : Idle Aspect}
    (taken : Idle.take? (poolKey code) p.idle = some (a, idle)) :
    Goes p code apis true
      ({ p with idle }.buildFresh code apis [a.destroy] [.poolRefresh (poolKey code)])
  | hit {a : Aspect} {idle : Idle Aspect}
    (taken : Idle.take? (poolKey code) p.idle = some (a, idle)) (reset : (a.reset apis).result = .ok ()) :
    Goes p code apis false
      { result := .ok (poolKey code, (a.reset apis).state), pool := { p with idle }
        events := (a.reset apis).events ++ [.poolHit (poolKey code)] }
  | rebuild {a : Aspect} {idle : Idle Aspect} {e : HostError}
    (taken : Idle.take? (poolKey code) p.idle = some (a, idle))
    (reset : (a.reset apis).result = .error (.error e)) :
    Goes p code apis false ({ p with idle }.buildFresh code apis [(a.reset apis).state.destroy]
      ((a.reset apis).events ++ [Event.poolResetFailed (poolKey code)]))
  | breakOff {a : Aspect} {idle : Idle Aspect} {e : Stop HostError}
    (taken : Idle.take? (poolKey code) p.idle = some (a, idle)) (reset : (a.reset apis).result = .error e)
    (unreported : ∀ cause, e ≠ .error cause) :
    Goes p code apis false
      { result := .error e, pool := { p with idle }, retired := [(a.reset apis).state.destroy]
        events := (a.reset apis).events }

theorem checkout_goes (p : Pool) (code : Bytes) (apis : Registry) (refresh : Bool) :
    p.Goes code apis refresh (p.checkout code apis refresh) := by
  unfold checkout
  dsimp only
  cases ht : Idle.take? (poolKey code) p.idle with
  | none => exact .miss ht
  | some found =>
    obtain ⟨a, idle⟩ := found
    cases refresh with
    | true => exact .refresh ht
    | false =>
      simp only [Bool.false_eq_true, if_false]
      split
      · rename_i hr
        exact .hit ht hr
      · rename_i hr
        exact .rebuild ht hr
      · rename_i unreported hr
        exact .breakOff ht hr unreported

/-- Whichever way a checkout goes, it takes what is idle under its key and leaves the rest. -/
theorem checkout_pool (p : Pool) (code : Bytes) (apis : Registry) (refresh : Bool) :
    (p.checkout code apis refresh).pool =
      { p with idle := (Idle.take? (poolKey code) p.idle).elim p.idle (·.2) } := by
  have hgoes := p.checkout_goes code apis refresh
  generalize p.checkout code apis refresh = x at hgoes
  cases hgoes with
  | miss missing => rw [buildFresh_pool, missing]; rfl
  | refresh taken => rw [buildFresh_pool, taken]; rfl
  | hit taken reset => rw [taken]; rfl
  | rebuild taken reset => rw [buildFresh_pool, taken]; rfl
  | breakOff taken reset unreported => rw [taken]; rfl

end

theorem giveBack_pool (p : Pool) (key : String) (a : Aspect) : (p.giveBack key a).pool =
    { p with idle := (Idle.put p.capacity key a.release p.idle).1 } := by
  unfold giveBack
  split <;>
    · rename_i hput
      rw [hput]

/-- A return destroys what it displaces. -/
theorem giveBack_retired (p : Pool) (key : String) (a : Aspect) : (p.giveBack key a).retired =
    ((Idle.put p.capacity key a.release p.idle).2.map fun e => e.2.destroy).toList := by
  unfold giveBack
  split <;>
    · rename_i hput
      rw [hput]
      rfl

end AspectHost.Pool
