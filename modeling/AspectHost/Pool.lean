import AspectHost.Aspect
import AspectHost.Digest.Sha256
import AspectHost.Idle
import AspectHost.Text.Hex

/-! A pool of idle aspects. An aspect that is checked out belongs to its caller until it comes back; an idle
one is always reset before it is handed out again, so nothing of its last use is left. Only the number of idle
aspects is bounded. -/

namespace AspectHost

/-- The key of code in a pool: the digest of the engine's name and the code. -/
def poolKey (code : Bytes) : String :=
  Text.Hex.encode (Digest.Sha256.digest (Value.utf8 Engine.standard.name ++ code))

structure Pool where
  config : Config
  capacity : Nat
  idle : Idle Aspect := []

namespace Pool

/-- A pool that keeps at most `capacity` idle aspects, but at least one. -/
def new (capacity : Nat) (config : Config) : Pool := { config, capacity := max capacity 1 }

def size (p : Pool) : Nat := p.idle.length

def isEmpty (p : Pool) : Bool := p.idle.isEmpty

def contains (p : Pool) (key : String) : Bool := (p.idle.lookup key).isSome

/-- What an operation on a pool answers and leaves, and what became of aspects that are no longer needed. -/
structure Answer (α : Type) where
  result : α
  pool : Pool
  /-- The aspects that the operation destroyed. -/
  retired : List Aspect := []
  events : List Event := []

/-- An aspect with the key under which it is to come back. -/
abbrev Checkout := Except (Stop HostError) (String × Aspect)

/-- Builds an aspect, after `events`. -/
def buildFresh [Wasm.Engine] (p : Pool) (code : Bytes) (apis : Registry) (retired : List Aspect)
    (events : List Event) : Answer Checkout :=
  match Aspect.build code apis p.config with
  | (.ok a, more) =>
    { result := .ok (poolKey code, a), pool := p, retired, events := events ++ more }
  | (.error e, more) => { result := .error e, pool := p, retired, events := events ++ more }

/-- Hands out an aspect for `code`: an idle one if it can be reset and no fresh one is asked for. -/
def checkout [Wasm.Engine] (p : Pool) (code : Bytes) (apis : Registry) (refresh : Bool) : Answer Checkout :=
  let key := poolKey code
  match Idle.take? key p.idle with
  | none => p.buildFresh code apis [] [.poolMiss key]
  | some (a, idle) =>
    let p := { p with idle }
    if refresh then p.buildFresh code apis [a.destroy] [.poolRefresh key]
    else
      let x := a.reset apis
      match x.result with
      | .ok () => { result := .ok (key, x.state), pool := p, events := x.events ++ [.poolHit key] }
      | .error (.error _) =>
        p.buildFresh code apis [x.state.destroy] (x.events ++ [.poolResetFailed key])
      | .error e =>
        { result := .error e, pool := p, retired := [x.state.destroy], events := x.events }

/-- Takes an aspect back without its instance. What it displaces is destroyed. -/
def giveBack (p : Pool) (key : String) (a : Aspect) : Answer Unit :=
  match Idle.put p.capacity key a.release p.idle with
  | (idle, none) => { result := (), pool := { p with idle } }
  | (idle, some (evicted, old)) =>
    { result := (), pool := { p with idle }, retired := [old.destroy], events := [.poolEvict evicted] }

end Pool
end AspectHost
