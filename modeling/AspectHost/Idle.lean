/-! Things kept for reuse under keys, in the order in which they were put there, the latest first. Taking
one out removes it; putting one in when there is no room displaces the one that has been there longest. -/

namespace AspectHost

/-- What is kept, the latest first. -/
abbrev Idle (α : Type) := List (String × α)

namespace Idle

variable {α : Type}

/-- Takes out what is kept under a key. -/
def take? (key : String) : Idle α → Option (α × Idle α)
  | [] => none
  | e :: r =>
    if e.1 = key then some (e.2, r) else (fun (a, r) => (a, e :: r)) <$> take? key r

def keys (s : Idle α) : List String := s.map (·.1)

/-- Puts something in, and hands back what it displaces: what was kept under the same key, or else the
oldest if there are `capacity` of them. -/
def put (capacity : Nat) (key : String) (a : α) (s : Idle α) : Idle α × Option (String × α) :=
  match take? key s with
  | some (old, rest) => ((key, a) :: rest, some (key, old))
  | none =>
    if s.length < capacity then ((key, a) :: s, none)
    else ((key, a) :: s.dropLast, s.getLast?)

end Idle
end AspectHost
