import AspectHost.Config
import AspectHost.Wasm.Store
import AspectHost.Wasm.Typing.Module

/-! Engines for guest code. An engine reads modules and runs their code in threads, a step at a time; between
two steps everything that the host can see of the code is in its store. What the host relies on are four laws:
only valid modules are read, a step neither changes how many globals there are nor gains fuel, only code that
runs on fuel stops for lack of it, and entering a function touches no global. -/

namespace AspectHost.Wasm

/-- What a thread does next. -/
inductive Step (Thread : Type) where
  | next (thread : Thread) (store : Store)
  | done (results : List Val) (store : Store)
  | trap (cause : Trap) (store : Store)
  /-- Calls the imported function of that index. -/
  | callOut (index : Nat) (args : List Val) (thread : Thread) (store : Store)
  /-- The operands do not fit. Validation is there to keep such code out. -/
  | stuck (store : Store)

def Step.store {Thread : Type} : Step Thread → Store
  | next _ s => s
  | done _ s => s
  | trap _ s => s
  | callOut _ _ _ s => s
  | stuck s => s

/-- The globals are as many, there is no more fuel, and what is noted of the fuel stays noted. -/
structure Store.Later (s s' : Store) : Prop where
  globals : s'.globals.size = s.globals.size
  amount : s'.fuel.amount ≤ s.fuel.amount
  exhausted : s.fuel.exhausted = true → s'.fuel.exhausted = true

namespace Store.Later

variable {s s' s'' : Store}

theorem refl (s : Store) : s.Later s := ⟨rfl, Int.le_refl _, id⟩

theorem trans (h : s.Later s') (h' : s'.Later s'') : s.Later s'' :=
  ⟨h'.globals.trans h.globals, Int.le_trans h'.amount h.amount, h'.exhausted ∘ h.exhausted⟩

end Store.Later

/-- The step goes on from the store, and lack of fuel stops only code that runs on fuel. -/
structure Step.Follows {Thread : Type} (P : Program) (s : Store) (x : Step Thread) : Prop where
  later : s.Later x.store
  dry : ∀ s', x = .trap .outOfFuel s' → P.fuelled = true

class Engine where
  /-- Why the engine cannot be set up as configured, if it cannot. -/
  setUp : Config → Except String Unit
  /-- The module that code stands for, or why it stands for none. -/
  read : Bytes → Except String Module
  /-- What is left to do of a call. -/
  Thread : Type
  /-- Begins a call of a function. The caller is the thread from which the host was called, if any. -/
  start : (P : Program) → (caller : Option Thread) → (index : Nat) → List Val → Store → Step Thread
  step : Program → Thread → Store → Step Thread
  /-- Gives a thread the results of a function that it called. -/
  resume : Thread → List Val → Thread
  /-- How many steps of a thread are waited for. -/
  patience : Nat
  valid_of_read {code : Bytes} {m : Module} : read code = .ok m → m.valid {} = true
  follows_start (P : Program) (caller : Option Thread) (index : Nat) (args : List Val) (s : Store) :
    (start P caller index args s).Follows P s
  globals_start (P : Program) (caller : Option Thread) (index : Nat) (args : List Val) (s : Store) :
    (start P caller index args s).store.globals = s.globals
  follows_step (P : Program) (t : Thread) (s : Store) : (step P t s).Follows P s

end AspectHost.Wasm
