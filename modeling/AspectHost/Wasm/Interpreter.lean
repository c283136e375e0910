import AspectHost.Wasm.Machine.Laws

/-! The engine that is at hand: modules are read from their binary form, and their code is run one instruction
at a time. Modules in the text format are not read. Nested calls are limited by the room that they take, as by
a stack; the number of steps is limited far beyond what any run takes. -/

namespace AspectHost.Wasm

/-- The most calls that may be nested. -/
def Thread.maxRoom : Nat := 16384

/-- How much room for nested calls a call from guest to host and back takes. -/
def Thread.hostRoom : Nat := 96

/-- The room for the calls of a thread that is started from within another, or from the host. -/
def Thread.roomBelow : Option Thread → Nat
  | none => maxRoom
  | some t => t.room - hostRoom

/-- The interpreter. It can be set up for every configuration. -/
instance interpreter : Engine where
  setUp _ := .ok ()
  read code :=
    match Module.read? code with
    | some m => .ok m
    | none => .error "malformed or invalid module"
  Thread := Thread
  start P caller index args s := Thread.start P index args (Thread.roomBelow caller) s
  step := Thread.step
  resume := Thread.resume
  patience := 0x4000000000000000
  valid_of_read h := by
    split at h
    · cases h
      exact Module.valid_of_read? ‹_›
    · cases h
  follows_start P caller index args s := Thread.follows_start P s index args _
  globals_start P caller index args s := Thread.globals_start P s index args _
  follows_step P t s := t.follows_step P s

end AspectHost.Wasm
