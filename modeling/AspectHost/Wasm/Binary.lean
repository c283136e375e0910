import AspectHost.Wasm.Binary.Code

/-! Reading a binary module: a preamble, then sections in their order, each at most once, with named custom
sections anywhere between them. -/

namespace AspectHost.Wasm

namespace Reader

def importDesc : Reader ImportDesc := do
  match ← byte with
  | 0 => .func <$> index
  | 1 => .table <$> tableType
  | 2 => .memory <$> limits
  | 3 => .global <$> globalType
  | _ => failure

def importEntry : Reader Import := do
  let module ← name
  let entry ← name
  return ⟨module, entry, ← importDesc⟩

def space : Reader Space := do
  match ← byte with
  | 0 => return .func
  | 1 => return .table
  | 2 => return .memory
  | 3 => return .global
  | _ => failure

def exportEntry : Reader Export := do
  let entry ← name
  let space ← space
  return ⟨entry, space, ← index⟩

def global : Reader Global := do
  let type ← globalType
  return ⟨type, ← initial⟩

/-- Element kinds are always functions. -/
def elementKind : Reader ValType := expect 0 *> return .funcref

def functionItems : Reader (List Initial) := list (.func <$> index)

def elementSegment : Reader ElementSegment := do
  let active (table : Reader Nat) : Reader Mode := do
    let t ← table
    return .active t (← initial)
  let segment (mode : Reader Mode) (type : Reader ValType) (items : Reader (List Initial)) :
      Reader ElementSegment := do
    let mode ← mode
    let type ← type
    return ⟨mode, type, ← items⟩
  match ← index with
  | 0 => segment (active (pure 0)) (pure .funcref) functionItems
  | 1 => segment (pure .passive) elementKind functionItems
  | 2 => segment (active index) elementKind functionItems
  | 3 => segment (pure .declarative) elementKind functionItems
  | 4 => segment (active (pure 0)) (pure .funcref) (list initial)
  | 5 => segment (pure .passive) refType (list initial)
  | 6 => segment (active index) refType (list initial)
  | 7 => segment (pure .declarative) refType (list initial)
  | _ => failure

def dataSegment : Reader DataSegment := do
  let mode : Mode ← match ← index with
    | 0 => .active 0 <$> initial
    | 1 => pure .passive
    | 2 => do
      let memory ← index
      .active memory <$> initial
    | _ => failure
  return ⟨mode, ← bytes (← index)⟩

/-- The place of a section in the order of all. -/
def rank? (id : UInt8) : Option Nat :=
  if id = 12 then some 10
  else if id = 10 then some 11
  else if id = 11 then some 12
  else if 1 ≤ id ∧ id ≤ 9 then some id.toNat
  else none

/-- Adds what a section holds. -/
def content (id : UInt8) (m : Module) : Reader Module := do
  match id with
  | 1 => return { m with types := ← list funcType }
  | 2 => return { m with imports := ← list importEntry }
  | 3 => return { m with functions := ← list index }
  | 4 => return { m with tables := ← list tableType }
  | 5 => return { m with memories := ← list limits }
  | 6 => return { m with globals := ← list global }
  | 7 => return { m with exports := ← list exportEntry }
  | 8 => return { m with start := some (← index) }
  | 9 => return { m with elements := ← list elementSegment }
  | 10 => return { m with code := ← list body }
  | 11 => return { m with data := ← list dataSegment }
  | 12 => return { m with dataCount := some (← index) }
  | _ => failure

/-- Only the name of a custom section is looked at. -/
def custom : Reader Unit := do
  let _ ← name
  fun _ => some ((), [])

/-- The sections after the one of rank `last`. Every section takes at least two bytes. -/
def sections : (bound : Nat) → (last : Nat) → Module → Reader Module
  | 0, _, _ => failure
  | n + 1, last, m => fun input =>
    match input with
    | [] => some (m, [])
    | id :: rest =>
      if id = 0 then do
        let ((), rest) ← sized custom rest
        sections n last m rest
      else do
        let rank ← rank? id
        guard (last < rank)
        let (m, rest) ← sized (content id m) rest
        sections n rank m rest

/-- The magic number and the version. -/
def preamble : Bytes := [0x00, 0x61, 0x73, 0x6D, 0x01, 0x00, 0x00, 0x00]

end Reader

/-- The module of a binary form. It is well-formed, but not yet known to be valid. -/
def Module.ofBytes? (input : Bytes) : Option Module := do
  let (preamble, rest) ← Reader.bytes Reader.preamble.length input
  guard (preamble = Reader.preamble)
  Reader.whole (Reader.sections (rest.length + 1) 0 {}) rest

end AspectHost.Wasm
