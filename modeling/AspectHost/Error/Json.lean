import AspectHost.Error
import AspectHost.Json

/-! The JSON form of failures: a case without content is its name, any other an object whose only member
names the case. Named contents form an object, whose other members are ignored. -/

namespace AspectHost.Error

def nat? : Json → Option Nat
  | j => Int.toNat <$> j.intBetween? 0 0xFFFFFFFFFFFFFFFF

def int64? (j : Json) : Option Int64 :=
  Int64.ofInt <$> j.intBetween? Int64.minValue.toInt Int64.maxValue.toInt

def int32? (j : Json) : Option Int32 :=
  Int32.ofInt <$> j.intBetween? Int32.minValue.toInt Int32.maxValue.toInt

def int16? (j : Json) : Option Int16 :=
  Int16.ofInt <$> j.intBetween? Int16.minValue.toInt Int16.maxValue.toInt

def byte? (j : Json) : Option UInt8 := (fun n => UInt8.ofNat n.toNat) <$> j.intBetween? 0 255

/-- A case without content. -/
def bare {α : Type} (a : α) : Option Json → Option α
  | none | some .null => some a
  | _ => none

/-- A case with one unnamed content. -/
def single {α β : Type} (read : Json → Option α) (f : α → β) : Option Json → Option β
  | some j => f <$> read j
  | none => none

/-- A case with named contents. -/
def record {α : Type} (names : List String) (build : List (String × Json) → Option α) :
    Option Json → Option α
  | some (.object ms) => Json.pick names [] ms >>= build
  | _ => none

def expectedFound {α : Type} (f : Nat → Nat → α) : Option Json → Option α :=
  record ["expected", "found"] fun fs => do
    return f (← fs.lookup "expected" >>= nat?) (← fs.lookup "found" >>= nat?)

def decodeOfJson? (j : Json) : Option DecodeError := do
  let (tag, content) ← j.choice?
  match tag with
  | "TruncatedHeader" => expectedFound .truncatedHeader content
  | "TruncatedBody" => expectedFound .truncatedBody content
  | "NegativeLength" => single int32? .negativeLength content
  | "UnknownKind" => single int16? .unknownKind content
  | "KindMismatch" =>
    record ["expected", "found"] (fun fs => do
      return .kindMismatch (← fs.lookup "expected" >>= Json.string?)
        (← fs.lookup "found" >>= Json.string?)) content
  | "WidthMismatch" =>
    record ["kind", "expected", "found"] (fun fs => do
      return .widthMismatch (← fs.lookup "kind" >>= Json.string?)
        (← fs.lookup "expected" >>= nat?) (← fs.lookup "found" >>= nat?)) content
  | "InvalidBool" => single byte? .invalidBool content
  | "InvalidUtf8" => bare .invalidUtf8 content
  | _ => none

def memoryOfJson? (j : Json) : Option MemoryError := do
  let (tag, content) ← j.choice?
  match tag with
  | "OutOfBounds" =>
    record ["ptr", "size", "memory_size"] (fun fs => do
      return .outOfBounds (← fs.lookup "ptr" >>= int64?) (← fs.lookup "size" >>= int64?)
        (← fs.lookup "memory_size" >>= nat?)) content
  | "NoMemoryExport" => single Json.string? .noMemoryExport content
  | "NoAllocator" => single Json.string? .noAllocator content
  | "AllocationFailed" => single int32? .allocationFailed content
  | "Engine" => single Json.string? .engine content
  | _ => none

def gasOfJson? (j : Json) : Option GasError := do
  let (tag, content) ← j.choice?
  match tag with
  | "OutOfGas" => bare .outOfGas content
  | "Overflow" =>
    record ["amount", "max"] (fun fs => do
      return .overflow (← fs.lookup "amount" >>= int64?) (← fs.lookup "max" >>= int64?)) content
  | "CounterUnavailable" => single Json.string? .counterUnavailable content
  | _ => none

def hostOfJson? (j : Json) : Option HostError := do
  let (tag, content) ← j.choice?
  match tag with
  | "Compilation" => single Json.string? .compilation content
  | "Link" => single Json.string? .link content
  | "Memory" => single memoryOfJson? .memory content
  | "Decode" => single decodeOfJson? .decode content
  | "GasOverflow" => single Json.string? .gasOverflow content
  | "GasUnavailable" => single Json.string? .gasUnavailable content
  | "OutOfGas" => bare .outOfGas content
  | "ExecutionTrap" => single Json.string? .executionTrap content
  | "MethodNotFound" => single Json.string? .methodNotFound content
  | "BadArguments" => single Json.string? .badArguments content
  | "HostFunction" => single Json.string? .hostFunction content
  | "HostFunctionNotSupported" => single Json.string? .hostFunctionNotSupported content
  | "DuplicateHostFunction" => single Json.string? .duplicateHostFunction content
  | "Config" => single Json.string? .config content
  | "Validation" => single Json.string? .validation content
  | "UnsupportedEngine" => single Json.string? .unsupportedEngine content
  | "Destroyed" => bare .destroyed content
  | "NotInstantiated" => bare .notInstantiated content
  | "FailedLockEngine" => bare .failedLockEngine content
  | _ => none

end AspectHost.Error
