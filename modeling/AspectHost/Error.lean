/-! The failures of the host, by cause. Each layer has its own family; all of them fold into
`HostError`. The wording lives in one `message` function per family. -/

namespace AspectHost

/-- Malformed bytes where a typed value was expected. -/
inductive DecodeError where
  | truncatedHeader (expected found : Nat)
  | truncatedBody (expected found : Nat)
  | negativeLength (length : Int32)
  | unknownKind (tag : Int16)
  | kindMismatch (expected found : String)
  | widthMismatch (kind : String) (expected found : Nat)
  | invalidBool (byte : UInt8)
  | invalidUtf8
  deriving DecidableEq

namespace DecodeError

def message : DecodeError → String
  | truncatedHeader e f => s!"DecodeError: header needs {e} bytes, found {f}."
  | truncatedBody e f => s!"DecodeError: body needs {e} bytes, found {f}."
  | negativeLength n => s!"DecodeError: negative body length {n.toInt}."
  | unknownKind t => s!"DecodeError: unknown type kind tag {t.toInt}."
  | kindMismatch e f => s!"DecodeError: expected kind {e}, found {f}."
  | widthMismatch k e f => s!"DecodeError: kind {k} needs a {e}-byte body, found {f}."
  | invalidBool b => s!"DecodeError: invalid boolean byte {b.toNat}."
  | invalidUtf8 => "DecodeError: string body is not valid UTF-8."

end DecodeError

/-- A failed access to guest memory. -/
inductive MemoryError where
  /-- The span from `ptr` of `size` bytes is not inside the memory. -/
  | outOfBounds (ptr size : Int64) (memorySize : Nat)
  | noMemoryExport (name : String)
  | noAllocator (name : String)
  /-- The guest allocator handed back the null pointer. -/
  | allocationFailed (size : Int32)
  | engine (reason : String)
  deriving DecidableEq

namespace MemoryError

def message : MemoryError → String
  | outOfBounds p s m =>
    s!"MemoryError: access of {s.toInt} bytes at {p.toInt} exceeds memory of {m} bytes."
  | noMemoryExport n => s!"MemoryError: guest does not export memory '{n}'."
  | noAllocator n => s!"MemoryError: guest does not export allocator '{n}'."
  | allocationFailed s => s!"MemoryError: allocation of {s.toInt} bytes returned pointer 0."
  | engine r => s!"MemoryError: engine failure: {r}."

end MemoryError

/-- A failed operation on a gas counter. -/
inductive GasError where
  | outOfGas
  | overflow (amount max : Int64)
  | counterUnavailable (reason : String)
  deriving DecidableEq

namespace GasError

def message : GasError → String
  | outOfGas => "GasError: out of gas."
  | overflow a m => s!"GasError: gas amount {a.toInt} overflows the maximum of {m.toInt}."
  | counterUnavailable r => s!"GasError: gas counter unavailable: {r}."

end GasError

/-- Everything a host operation can report. -/
inductive HostError where
  /-- Malformed or unsupported guest code. -/
  | compilation (reason : String)
  /-- A host function could not be linked, or an import is unresolved. -/
  | link (reason : String)
  | memory (cause : MemoryError)
  | decode (cause : DecodeError)
  | gasOverflow (reason : String)
  | gasUnavailable (reason : String)
  /-- Gas ran out, in a host call or in the guest itself. -/
  | outOfGas
  /-- Any other trap in the guest. -/
  | executionTrap (reason : String)
  | methodNotFound (method : String)
  /-- The arguments do not fit the method's signature. -/
  | badArguments (reason : String)
  /-- The text a host function failed with. -/
  | hostFunction (reason : String)
  | hostFunctionNotSupported (reason : String)
  | duplicateHostFunction (name : String)
  | config (reason : String)
  | validation (reason : String)
  | unsupportedEngine (name : String)
  | destroyed
  | notInstantiated
  | failedLockEngine
  deriving DecidableEq

namespace HostError

def message : HostError → String
  | compilation r => s!"RuntimeError: compilation failed: {r}."
  | link r => s!"RuntimeError: link failed: {r}."
  | memory c => s!"RuntimeError: {c.message}"
  | decode c => s!"RuntimeError: {c.message}"
  | gasOverflow r => s!"RuntimeError: gas overflow: {r}"
  | gasUnavailable r => s!"RuntimeError: gas counter unavailable: {r}"
  | outOfGas => "RuntimeError: out of gas."
  | executionTrap r => s!"RuntimeError: execution trap: {r}"
  | methodNotFound m => s!"RuntimeError: method '{m}' not found."
  | badArguments r => s!"RuntimeError: bad arguments: {r}."
  | hostFunction r => r
  | hostFunctionNotSupported r => s!"RuntimeError: host function not supported: {r}."
  | duplicateHostFunction n => s!"RuntimeError: host function '{n}' is already registered."
  | config r => s!"RuntimeError: invalid configuration: {r}."
  | validation r => s!"RuntimeError: bytecode rejected: {r}."
  | unsupportedEngine n => s!"RuntimeError: runtime engine '{n}' not supported."
  | destroyed => "RuntimeError: the runtime has been destroyed."
  | notInstantiated => "RuntimeError: the runtime has no live instance."
  | failedLockEngine => "RuntimeError: failed to obtain lock on the engine."

/-- A gas failure keeps its cause; an overflow keeps its whole text. -/
def ofGas : GasError → HostError
  | .outOfGas => outOfGas
  | .overflow a m => gasOverflow (GasError.overflow a m).message
  | .counterUnavailable r => gasUnavailable r

end HostError

/-- A failed guest call: the failure and the best known remaining gas, in outer units. -/
structure CallError where
  error : HostError
  gasRemaining : Int64
  deriving DecidableEq

namespace CallError

def message (e : CallError) : String :=
  s!"{e.error.message} (gas remaining: {e.gasRemaining.toInt})"

def isOutOfGas (e : CallError) : Bool := e.error == .outOfGas

end CallError
end AspectHost
