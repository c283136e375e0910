import AspectHost.CommandLine.Matches
import AspectHost.Config
import AspectHost.Text.Decimal
import AspectHost.Text.Hex
import AspectHost.Value

/-! What a command line asks for: the program, the method and its arguments, the gas, and the configuration
that the options make of the defaults. -/

namespace AspectHost.CommandLine

structure Options where
  program : String
  method : String
  gas : Int64
  /-- In the order of the command line. -/
  arguments : List Value
  config : Config
  /-- Whether the program is checked before it is run. -/
  validate : Bool

namespace Options

/-- The gas of a call, unless the command line gives another amount. -/
def defaultGas : Int64 := 1000000

def text (s : String) : Except String Value := .ok (.string s)

def hex (s : String) : Except String Value :=
  (Value.bytearray <$> Text.Hex.decode s).mapError Text.Hex.Malformed.message

/-- What the values of an option stand for, each with its position. -/
def indexed (read : String → Except String Value) (o : Occurrences) :
    Except String (List (Nat × Value)) :=
  (o.values.zip o.positions).mapM fun (s, position) => (position, ·) <$> read s

/-- The arguments of both kinds, in the order of their positions. -/
def collect (m : Matches) : Except String (List Value) := do
  let texts ← indexed text m.texts
  let hexes ← indexed hex m.hexes
  return ((texts ++ hexes).mergeSort fun a b => a.1 ≤ b.1).map Prod.snd

def number (s : String) : Except String Int64 :=
  (Text.Decimal.readInt64 s).mapError Text.Decimal.Malformed.message

def metering (name : String) : Except String Metering :=
  match Metering.ofName? name with
  | some m => .ok m
  | none => .error s!"Expecting 'counter' or 'fuel' as gas metering, but found {name}"

/-- An option's value, or the default where it is not given. -/
def valueOr {α : Type} (read : String → Except String α) (default : α) :
    Option String → Except String α
  | some s => read s
  | none => .ok default

/-- The configuration with the gas settings of the command line. -/
def configuration (m : Matches) : Except String Config := do
  let metering ← valueOr metering .globalCounter m.metering
  let base : Config := {}
  let multiplier ← valueOr number base.gas.multiplier m.multiplier
  let c : Config := { base with gas := { base.gas with metering, multiplier } }
  c.check.mapError fun f => f.toError.message
  return c

/-- Makes sense of the texts of a command line that calls `method` of `program`. -/
def ofMatches (program method : String) (m : Matches) : Except String Options := do
  let gas ← valueOr number defaultGas m.gas
  let config ← configuration m
  let arguments ← collect m
  return { program, method, gas, arguments, config, validate := m.validate }

end Options
end AspectHost.CommandLine
