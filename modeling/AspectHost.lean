import AspectHost.Error.Json
import AspectHost.Host.Outline
import AspectHost.Main
import AspectHost.Memory.Buffer
import AspectHost.Pool
import AspectHost.Proofs.Gas.Meter
import AspectHost.Proofs.Outcome
import AspectHost.Proofs.Wire
import AspectHost.Proofs.Guest
import AspectHost.Proofs.Host.Course
import AspectHost.Proofs.Host.Conservation
import AspectHost.Proofs.Host.Lifting
import AspectHost.Proofs.Host.Blind
import AspectHost.Proofs.Running
import AspectHost.Proofs.Reset
import AspectHost.Proofs.Linked
import AspectHost.Proofs.Instantiation
import AspectHost.Proofs.Pool
import AspectHost.Proofs.Gas.Draining
import AspectHost.Proofs.Host.Manners
import AspectHost.Proofs.Host.Serving
import AspectHost.Proofs.Moments
import AspectHost.Proofs.Metering
import AspectHost.Proofs.Session
import AspectHost.Proofs.Standing
import AspectHost.Proofs.Exhaustion
import AspectHost.Proofs.Refund
import AspectHost.Proofs.Pool.Recency
import AspectHost.Proofs.Lifecycle
import AspectHost.Proofs.Pool.Ownership
import AspectHost.Proofs.Arguments
import AspectHost.Proofs.Interchange
import AspectHost.Proofs.Host.Solvency
import AspectHost.Proofs.Host.Failures
import AspectHost.Proofs.Missing
import AspectHost.Proofs.Exports
import AspectHost.Proofs.Fitting
import AspectHost.Proofs.Gas.Exact
import AspectHost.Proofs.Gas.Balance
import AspectHost.Proofs.Host.Restraint
import AspectHost.Proofs.Host.Settlement
import AspectHost.Proofs.Gas.Charging
import AspectHost.Proofs.Memory.Reading
import AspectHost.Proofs.Memory.Placement
import AspectHost.Proofs.Host.Registration
import AspectHost.Proofs.Linking
import AspectHost.Proofs.Truncation
import AspectHost.Proofs.Host.Adapters
import AspectHost.Proofs.Handover
import AspectHost.Proofs.Budget
import AspectHost.Proofs.Validators
import AspectHost.Proofs.InRange
import AspectHost.Proofs.Oversize
import AspectHost.Proofs.CommandLine
import AspectHost.Wasm.Interpreter
import AspectHost.Wasm.Machine.Arithmetic
