import AspectHost.Aspect
import AspectHost.CommandLine.Options
import AspectHost.Validator
import AspectHost.Wasm.Interpreter

/-! The command line: one call of one method of a program, without host functions. What is read from outside
is the program; everything else follows from the words. -/

namespace AspectHost.CommandLine

/-- How the command line ends. -/
inductive Exit where
  /-- Prints a text. -/
  | done (output : String)
  | failed (message : String)
  /-- The words do not form a command line. -/
  | refused (reason : String)
  deriving DecidableEq

def Exit.code : Exit → UInt8
  | done _ => 0
  | failed _ => 1
  | refused _ => 2

def programName : String := "freestanding-aspect-runtime"

def programVersion : String := "0.3.0"

def synopsis : String :=
  "Usage: " ++ programName ++ " --program-binary <FILE> --method <NAME> [--gas <EVM GAS>] [--arg <STRING>]... " ++
    "[--bytes-arg <HEX>]... [--metering <counter | fuel>] [--multiplier <N>] [--validate]"

def Refusal.exit : Refusal → Exit
  | .version => .done (programName ++ " " ++ programVersion ++ "\n")
  | .help => .done (synopsis ++ "\n")
  | .usage reason => .refused reason

/-- What the words ask for, or how they end the command line. -/
def options (words : List String) : Except Exit Options :=
  match Matches.read {} words with
  | .error r => .error r.exit
  | .ok m =>
    match m.program, m.method with
    | some program, some method => (Options.ofMatches program method m).mapError .failed
    | none, _ => .error (.refused "the required argument '--program-binary <FILE>' was not provided")
    | _, none => .error (.refused "the required argument '--method <NAME>' was not provided")

/-- The part of a file's name after its last dot. A name that only begins with a dot has none. -/
def extension? (path : String) : Option String :=
  let name := (path.toList.reverse.takeWhile (· != '/')).reverse
  let ending := name.reverse.takeWhile (· != '.')
  if ending.length + 1 < name.length then some (String.ofList ending.reverse) else none

/-- The code in a file. Modules in the text format are not translated; a file named as text that holds binary
code is taken as it is. -/
def load (path : String) (content : Bytes) : Except String Bytes :=
  if extension? path = some "wat" ∧ ¬ [0x00, 0x61, 0x73, 0x6D].isPrefixOf content then
    .error "the text format is not supported"
  else .ok content

def report (o : CallOutput) : String :=
  let value := match o.value with
    | some v => v.kind.name ++ ": " ++ v.render
    | none => "(no return value)"
  value ++ "\ngas remaining: " ++ toString o.gasRemaining.toInt ++ "\n"

/-- The text of a failure; a host function that breaks off has none. -/
def explain {ε : Type} (message : ε → String) : Stop ε → String
  | .error e => message e
  | .panic => "a host function broke off"
  | .unanswered => "no answer"

/-- Runs the call on the content of the program's file. -/
def call (o : Options) (content : Bytes) : Except String CallOutput := do
  let code ← load o.program content
  if o.validate then
    let v ← (Validator.new o.config).mapError HostError.message
    (v.validate code).mapError HostError.message
  let a ← (Aspect.build code Registry.empty o.config).1.mapError (explain HostError.message)
  (a.call o.method o.gas o.arguments).result.mapError (explain CallError.message)

/-- Ends the command line with the content of the program's file, or with the reason why there is none. -/
def finish (o : Options) (file : Except String Bytes) : Exit :=
  match file >>= call o with
  | .ok output => .done (report output)
  | .error message => .failed message

/-- What is done for the words of a command line. -/
inductive Course where
  /-- It ends, and no file is read. -/
  | ending (exit : Exit)
  /-- The program is loaded from a file, and how it ends depends on what that holds. -/
  | load (path : String) (finish : Except String Bytes → Exit)

def course (words : List String) : Course :=
  match options words with
  | .error exit => .ending exit
  | .ok o => .load o.program (finish o)

end AspectHost.CommandLine
