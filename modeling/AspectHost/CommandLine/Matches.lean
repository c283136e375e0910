/-! The words of a command line, sorted to the options they belong to. An option takes its value from the
same word or from the next one, which must not look like an option itself. Words count from left to right:
the first one that is wrong, or that asks for something else, decides. -/

namespace AspectHost.CommandLine

/-- The options that take a value. -/
inductive Setting where
  | program
  | method
  | gas
  | text
  | hex
  | metering
  | multiplier
  deriving DecidableEq

namespace Setting

def long : Setting → String
  | program => "program-binary"
  | method => "method"
  | gas => "gas"
  | text => "arg"
  | hex => "bytes-arg"
  | metering => "metering"
  | multiplier => "multiplier"

def all : List Setting := [program, method, gas, text, hex, metering, multiplier]

def ofLong? (name : String) : Option Setting := all.find? (·.long == name)

/-- Some options have a letter too. -/
def ofShort? : Char → Option Setting
  | 'p' => some program
  | 'm' => some method
  | 'g' => some gas
  | 'a' => some text
  | 'b' => some hex
  | _ => none

end Setting

/-- The options that take no value. -/
inductive Switch where
  | validate
  | version
  | help
  deriving DecidableEq

namespace Switch

def ofLong? : String → Option Switch
  | "validate" => some validate
  | "version" => some version
  | "help" => some help
  | _ => none

def ofShort? : Char → Option Switch
  | 'V' => some version
  | 'h' => some help
  | _ => none

end Switch

/-- Why a command line does not lead to a call. -/
inductive Refusal where
  /-- It asks for the version of the program. -/
  | version
  | help
  /-- The words do not form a command line. -/
  | usage (reason : String)
  deriving DecidableEq

/-- What was given for an option that may be given any number of times: the values, and the position of each
of them among all that was given. -/
structure Occurrences where
  values : List String := []
  positions : List Nat := []
  deriving DecidableEq

def Occurrences.add (o : Occurrences) (v : String) (position : Nat) : Occurrences :=
  ⟨o.values ++ [v], o.positions ++ [position]⟩

/-- What a command line gives, still as texts. -/
structure Matches where
  program : Option String := none
  method : Option String := none
  gas : Option String := none
  metering : Option String := none
  multiplier : Option String := none
  /-- The arguments that are texts. -/
  texts : Occurrences := {}
  /-- The arguments that are bytes in hexadecimal digits. -/
  hexes : Occurrences := {}
  validate : Bool := false
  /-- How many positions are taken. A switch takes one, an option takes one for itself and one for its
  value. -/
  position : Nat := 0
  deriving DecidableEq

namespace Matches

/-- What was given for an option that is given once. -/
def given? (m : Matches) : Setting → Option String
  | .program => m.program
  | .method => m.method
  | .gas => m.gas
  | .metering => m.metering
  | .multiplier => m.multiplier
  | .text | .hex => none

/-- Adds the value of an option. Only arguments may be given more than once. -/
def set (m : Matches) (s : Setting) (v : String) : Except Refusal Matches :=
  if (m.given? s).isSome then
    .error (.usage s!"the argument '--{s.long}' cannot be used multiple times")
  else
    let position := m.position + 2
    .ok <| match s with
    | .program => { m with position, program := some v }
    | .method => { m with position, method := some v }
    | .gas => { m with position, gas := some v }
    | .metering => { m with position, metering := some v }
    | .multiplier => { m with position, multiplier := some v }
    | .text => { m with position, texts := m.texts.add v position }
    | .hex => { m with position, hexes := m.hexes.add v position }

def switch (m : Matches) : Switch → Except Refusal Matches
  | .version => .error .version
  | .help => .error .help
  | .validate =>
    if m.validate then .error (.usage "the argument '--validate' cannot be used multiple times")
    else .ok { m with position := m.position + 1, validate := true }

end Matches

/-- A word by its form. -/
inductive Word where
  /-- Two dashes: only plain words may follow. -/
  | escape
  | long (name : String) (attached : Option String)
  | short (letter : Char) (rest : List Char)
  | plain (text : String)
  deriving DecidableEq

namespace Word

/-- A name, and what follows the first equals sign. -/
def splitValue (cs : List Char) : String × Option String :=
  match cs.dropWhile (· != '=') with
  | [] => (String.ofList cs, none)
  | _ :: v => (String.ofList (cs.takeWhile (· != '=')), some (String.ofList v))

/-- A single dash is a plain word. -/
def ofString (s : String) : Word :=
  match s.toList with
  | ['-', '-'] => escape
  | '-' :: '-' :: r =>
    let (name, attached) := splitValue r
    long name attached
  | '-' :: c :: r => short c r
  | _ => plain s

/-- The value in the rest of a word of letters, with or without an equals sign. -/
def attached? : List Char → Option String
  | [] => none
  | '=' :: v => some (String.ofList v)
  | v => some (String.ofList v)

end Word

/-- What a word gives on its own. -/
inductive Demand where
  | set (s : Setting) (v : String)
  /-- The value is the next word. -/
  | await (s : Setting)
  | switch (s : Switch)
  | finish
  | unknown (word : String)

def Demand.ofWord (word : String) : Demand :=
  match Word.ofString word with
  | .escape => finish
  | .long name attached =>
    match Setting.ofLong? name, attached with
    | some s, some v => set s v
    | some s, none => await s
    | none, some _ => unknown word
    | none, none => ((Switch.ofLong? name).map switch).getD (unknown word)
  | .short c r =>
    match Setting.ofShort? c, Word.attached? r with
    | some s, some v => set s v
    | some s, none => await s
    | none, _ => ((Switch.ofShort? c).map switch).getD (unknown word)
  | .plain _ => unknown word

namespace Matches

def unexpected (word : String) : Refusal := .usage s!"unexpected argument '{word}' found"

def missing (s : Setting) : Refusal :=
  .usage s!"a value is required for '--{s.long}' but none was supplied"

/-- Reads the words after those that gave `m`. -/
def read (m : Matches) : List String → Except Refusal Matches
  | [] => .ok m
  | word :: rest =>
    match Demand.ofWord word with
    | .set s v => do read (← m.set s v) rest
    | .switch s => do read (← m.switch s) rest
    | .finish =>
      match rest with
      | [] => .ok m
      | w :: _ => .error (unexpected w)
    | .unknown w => .error (unexpected w)
    | .await s =>
      match rest with
      | [] => .error (missing s)
      | v :: rest =>
        match Word.ofString v with
        | .plain v => do read (← m.set s v) rest
        | _ => .error (missing s)

end Matches
end AspectHost.CommandLine
