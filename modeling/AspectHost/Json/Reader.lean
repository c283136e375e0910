import AspectHost.Json

/-! Reading JSON text into a tree. The grammar is the strict one: no comments, no trailing commas, no
leading zeros, no controls inside texts. Every reader takes the characters that are left and hands back
what remains after its own. -/

namespace AspectHost.Json.Reader

def isBlank (c : Char) : Bool := c == ' ' || c == '\n' || c == '\t' || c == '\r'

def skipBlanks (s : List Char) : List Char := s.dropWhile isBlank

def hexDigit? (c : Char) : Option Nat :=
  if c.isDigit then some (c.toNat - 48)
  else if 'a' ≤ c ∧ c ≤ 'f' then some (c.toNat - 87)
  else if 'A' ≤ c ∧ c ≤ 'F' then some (c.toNat - 55)
  else none

/-- A piece of a text: a character as such, or a 16-bit unit named by an escape. -/
inductive Piece where
  | char (c : Char)
  | unit (n : Nat)

/-- The character of a surrogate pair. -/
def joinPair (hi lo : Nat) : Char := Char.ofNat (0x10000 + (hi - 0xD800) * 0x400 + (lo - 0xDC00))

/-- Joins the pieces of a text; nothing if a unit is half a pair. -/
def joinPieces : List Piece → Option (List Char)
  | [] => some []
  | .char c :: r => (c :: ·) <$> joinPieces r
  | .unit hi :: .unit lo :: r =>
    if 0xD800 ≤ hi ∧ hi < 0xDC00 then
      if 0xDC00 ≤ lo ∧ lo < 0xE000 then (joinPair hi lo :: ·) <$> joinPieces r else none
    else if 0xDC00 ≤ hi ∧ hi < 0xE000 then none
    else (Char.ofNat hi :: ·) <$> joinPieces (.unit lo :: r)
  | .unit n :: r =>
    if 0xD800 ≤ n ∧ n < 0xE000 then none else (Char.ofNat n :: ·) <$> joinPieces r

def simpleEscape? : Char → Option Char
  | '"' => some '"'
  | '\\' => some '\\'
  | '/' => some '/'
  | 'b' => some '\x08'
  | 'f' => some '\x0c'
  | 'n' => some '\n'
  | 'r' => some '\r'
  | 't' => some '\t'
  | _ => none

/-- The pieces of a text up to its closing quote. -/
def pieces : List Char → Option (List Piece × List Char)
  | [] => none
  | '"' :: r => some ([], r)
  | '\\' :: 'u' :: a :: b :: c :: d :: r => do
    let n := (((← hexDigit? a) * 16 + (← hexDigit? b)) * 16 + (← hexDigit? c)) * 16 + (← hexDigit? d)
    let (ps, rest) ← pieces r
    some (.unit n :: ps, rest)
  | '\\' :: e :: r => do
    let c ← simpleEscape? e
    let (ps, rest) ← pieces r
    some (.char c :: ps, rest)
  | c :: r =>
    if c.toNat < 0x20 || c == '\\' then none
    else do
      let (ps, rest) ← pieces r
      some (.char c :: ps, rest)

/-- A text after its opening quote. -/
def text (s : List Char) : Option (Option String × List Char) := do
  let (ps, rest) ← pieces s
  some ((joinPieces ps).map String.ofList, rest)

def digitsValue (ds : List Char) : Nat := ds.foldl (fun n c => n * 10 + (c.toNat - 48)) 0

/-- One or more digits. -/
def digits (s : List Char) : Option (List Char × List Char) :=
  match s.takeWhile Char.isDigit with
  | [] => none
  | ds => some (ds, s.dropWhile Char.isDigit)

/-- A fraction, if one starts here. -/
def fraction : List Char → Option (Bool × List Char)
  | '.' :: r => (fun p => (true, p.2)) <$> digits r
  | s => some (false, s)

/-- An exponent, if one starts here. -/
def exponent : List Char → Option (Bool × List Char)
  | e :: r =>
    if e == 'e' || e == 'E' then
      match r with
      | '+' :: r' | '-' :: r' => (fun p => (true, p.2)) <$> digits r'
      | _ => (fun p => (true, p.2)) <$> digits r
    else some (false, e :: r)
  | [] => some (false, [])

/-- A number after its sign. A zero is not followed by further digits. -/
def number (negative : Bool) (s : List Char) : Option (Json × List Char) := do
  let (ds, r) ← digits s
  if ds.head? == some '0' && ds.length > 1 then none
  let (f, r) ← fraction r
  let (e, r) ← exponent r
  some (.number negative (digitsValue ds) (!f && !e), r)

mutual

/-- A value; each level of nesting and each item takes one unit of `fuel`. -/
def value (fuel : Nat) (s : List Char) : Option (Json × List Char) :=
  match fuel with
  | 0 => none
  | fuel + 1 =>
    match skipBlanks s with
    | 'n' :: 'u' :: 'l' :: 'l' :: r => some (.null, r)
    | 't' :: 'r' :: 'u' :: 'e' :: r => some (.bool true, r)
    | 'f' :: 'a' :: 'l' :: 's' :: 'e' :: r => some (.bool false, r)
    | '"' :: r => (fun p => (.string p.1, p.2)) <$> text r
    | '-' :: r => number true r
    | '[' :: r =>
      match skipBlanks r with
      | ']' :: r' => some (.array [], r')
      | _ => (fun p => (.array p.1, p.2)) <$> items fuel r
    | '\x7b' :: r =>
      match skipBlanks r with
      | '\x7d' :: r' => some (.object [], r')
      | _ => (fun p => (.object p.1, p.2)) <$> members fuel r
    | r => number false r

/-- The items of an array up to its closing bracket. -/
def items (fuel : Nat) (s : List Char) : Option (List Json × List Char) :=
  match fuel with
  | 0 => none
  | fuel + 1 => do
    let (j, r) ← value fuel s
    match skipBlanks r with
    | ',' :: r' =>
      let (js, rest) ← items fuel r'
      some (j :: js, rest)
    | ']' :: r' => some ([j], r')
    | _ => none

/-- The members of an object up to its closing brace. -/
def members (fuel : Nat) (s : List Char) : Option (List (Option String × Json) × List Char) :=
  match fuel with
  | 0 => none
  | fuel + 1 =>
    match skipBlanks s with
    | '"' :: r => do
      let (name, r) ← text r
      match skipBlanks r with
      | ':' :: r =>
        let (j, r) ← value fuel r
        match skipBlanks r with
        | ',' :: r' =>
          let (ms, rest) ← members fuel r'
          some ((name, j) :: ms, rest)
        | '\x7d' :: r' => some ([(name, j)], r')
        | _ => none
      | _ => none
    | _ => none

end

end Reader

/-- Reads a whole text; nothing but blanks may follow the value. -/
def read? (s : String) : Option Json := do
  let cs := s.toList
  let (j, r) ← Reader.value (2 * cs.length + 2) cs
  if (Reader.skipBlanks r).isEmpty then some j else none

end AspectHost.Json
