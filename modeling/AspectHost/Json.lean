/-! Trees of JSON text. A tree keeps what a strict reader has to see: members in order with repeated
names, numbers with the way they were written, and texts whose escapes name half a character. -/

namespace AspectHost

inductive Json where
  | null
  | bool (b : Bool)
  /-- A number by its sign and the digits before the point; `plain` if no fraction and no exponent
  follow. -/
  | number (negative : Bool) (digits : Nat) (plain : Bool)
  /-- A text; `none` if it names half a surrogate pair. -/
  | string (text : Option String)
  | array (items : List Json)
  | object (members : List (Option String × Json))

namespace Json

/-- The integer a number stands for. A number with a fraction or an exponent stands for none, and
neither does minus zero. -/
def int? : Json → Option Int
  | number false n true => some n
  | number true n true => if n = 0 then none else some (-(n : Int))
  | _ => none

/-- An integer between two bounds. -/
def intBetween? (lo hi : Int) (j : Json) : Option Int := do
  let n ← j.int?
  if lo ≤ n ∧ n ≤ hi then some n else none

def string? : Json → Option String
  | string t => t
  | _ => none

/-- The value of the first member of a name. -/
def member? (name : String) : Json → Option Json
  | object ms => (ms.find? (·.1 == some name)).map (·.2)
  | _ => none

/-- Collects the members that have one of the names. A name that is half a character, or one of the names
given twice, spoils the whole. -/
def pick (names : List String) (seen : List (String × Json)) :
    List (Option String × Json) → Option (List (String × Json))
  | [] => some seen
  | (none, _) :: _ => none
  | (some n, j) :: r =>
    if names.contains n then
      if seen.any (·.1 == n) then none else pick names (seen ++ [(n, j)]) r
    else pick names seen r

/-- Reads a record: an object, whose other members are ignored, or an array of the fields in order, which
may end early. -/
def record? (names : List String) : Json → Option (List (String × Json))
  | object ms => pick names [] ms
  | array items => if items.length ≤ names.length then some (names.zip items) else none
  | _ => none

/-- A field of a record that `record?` read: the given default if it is missing. -/
def fieldOr {α : Type} (fields : List (String × Json)) (name : String) (read : Json → Option α)
    (default : α) : Option α :=
  match fields.lookup name with
  | some j => read j
  | none => some default

/-- Reads a choice: its name alone, or an object with that name as its only member. -/
def choice? : Json → Option (String × Option Json)
  | string (some t) => some (t, none)
  | object [(some t, j)] => some (t, some j)
  | _ => none

end Json
end AspectHost
