import AspectHost.Text.Shown

/-! Quoted text: the quote mark, the backslash and the usual controls have two-character escapes, a
character that cannot be shown is written by its number, and the rest stand for themselves. -/

namespace AspectHost.Text

/-- How one character is written between marks of the kind `mark`. -/
def escape (mark c : Char) : String :=
  if c == mark then String.ofList ['\\', c]
  else match c with
    | '\x00' => "\\0"
    | '\t' => "\\t"
    | '\r' => "\\r"
    | '\n' => "\\n"
    | '\\' => "\\\\"
    | _ =>
      if isShown c then c.toString
      else "\\u\x7b" ++ String.ofList (Nat.toDigits 16 c.toNat) ++ "\x7d"

/-- A text between double quotes. -/
def quoted (s : String) : String :=
  s.foldl (fun out c => out ++ escape '"' c) "\"" ++ "\""

/-- A character between single quotes. -/
def quotedChar (c : Char) : String := "'" ++ escape '\'' c ++ "'"

end AspectHost.Text
