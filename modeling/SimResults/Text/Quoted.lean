import SimResults.Text.Hidden

/-! Texts as messages show them: between double quotes, with a backslash before what would end
or disturb the quotation, and hidden characters by their code. -/

namespace SimResults.Text

def hexDigits (code : Nat) : String := String.ofList (Nat.toDigits 16 code)

/-- One character inside quotes; `extra` lists further characters that need a backslash. -/
def quotedChar (extra : List Char) (char : Char) : String :=
  match char with
  | '\x00' => "\\0"
  | '\t' => "\\t"
  | '\r' => "\\r"
  | '\n' => "\\n"
  | '\\' => "\\\\"
  | '"' => "\\\""
  | _ =>
    if extra.contains char then String.ofList ['\\', char]
    else if isHidden char then "\\u\x7b" ++ hexDigits char.toNat ++ "\x7d"
    else String.singleton char

def quotedWith (extra : List Char) (text : String) : String :=
  "\"" ++ String.join (text.toList.map (quotedChar extra)) ++ "\""

def quoted (text : String) : String := quotedWith [] text

/-- A file path is quoted like a text, and its apostrophes take a backslash too. -/
def quotedPath (path : String) : String := quotedWith ['\''] path

/-- Items between square brackets, separated by a comma and a space. -/
def bracketed (items : List String) : String := "[" ++ ", ".intercalate items ++ "]"

def quotedList (texts : List String) : String := bracketed (texts.map quoted)

end SimResults.Text
