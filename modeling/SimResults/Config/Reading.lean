import SimResults.Config.Basic
import SimResults.Json.Skip

/-! Settings from JSON text: an object, whose unknown members are passed over, or an array of
values in the order of the settings. Absent settings take their defaults. -/

namespace SimResults.Config

open Json

/-- A value of another shape than the setting has, from its first character on. The value is
read as far as it takes to know its shape, and its own faults come first. -/
def wrongShape (chars : List Char) : Fault :=
  let faultOf {α : Type} : Except Fault α → Fault
    | .error fault => fault
    | .ok _ => .mismatched
  match chars with
  | [] => .truncated
  | 'n' :: rest => faultOf (readWord ['u', 'l', 'l'] rest)
  | 't' :: rest => faultOf (readWord ['r', 'u', 'e'] rest)
  | 'f' :: rest => faultOf (readWord ['a', 'l', 's', 'e'] rest)
  | '"' :: rest => faultOf (spell .plain rest)
  | '-' :: rest => numberFault rest
  | '[' :: _ | '\x7b' :: _ => .mismatched
  | char :: rest => if (Number.digit? char).isSome then numberFault (char :: rest) else .malformed

def readText (chars : List Char) : Except Fault (String × List Char) :=
  match skipBlank chars with
  | '"' :: rest => readString rest
  | other => .error (wrongShape other)

def readFlag (chars : List Char) : Except Fault (Bool × List Char) :=
  match skipBlank chars with
  | 't' :: rest => (readWord ['r', 'u', 'e'] rest).map (true, ·)
  | 'f' :: rest => (readWord ['a', 'l', 's', 'e'] rest).map (false, ·)
  | other => .error (wrongShape other)

/-- Stands before the next element of an array, or before its closing bracket. -/
inductive Next
  | element (chars : List Char)
  | closing (chars : List Char)

def nextElement (first : Bool) (chars : List Char) : Except Fault Next :=
  match skipBlank chars with
  | [] => .error .truncated
  | ']' :: rest => .ok (.closing (']' :: rest))
  | char :: rest =>
    if first then .ok (.element (char :: rest))
    else if char != ',' then .error .malformed
    else
      match skipBlank rest with
      | [] => .error .truncated
      | ']' :: _ => .error .malformed
      | other => .ok (.element other)

/-- The closing bracket of an array that has given all its elements. -/
def closeArray (chars : List Char) : Except Fault (List Char) :=
  match skipBlank chars with
  | [] => .error .truncated
  | ']' :: rest => .ok rest
  | _ => .error .malformed

/-- Texts up to the closing bracket, at most `fuel` of them. -/
def readElements : (fuel : Nat) → (first : Bool) → List Char → Except Fault (List String × List Char)
  | 0, _, _ => .error .truncated
  | fuel + 1, first, chars => do
    match ← nextElement first chars with
    | .closing chars => return ([], ← closeArray chars)
    | .element chars =>
      let (text, chars) ← readText chars
      let (texts, chars) ← readElements fuel false chars
      return (text :: texts, chars)

def readTexts (chars : List Char) : Except Fault (List String × List Char) :=
  match skipBlank chars with
  | '[' :: rest => readElements (rest.length + 1) true rest
  | other => .error (wrongShape other)

/-- Reads the value of one setting into a configuration. -/
def readSetting (setting : Setting) (config : Config) (chars : List Char) : Except Fault (Config × List Char) :=
  match setting with
  | .tool => (readText chars).map fun (tool, rest) => ({ config with tool }, rest)
  | .inputs => (readTexts chars).map fun (texts, rest) =>
      ({ config with inputs := .ofList texts }, rest)
  | .allowNonmatching => (readFlag chars).map fun (allowNonmatching, rest) =>
      ({ config with allowNonmatching }, rest)
  | .requireMatchingInputs => (readFlag chars).map fun (requireMatchingInputs, rest) =>
      ({ config with requireMatchingInputs }, rest)

/-- The elements of an array are the settings in order; it may end early but not late. -/
def readArray (first : Bool) (config : Config) : List Setting → List Char → Except Fault (Config × List Char)
  | [], chars => do return (config, ← closeArray chars)
  | setting :: settings, chars => do
    match ← nextElement first chars with
    | .closing chars => return (config, ← closeArray chars)
    | .element chars =>
      let (config, chars) ← readSetting setting config chars
      readArray false config settings chars

/-- The start of the next member's name, or `none` behind the closing brace. -/
def nextMember (first : Bool) (chars : List Char) : Except Fault (Bool × List Char) :=
  match skipBlank chars with
  | [] => .error .truncated
  | '\x7d' :: rest => .ok (false, rest)
  | char :: rest =>
    if first then
      if char == '"' then .ok (true, rest) else .error .malformed
    else if char != ',' then .error .malformed
    else
      match skipBlank rest with
      | [] => .error .truncated
      | '"' :: rest => .ok (true, rest)
      | _ => .error .malformed

def readColon (chars : List Char) : Except Fault (List Char) :=
  match skipBlank chars with
  | [] => .error .truncated
  | ':' :: rest => .ok rest
  | _ => .error .malformed

/-- The members of an object, at most `fuel` of them. A setting may be given once, which is
checked before its value is read. -/
def readMembers : (fuel : Nat) → (first : Bool) → (seen : List Setting) → Config → List Char →
    Except Fault (Config × List Char)
  | 0, _, _, _, _ => .error .truncated
  | fuel + 1, first, seen, config, chars => do
    match ← nextMember first chars with
    | (false, chars) => return (config, chars)
    | (true, chars) =>
      let (name, chars) ← readString chars
      match Setting.all.find? (·.name == name) with
      | none => readMembers fuel false seen config (← skipValue (← readColon chars))
      | some setting =>
        if seen.contains setting then throw .mismatched
        let (config, chars) ← readSetting setting config (← readColon chars)
        readMembers fuel false (setting :: seen) config chars

def ofChars (chars : List Char) : Except Fault (Config × List Char) :=
  match skipBlank chars with
  | '[' :: rest => readArray true {} Setting.all rest
  | '\x7b' :: rest => readMembers (rest.length + 1) true [] {} rest
  | other => .error (wrongShape other)

/-- The configuration that a JSON text describes; only white space may follow it. -/
def ofText (text : String) : Except Fault Config := do
  let (config, rest) ← ofChars text.toList
  match skipBlank rest with
  | [] => return config
  | _ => throw .malformed

end SimResults.Config
