import SimResults.Json.Fault

/-! Strings in JSON text. Writing escapes quotes, backslashes and control characters only;
reading knows every escape, and requires the two halves of a surrogate pair to stand together. -/

namespace SimResults.Json

def hexDigit? (char : Char) : Option Nat :=
  let code := char.toNat
  if 0x30 ≤ code ∧ code ≤ 0x39 then some (code - 0x30)
  else if 0x41 ≤ code ∧ code ≤ 0x46 then some (code - 0x37)
  else if 0x61 ≤ code ∧ code ≤ 0x66 then some (code - 0x57)
  else none

def hexDigit (value : Nat) : Char := Char.ofNat (if value < 10 then 0x30 + value else 0x57 + value)

/-- One character as it stands between quotes. -/
def escaped (char : Char) : List Char :=
  match char with
  | '"' => ['\\', '"']
  | '\\' => ['\\', '\\']
  | '\x08' => ['\\', 'b']
  | '\x0c' => ['\\', 'f']
  | '\n' => ['\\', 'n']
  | '\r' => ['\\', 'r']
  | '\t' => ['\\', 't']
  | _ =>
    if char.toNat < 0x20 then
      ['\\', 'u', '0', '0', hexDigit (char.toNat / 16), hexDigit (char.toNat % 16)]
    else [char]

def writeString (text : String) : List Char := '"' :: text.toList.flatMap escaped ++ ['"']

/-- What an escape of one letter stands for. -/
def simpleEscape? : Char → Option Char
  | '"' => some '"'
  | '\\' => some '\\'
  | '/' => some '/'
  | 'b' => some '\x08'
  | 'f' => some '\x0c'
  | 'n' => some '\n'
  | 'r' => some '\r'
  | 't' => some '\t'
  | _ => none

/-- Where in a string the next character stands. -/
inductive Spelling
  | plain
  /-- After a backslash. -/
  | escape
  /-- Inside a code of four digits: the high surrogate before it, the digits still to come and
  the value so far. -/
  | code (high : Option Nat) (left value : Nat)
  /-- After a high surrogate, which only another escaped code may follow. -/
  | highSurrogate (high : Nat)
  | secondEscape (high : Nat)

/-- A character that is no digit spoils a code, unless the text ends before the code could. -/
def codeFault (left : Nat) (chars : List Char) : Fault :=
  if left ≤ (String.ofList (chars.take left)).utf8ByteSize then .malformed else .truncated

/-- What a finished code means: a character, or the first half of a pair. -/
def closeCode (high : Option Nat) (value : Nat) : Except Fault (Char ⊕ Nat) :=
  match high with
  | none =>
    if 0xdc00 ≤ value ∧ value ≤ 0xdfff then .error .malformed
    else if 0xd800 ≤ value ∧ value ≤ 0xdbff then .ok (.inr value)
    else .ok (.inl (Char.ofNat value))
  | some high =>
    if 0xdc00 ≤ value ∧ value ≤ 0xdfff then
      .ok (.inl (Char.ofNat (0x10000 + (high - 0xd800) * 0x400 + (value - 0xdc00))))
    else .error .malformed

/-- Puts a character before the text that the rest of the string spells. -/
def prepend (char : Char) (spelled : Except Fault (List Char × List Char)) :
    Except Fault (List Char × List Char) :=
  spelled.map fun (text, rest) => (char :: text, rest)

/-- The text of a string up to its closing quote, and what follows the quote. -/
def spell : Spelling → List Char → Except Fault (List Char × List Char)
  | _, [] => .error .truncated
  | .plain, char :: rest =>
    if char == '"' then .ok ([], rest)
    else if char == '\\' then spell .escape rest
    else if char.toNat < 0x20 then .error .malformed
    else prepend char (spell .plain rest)
  | .escape, char :: rest =>
    match simpleEscape? char with
    | some meant => prepend meant (spell .plain rest)
    | none => if char == 'u' then spell (.code none 4 0) rest else .error .malformed
  | .code high left value, char :: rest =>
    match hexDigit? char with
    | none => .error (codeFault left (char :: rest))
    | some digit =>
      let value := value * 16 + digit
      if 1 < left then spell (.code high (left - 1) value) rest
      else
        match closeCode high value with
        | .error fault => .error fault
        | .ok (.inl meant) => prepend meant (spell .plain rest)
        | .ok (.inr high) => spell (.highSurrogate high) rest
  | .highSurrogate high, char :: rest =>
    if char == '\\' then spell (.secondEscape high) rest else .error .malformed
  | .secondEscape high, char :: rest =>
    if char == 'u' then spell (.code (some high) 4 0) rest else .error .malformed

/-- Reads a string after its opening quote. -/
def readString (chars : List Char) : Except Fault (String × List Char) :=
  (spell .plain chars).map fun (text, rest) => (String.ofList text, rest)

/-- Passes over a string after its opening quote. Codes need four digits, but may be anything. -/
def skipString : Spelling → List Char → Except Fault (List Char)
  | _, [] => .error .truncated
  | .escape, char :: rest =>
    if char == 'u' then skipString (.code none 4 0) rest
    else if (simpleEscape? char).isSome then skipString .plain rest
    else .error .malformed
  | .code high left value, char :: rest =>
    if (hexDigit? char).isNone then .error (codeFault left (char :: rest))
    else if 1 < left then skipString (.code high (left - 1) value) rest
    else skipString .plain rest
  | _, char :: rest =>
    if char == '"' then .ok rest
    else if char == '\\' then skipString .escape rest
    else if char.toNat < 0x20 then .error .malformed
    else skipString .plain rest

end SimResults.Json
