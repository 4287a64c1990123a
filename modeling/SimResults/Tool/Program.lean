import SimResults.Tool.Basic

/-! Programs that may be configured in place of the extraction tool, to see its arguments or to
do without it. No other program is installed. -/

namespace SimResults

open Text

inductive Program
  | echo
  | printf
  | succeed
  | fail
deriving DecidableEq, Repr

namespace Program

def ofName? : String → Option Program
  | "echo" => some .echo
  | "printf" => some .printf
  | "true" => some .succeed
  | "false" => some .fail
  | _ => none

/-- Programs go by their name, or by a path that ends in it. -/
def ofPath? (path : String) : Option Program :=
  match pathParts path with
  | [name] | ["", "bin", name] | ["", "usr", "bin", name] => ofName? name
  | _ => none

/-- What a format gives with some arguments, the arguments left over, and whether it used any. -/
def format : List Char → List String → List Char × List String × Bool
  | '%' :: '%' :: rest, arguments =>
    let (text, left, used) := format rest arguments
    ('%' :: text, left, used)
  | '%' :: 's' :: rest, arguments =>
    let (text, left, _) := format rest arguments.tail
    ((arguments.headD "").toList ++ text, left, true)
  | '\\' :: 'n' :: rest, arguments =>
    let (text, left, used) := format rest arguments
    ('\n' :: text, left, used)
  | '\\' :: 't' :: rest, arguments =>
    let (text, left, used) := format rest arguments
    ('\t' :: text, left, used)
  | '\\' :: '\\' :: rest, arguments =>
    let (text, left, used) := format rest arguments
    ('\\' :: text, left, used)
  | char :: rest, arguments =>
    let (text, left, used) := format rest arguments
    (char :: text, left, used)
  | [], arguments => ([], arguments, false)

/-- A format that uses arguments is repeated until none is left, at most `fuel` times more. -/
def formatAll (form : List Char) (arguments : List String) : (fuel : Nat) → List Char
  | 0 => (format form arguments).1
  | fuel + 1 =>
    let (text, left, used) := format form arguments
    if used && !left.isEmpty then text ++ formatAll form left fuel else text

def run : Program → List String → Output
  | .echo, "-n" :: arguments => { stdout := encode (" ".intercalate arguments) }
  | .echo, arguments => { stdout := encode (" ".intercalate arguments ++ "\n") }
  | .printf, [] =>
    { exitCode := some 1
      stderr := encode "printf: missing operand\nTry 'printf --help' for more information.\n" }
  | .printf, form :: arguments =>
    { stdout := encode (String.ofList (formatAll form.toList arguments arguments.length)) }
  | .succeed, _ => {}
  | .fail, _ => { exitCode := some 1 }

/-- Why a path names no program: nothing is there, or a file that is not to be run. -/
def missing (files : FileTree) (path : String) : FileFault :=
  if path.toList.contains '/' then
    match files.locate path with
    | .ok _ => .notPermitted
    | .error fault => fault
  else if 255 < path.utf8ByteSize then .nameTooLong
  else .notFound

end Program

/-- Runs a program by its name or path. No text with a NUL can be handed to a program. -/
def Tool.program (files : FileTree) (path : String) : Tool Unit := fun arguments => do
  if (path :: arguments).any (·.toList.contains '\x00') then return .error (.io .nulInArgument)
  match Program.ofPath? path with
  | some program => return .ok (program.run arguments)
  | none => return .error (.io (Program.missing files path))

end SimResults
