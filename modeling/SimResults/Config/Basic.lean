import SimResults.Config.InputPatterns
import SimResults.Json.Quoted
import SimResults.Text.Quoted

/-! Settings of a session, and how they are written: as JSON text, and for diagnosis. -/

namespace SimResults

/-- The extraction program unless another is configured. -/
def defaultTool : String := "opp_scavetool"

structure Config where
  tool : String := defaultTool
  inputs : InputPatterns := {}
  /-- Asks the tool for empty output where a filter matches nothing. -/
  allowNonmatching : Bool := true
  /-- Fails a query before the tool runs if some input pattern finds no file. -/
  requireMatchingInputs : Bool := false
deriving DecidableEq, Repr, Inhabited

namespace Config

/-- The settings in the order in which they are written. -/
inductive Setting
  | tool
  | inputs
  | allowNonmatching
  | requireMatchingInputs
deriving DecidableEq, Repr

def Setting.name : Setting → String
  | .tool => "tool"
  | .inputs => "inputs"
  | .allowNonmatching => "allow_nonmatching"
  | .requireMatchingInputs => "require_matching_inputs"

def Setting.all : List Setting := [.tool, .inputs, .allowNonmatching, .requireMatchingInputs]

def writeFlag (flag : Bool) : List Char := if flag then "true".toList else "false".toList

def writeTexts (texts : List String) : List Char :=
  '[' :: [','].intercalate (texts.map Json.writeString) ++ [']']

def writeValue (config : Config) : Setting → List Char
  | .tool => Json.writeString config.tool
  | .inputs => writeTexts config.inputs.toList
  | .allowNonmatching => writeFlag config.allowNonmatching
  | .requireMatchingInputs => writeFlag config.requireMatchingInputs

/-- Compact JSON: one object with every setting. -/
def toText (config : Config) : String :=
  let members := Setting.all.map fun setting =>
    Json.writeString setting.name ++ ':' :: config.writeValue setting
  String.ofList ('\x7b' :: [','].intercalate members ++ ['\x7d'])

/-- The settings by name, for diagnosis. -/
def describe (config : Config) : String :=
  "SessionConfig \x7b tool: " ++ Text.quotedPath config.tool ++
    ", inputs: InputPatterns(" ++ Text.quotedList config.inputs.toList ++
    s!"), allow_nonmatching: {config.allowNonmatching}" ++
    s!", require_matching_inputs: {config.requireMatchingInputs}" ++ " \x7d"

end Config

end SimResults
