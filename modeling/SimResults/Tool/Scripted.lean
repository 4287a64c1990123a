import SimResults.Tool.Basic

/-! A tool that follows a script: rules that say what to answer to which arguments. -/

namespace SimResults

structure Rule where
  /-- Words that all have to occur among the arguments. -/
  words : List String := []
  answer : Except Failure Output
  /-- Whether the rule applies once only. -/
  once : Bool := false

def Rule.applies (rule : Rule) (arguments : List String) : Bool := rule.words.all arguments.contains

/-- Answers by the first rule that applies, and with success and no output if none does. A rule
that applies once is gone after that. -/
def Tool.scripted : Tool (List Rule) := fun arguments rules =>
  match rules.findIdx? (·.applies arguments) with
  | none => (.ok {}, rules)
  | some index =>
    match rules[index]? with
    | none => (.ok {}, rules)
    | some rule => (rule.answer, if rule.once then rules.eraseIdx index else rules)

end SimResults
