import SimResults.Config.Reading
import SimResults.Proofs.FirstSeen
import SimResults.Proofs.JsonText

/-! Settings as JSON text. An object says the same of a configuration whatever the order of its
members, the spelling of its strings and the members that are not known. What a configuration is
written as is such an object. -/

namespace SimResults.Proofs.ConfigText
open Json Config JsonText FirstSeen

section Patterns

theorem insert_toList {patterns : InputPatterns} (distinct : patterns.toList.Nodup) (pattern : String) :
    (patterns.insert pattern).toList = (patterns.toList ++ [pattern]).eraseDups := by
  rw [eraseDups_concat, eraseDups_of_nodup distinct]
  rfl

theorem add_toList {patterns : InputPatterns} (distinct : patterns.toList.Nodup) (more : List String) :
    (patterns.add more).toList = (patterns.toList ++ more).eraseDups := by
  rw [InputPatterns.add]
  induction more generalizing patterns with
  | nil => rw [List.append_nil, eraseDups_of_nodup distinct]; rfl
  | cons pattern more ih =>
    have inserted := insert_toList distinct pattern
    rw [List.foldl_cons, ih (inserted ▸ nodup_eraseDups _), inserted, eraseDups_twice, List.append_assoc]
    rfl

theorem ofList_toList (patterns : List String) : (InputPatterns.ofList patterns).toList = patterns.eraseDups :=
  add_toList List.nodup_nil patterns

end Patterns

section Entries

/-- Entries with commas between them, up to the closing bracket. -/
inductive Separated {α : Type} (entry : α → List Char → Prop) (close : Char) : List α → List Char → Prop
  | last {item : α} {before chars after : List Char} (first : Blank before) (written : entry item chars)
      (second : Blank after) : Separated entry close [item] (before ++ chars ++ after ++ [close])
  | more {item : α} {items : List α} {before chars after behind : List Char} (first : Blank before)
      (written : entry item chars) (second : Blank after) (rest : Separated entry close items behind) :
      Separated entry close (item :: items) (before ++ chars ++ after ++ ',' :: behind)

/-- Entries between brackets, or none. -/
inductive Enclosed {α : Type} (entry : α → List Char → Prop) (start close : Char) : List α → List Char → Prop
  | empty {gap : List Char} (blank : Blank gap) : Enclosed entry start close [] (start :: gap ++ [close])
  | filled {items : List α} {chars : List Char} (separated : Separated entry close items chars) :
      Enclosed entry start close items (start :: chars)

variable {α : Type} {entry : α → List Char → Prop} {start close : Char} {items : List α} {chars : List Char}

private theorem Separated.length_le (separated : Separated entry close items chars) :
    items.length ≤ chars.length := by
  induction separated with
  | last => simp only [List.length_append, List.length_cons, List.length_nil]; omega
  | more _ _ _ _ ih => simp only [List.length_append, List.length_cons]; omega

private theorem separated_intercalate {pieces : List (List Char)} (some : items ≠ [])
    (written : List.Forall₂ entry items pieces) :
    Separated entry close items ([','].intercalate pieces ++ [close]) := by
  induction written with
  | nil => exact absurd rfl some
  | @cons item piece items pieces first rest ih =>
    cases rest with
    | nil => simpa [List.intercalate_singleton] using Separated.last blank_nil first blank_nil
    | cons second rest =>
      have behind := ih (List.cons_ne_nil _ _)
      simpa [List.intercalate_cons_cons] using Separated.more blank_nil first blank_nil behind

private theorem enclosed_intercalate {pieces : List (List Char)} (written : List.Forall₂ entry items pieces) :
    Enclosed entry start close items (start :: [','].intercalate pieces ++ [close]) := by
  cases written with
  | nil => exact .empty blank_nil
  | cons first rest => exact .filled (separated_intercalate (List.cons_ne_nil _ _) (.cons first rest))

/-- Texts and members are quoted, so that no separator is taken for their start. -/
private theorem separated_start (quotes : ∀ item chars, entry item chars → ∃ inside, chars = '"' :: inside)
    (separated : Separated entry close items chars) (rest : List Char) :
    ∃ behind, skipBlank (chars ++ rest) = '"' :: behind := by
  have quote : '"' ∉ blanks := by decide
  cases separated with
  | last first written second =>
    obtain ⟨inside, rfl⟩ := quotes _ _ written
    simp only [List.append_assoc, List.cons_append, skipBlank_gap first quote]
    exact ⟨_, rfl⟩
  | more first written second others =>
    obtain ⟨inside, rfl⟩ := quotes _ _ written
    simp only [List.append_assoc, List.cons_append, skipBlank_gap first quote]
    exact ⟨_, rfl⟩

end Entries

section Texts

variable {gap chars rest : List Char} {text : String} {texts : List String} {fuel : Nat} {first : Bool}

private theorem nextElement_quote {behind : List Char} (starts : skipBlank chars = '"' :: behind) :
    nextElement true chars = .ok (.element ('"' :: behind)) := by
  simp [nextElement, starts]

private theorem nextElement_comma {behind : List Char} (blank : Blank gap)
    (starts : skipBlank chars = '"' :: behind) :
    nextElement false (gap ++ ',' :: chars) = nextElement true chars := by
  have comma : skipBlank (gap ++ ',' :: chars) = ',' :: chars := skipBlank_gap blank (by decide)
  simp [nextElement, comma, starts]

private theorem nextElement_close (blank : Blank gap) :
    nextElement first (gap ++ ']' :: rest) = .ok (.closing (']' :: rest)) := by
  have closes : skipBlank (gap ++ ']' :: rest) = ']' :: rest := skipBlank_gap blank (by decide)
  simp [nextElement, closes]

private theorem quoted_start (quoted : Quoted text chars) : ∃ inside, chars = '"' :: inside := by
  obtain ⟨spelled⟩ := quoted
  exact ⟨_, rfl⟩

private theorem readString_quoted (quoted : Quoted text chars) (rest : List Char) :
    ∃ inside, chars = '"' :: inside ∧ readString (inside ++ rest) = .ok (text, rest) := by
  obtain ⟨spelled⟩ := quoted
  exact ⟨_, rfl, readString_spelled spelled rest⟩

private theorem readText_quoted (blank : Blank gap) (quoted : Quoted text chars) (rest : List Char) :
    readText (gap ++ (chars ++ rest)) = .ok (text, rest) := by
  obtain ⟨inside, rfl, read⟩ := readString_quoted quoted rest
  rw [readText, List.cons_append, skipBlank_gap blank (by decide)]
  exact read

/-- Only what comes next matters to the reading of elements. -/
private theorem readElements_congr {other : Bool} {others : List Char}
    (same : nextElement first chars = nextElement other others) :
    readElements fuel first chars = readElements fuel other others := by
  cases fuel with
  | zero => rfl
  | succ fuel => rw [readElements, readElements, same]

private theorem readElements_close (blank : Blank gap) (rest : List Char) :
    readElements (fuel + 1) first (gap ++ ']' :: rest) = .ok ([], rest) := by
  have closes : skipBlank (']' :: rest) = ']' :: rest := skipBlank_solid (by decide)
  rw [readElements, nextElement_close blank]
  simp [closeArray, closes, bind, Except.bind, pure, Except.pure]

private theorem readElements_quoted (blank : Blank gap) (quoted : Quoted text chars)
    (others : readElements fuel false rest = .ok (texts, behind)) :
    readElements (fuel + 1) true (gap ++ (chars ++ rest)) = .ok (text :: texts, behind) := by
  have read := readText_quoted blank_nil quoted rest
  obtain ⟨inside, rfl, _⟩ := readString_quoted quoted rest
  have starts : skipBlank (gap ++ ('"' :: inside ++ rest)) = '"' :: (inside ++ rest) := skipBlank_gap blank (by decide)
  rw [readElements, nextElement_quote starts]
  simp only [List.nil_append, List.cons_append] at read
  simp [read, others, bind, Except.bind, pure, Except.pure]

private theorem readElements_separated (separated : Separated Quoted ']' texts chars) (enough : texts.length < fuel)
    (rest : List Char) : readElements fuel true (chars ++ rest) = .ok (texts, rest) := by
  induction separated generalizing fuel with
  | @last text before chars after first quoted second =>
    obtain ⟨fuel, rfl⟩ : ∃ others, fuel = others + 2 := ⟨fuel - 2, by simp at enough; omega⟩
    have closed : readElements (fuel + 1) false (after ++ ']' :: rest) = .ok ([], rest) :=
      readElements_close second rest
    simpa using readElements_quoted first quoted closed
  | @more text texts before chars after behind first quoted second separated ih =>
    obtain ⟨fuel, rfl⟩ : ∃ others, fuel = others + 1 := ⟨fuel - 1, by omega⟩
    obtain ⟨_, starts⟩ := separated_start (fun _ _ => quoted_start) separated rest
    have few : texts.length < fuel := by simpa using enough
    have others := (readElements_congr (nextElement_comma second starts)).trans (ih few)
    simpa using readElements_quoted first quoted others

private theorem readTexts_enclosed (blank : Blank gap) (enclosed : Enclosed Quoted '[' ']' texts chars)
    (rest : List Char) :
    readTexts (gap ++ (chars ++ rest)) = .ok (texts, rest) := by
  have bracket : '[' ∉ blanks := by decide
  cases enclosed with
  | @empty inner inside =>
    simpa [readTexts, skipBlank_gap blank bracket] using readElements_close inside rest
  | @filled _ chars separated =>
    have few := separated.length_le
    simpa [readTexts, skipBlank_gap blank bracket] using
      readElements_separated separated (by omega) rest

private theorem readFlag_written (blank : Blank gap) (flag : Bool) (rest : List Char) :
    readFlag (gap ++ (writeFlag flag ++ rest)) = .ok (flag, rest) := by
  have truth : 't' ∉ blanks := by decide
  have falsity : 'f' ∉ blanks := by decide
  cases flag with
  | true => simp [readFlag, writeFlag, skipBlank_gap blank truth, readWord, Except.map]
  | false => simp [readFlag, writeFlag, skipBlank_gap blank falsity, readWord, Except.map]

end Texts

section Members

/-- A setting and the value that it is given. -/
inductive Given
  | tool (program : String)
  | inputs (patterns : List String)
  | allowNonmatching (flag : Bool)
  | requireMatchingInputs (flag : Bool)
deriving DecidableEq

namespace Given

def setting : Given → Setting
  | .tool _ => .tool
  | .inputs _ => .inputs
  | .allowNonmatching _ => .allowNonmatching
  | .requireMatchingInputs _ => .requireMatchingInputs

def apply (config : Config) : Given → Config
  | .tool program => { config with tool := program }
  | .inputs patterns => { config with inputs := .ofList patterns }
  | .allowNonmatching flag => { config with allowNonmatching := flag }
  | .requireMatchingInputs flag => { config with requireMatchingInputs := flag }

end Given

inductive Value : Given → List Char → Prop
  | tool {program : String} {chars : List Char} (quoted : Quoted program chars) : Value (.tool program) chars
  | inputs {patterns : List String} {chars : List Char} (enclosed : Enclosed Quoted '[' ']' patterns chars) :
      Value (.inputs patterns) chars
  | allowNonmatching (flag : Bool) : Value (.allowNonmatching flag) (writeFlag flag)
  | requireMatchingInputs (flag : Bool) : Value (.requireMatchingInputs flag) (writeFlag flag)

/-- A name, a colon and a value. Any value may stand behind a name that is not known. -/
inductive WrittenMember : Option Given → List Char → Prop
  | known {given : Given} {name before after chars : List Char} (named : Quoted given.setting.name name)
      (first : Blank before) (second : Blank after) (written : Value given chars) :
      WrittenMember (some given) (name ++ before ++ ':' :: after ++ chars)
  | unknown {text : String} {name before after chars : List Char} (named : Quoted text name)
      (none : ∀ setting : Setting, setting.name ≠ text) (first : Blank before) (second : Blank after)
      (written : Written .value chars) : WrittenMember .none (name ++ before ++ ':' :: after ++ chars)

/-- A text that gives these settings, each once, with white space and members that are not known
anywhere. -/
inductive Configures : List Given → String → Prop
  | object {members : List (Option Given)} {before chars after : List Char} (first : Blank before)
      (enclosed : Enclosed WrittenMember '\x7b' '\x7d' members chars) (second : Blank after)
      (once : ((members.filterMap id).map Given.setting).Nodup) :
      Configures (members.filterMap id) (String.ofList (before ++ chars ++ after))

variable {given : Given} {gap chars rest : List Char} {config : Config} {members : List (Option Given)}

private theorem readSetting_value (blank : Blank gap) (written : Value given chars) (rest : List Char) :
    readSetting given.setting config (gap ++ (chars ++ rest)) = .ok (given.apply config, rest) := by
  cases written with
  | tool quoted => rw [Given.setting, readSetting, readText_quoted blank quoted]; rfl
  | inputs enclosed => rw [Given.setting, readSetting, readTexts_enclosed blank enclosed]; rfl
  | allowNonmatching flag => rw [Given.setting, readSetting, readFlag_written blank]; rfl
  | requireMatchingInputs flag => rw [Given.setting, readSetting, readFlag_written blank]; rfl

private theorem find_name (setting : Setting) : Setting.all.find? (·.name == setting.name) = some setting := by
  cases setting <;> decide

private theorem find_unknown {text : String} (none : ∀ setting : Setting, setting.name ≠ text) :
    Setting.all.find? (·.name == text) = .none := by
  simpa using fun setting _ => none setting

private theorem readColon_gap (blank : Blank gap) (rest : List Char) : readColon
    (gap ++ ':' :: rest) = .ok rest := by
  have colon : ':' ∉ blanks := by decide
  simp [readColon, skipBlank_gap blank colon]

private theorem nextMember_quote {behind : List Char} (starts : skipBlank chars = '"' :: behind) :
    nextMember true chars = .ok (true, behind) := by
  simp [nextMember, starts]

private theorem nextMember_comma {behind : List Char} (blank : Blank gap)
    (starts : skipBlank chars = '"' :: behind) :
    nextMember false (gap ++ ',' :: chars) = nextMember true chars := by
  have comma : skipBlank (gap ++ ',' :: chars) = ',' :: chars := skipBlank_gap blank (by decide)
  simp [nextMember, comma, starts]

private theorem member_start {member : Option Given} (written : WrittenMember member chars) :
    ∃ inside, chars = '"' :: inside := by
  cases written with
  | known named first second written =>
    obtain ⟨inside, rfl⟩ := quoted_start named
    exact ⟨_, rfl⟩
  | unknown named none first second written =>
    obtain ⟨inside, rfl⟩ := quoted_start named
    exact ⟨_, rfl⟩

variable {fuel : Nat} {first : Bool} {seen : List Setting}

/-- Only what comes next matters to the reading of members. -/
private theorem readMembers_congr {other : Bool} {others : List Char}
    (same : nextMember first chars = nextMember other others) :
    readMembers fuel first seen config chars = readMembers fuel other seen config others := by
  cases fuel with
  | zero => rfl
  | succ fuel => rw [readMembers, readMembers, same]

private theorem readMembers_close (blank : Blank gap) (rest : List Char) :
    readMembers (fuel + 1) first seen config (gap ++ '\x7d' :: rest) = .ok (config, rest) := by
  have closes : skipBlank (gap ++ '\x7d' :: rest) = '\x7d' :: rest := skipBlank_gap blank (by decide)
  simp [readMembers, nextMember, closes, bind, Except.bind, pure, Except.pure]

private theorem readMembers_known (blank : Blank gap) (written : WrittenMember (some given) chars)
    (new : given.setting ∉ seen)
    (rest : List Char) : readMembers (fuel + 1) true seen config (gap ++ (chars ++ rest)) =
      readMembers fuel false (given.setting :: seen) (given.apply config) rest := by
  cases written with
  | @known _ name before after chars named first second written =>
    obtain ⟨inside, rfl, read⟩ := readString_quoted named (before ++ ':' :: (after ++ (chars ++ rest)))
    have starts : skipBlank (gap ++ '"' :: (inside ++ (before ++ ':' :: (after ++ (chars ++ rest))))) =
        '"' :: (inside ++ (before ++ ':' :: (after ++ (chars ++ rest)))) := skipBlank_gap blank (by decide)
    have value : readSetting given.setting config (after ++ (chars ++ rest)) = .ok (given.apply config, rest) :=
      readSetting_value second written rest
    simp [readMembers, nextMember_quote starts, read, find_name, new, readColon_gap first, value, bind, Except.bind]

private theorem readMembers_unknown (blank : Blank gap) (written : WrittenMember none chars) (ends : Ends rest) :
    readMembers (fuel + 1) true seen config (gap ++ (chars ++ rest)) = readMembers fuel false seen config rest := by
  cases written with
  | @unknown _ name before after chars named none first second written =>
    obtain ⟨inside, rfl, read⟩ := readString_quoted named (before ++ ':' :: (after ++ (chars ++ rest)))
    have starts : skipBlank (gap ++ '"' :: (inside ++ (before ++ ':' :: (after ++ (chars ++ rest))))) =
        '"' :: (inside ++ (before ++ ':' :: (after ++ (chars ++ rest)))) := skipBlank_gap blank (by decide)
    have passed := skipValue_written written second ends
    simp [readMembers, nextMember_quote starts, read, find_unknown none, readColon_gap first, passed, bind, Except.bind]

/-- The settings that members give, in order. -/
def settle (config : Config) (members : List (Option Given)) : Config :=
  (members.filterMap id).foldl Given.apply config

/-- One member gives its setting to what is read behind it, if it gives one. -/
private theorem readMembers_member {member : Option Given} (blank : Blank gap)
    (written : WrittenMember member chars)
    (ends : Ends rest) (new : ∀ given ∈ member, given.setting ∉ seen) :
    readMembers (fuel + 1) true seen config (gap ++ (chars ++ rest)) =
      readMembers fuel false ((member.toList.map Given.setting) ++ seen) (settle config [member]) rest := by
  cases member with
  | none => exact readMembers_unknown blank written ends
  | some given => exact readMembers_known blank written (new given rfl) rest

private theorem readMembers_separated (separated : Separated WrittenMember '\x7d' members chars)
    (enough : members.length < fuel)
    (once : ((members.filterMap id).map Given.setting ++ seen).Nodup) (rest : List Char) :
    readMembers fuel true seen config (chars ++ rest) = .ok (settle config members, rest) := by
  induction separated generalizing fuel seen config with
  | @last member before chars after first written second =>
    obtain ⟨fuel, rfl⟩ : ∃ others, fuel = others + 2 := ⟨fuel - 2, by simp at enough; omega⟩
    have new : ∀ given ∈ member, given.setting ∉ seen := by
      rintro given rfl
      simpa using (List.nodup_cons.mp once).1
    have ends : Ends (after ++ '\x7d' :: rest) := ends_gap second (by decide) rest
    calc
      _ = readMembers (fuel + 2) true seen config (before ++ (chars ++ (after ++ '\x7d' :: rest))) := by simp
      _ = readMembers (fuel + 1) false (member.toList.map Given.setting ++ seen) (settle config [member])
            (after ++ '\x7d' :: rest) := readMembers_member first written ends new
      _ = .ok (settle config [member], rest) := readMembers_close second rest
  | @more member members before chars after behind first written second separated ih =>
    obtain ⟨fuel, rfl⟩ : ∃ others, fuel = others + 1 := ⟨fuel - 1, by omega⟩
    have ends : Ends (after ++ ',' :: (behind ++ rest)) := ends_gap second (by decide) _
    obtain ⟨_, starts⟩ := separated_start (fun _ _ => member_start) separated rest
    have ahead := nextMember_comma second starts
    have few : members.length < fuel := by simpa using enough
    obtain ⟨new, others⟩ : (∀ given ∈ member, given.setting ∉ seen) ∧
        ((members.filterMap id).map Given.setting ++ (member.toList.map Given.setting ++ seen)).Nodup := by
      cases member with
      | none => exact ⟨nofun, once⟩
      | some given =>
        refine ⟨?_, List.nodup_middle.mpr once⟩
        intro other same inside
        obtain rfl : given = other := Option.some.inj same
        exact (List.nodup_cons.mp once).1 (List.mem_append_right _ inside)
    calc
      _ = readMembers (fuel + 1) true seen config (before ++ (chars ++ (after ++ ',' :: (behind ++ rest)))) := by simp
      _ = readMembers fuel false (member.toList.map Given.setting ++ seen) (settle config [member])
            (after ++ ',' :: (behind ++ rest)) := readMembers_member first written ends new
      _ = readMembers fuel true (member.toList.map Given.setting ++ seen) (settle config [member]) (behind ++ rest) :=
        readMembers_congr ahead
      _ = .ok (settle (settle config [member]) members, rest) := ih few others
      _ = .ok (settle config (member :: members), rest) := by cases member <;> rfl

private theorem readObject_enclosed (enclosed : Enclosed WrittenMember '\x7b' '\x7d' members chars)
    (once : ((members.filterMap id).map Given.setting).Nodup) (rest : List Char) :
    ∃ inside, chars = '\x7b' :: inside ∧
      readMembers ((inside ++ rest).length + 1) true [] {} (inside ++ rest) = .ok (settle {} members, rest) := by
  cases enclosed with
  | @empty gap blank => exact ⟨_, rfl, by simpa [settle] using readMembers_close blank rest⟩
  | @filled _ chars separated =>
    have few := separated.length_le
    have enough : members.length < (chars ++ rest).length + 1 := by
      rw [List.length_append]
      omega
    exact ⟨chars, rfl, readMembers_separated separated enough (by simpa using once) rest⟩

/-- A text that gives settings is read into them. -/
theorem ofText_configures {givens : List Given} {text : String} (configures : Configures givens text) :
    Config.ofText text = .ok (givens.foldl Given.apply {}) := by
  cases configures with
  | @object members before chars after first enclosed second once =>
    obtain ⟨inside, rfl, read⟩ := readObject_enclosed enclosed once after
    have bracket : '\x7b' ∉ blanks := by decide
    have trailing : skipBlank after = [] := by simpa [skipBlank] using skipBlank_append second []
    rw [Config.ofText, ofChars, String.toList_ofList, List.append_assoc, List.cons_append,
      skipBlank_gap first bracket]
    simp only [read, trailing, bind, Except.bind, pure, Except.pure]
    rfl

end Members

section Settings

/-- The value of a setting in some configuration. -/
def valueOf (config : Config) : Setting → Given
  | .tool => .tool config.tool
  | .inputs => .inputs config.inputs.toList
  | .allowNonmatching => .allowNonmatching config.allowNonmatching
  | .requireMatchingInputs => .requireMatchingInputs config.requireMatchingInputs

/-- The value that a setting takes. Of input patterns, the first of each is kept. -/
def settled : Given → Given
  | .inputs patterns => .inputs patterns.eraseDups
  | given => given

variable {config : Config} {givens : List Given} {given : Given} {setting : Setting}

private theorem valueOf_ext {other : Config} (same : ∀ setting, valueOf config setting = valueOf other setting) :
    config = other := by
  obtain ⟨program, ⟨patterns⟩, allow, require⟩ := config
  obtain ⟨program', ⟨patterns'⟩, allow', require'⟩ := other
  obtain rfl := Given.tool.inj (same .tool)
  obtain rfl := Given.inputs.inj (same .inputs)
  obtain rfl := Given.allowNonmatching.inj (same .allowNonmatching)
  obtain rfl := Given.requireMatchingInputs.inj (same .requireMatchingInputs)
  rfl

private theorem valueOf_setting (config : Config) (setting : Setting) :
    (valueOf config setting).setting = setting := by
  cases setting <;> rfl

private theorem valueOf_apply (config : Config) (given : Given) :
    valueOf (given.apply config) given.setting = settled given := by
  cases given with
  | inputs patterns => exact congrArg Given.inputs (ofList_toList patterns)
  | _ => rfl

private theorem valueOf_apply_other (other : setting ≠ given.setting) :
    valueOf (given.apply config) setting = valueOf config setting := by
  cases given <;> cases setting <;> first | rfl | exact absurd rfl other

private theorem valueOf_absent (absent : setting ∉ givens.map Given.setting) :
    valueOf (givens.foldl Given.apply config) setting = valueOf config setting := by
  induction givens generalizing config with
  | nil => rfl
  | cons given givens ih =>
    rw [List.map_cons, List.mem_cons, not_or] at absent
    rw [List.foldl_cons, ih absent.2, valueOf_apply_other absent.1]

theorem valueOf_given (once : (givens.map Given.setting).Nodup) (member : given ∈ givens) :
    valueOf (givens.foldl Given.apply config) given.setting = settled given := by
  induction givens generalizing config with
  | nil => cases member
  | cons first givens ih =>
    obtain ⟨apart, others⟩ := List.nodup_cons.mp once
    rw [List.foldl_cons]
    cases member with
    | head => rw [valueOf_absent apart, valueOf_apply]
    | tail _ behind => exact ih others behind

end Settings

section Writing

private theorem hexDigit_hexDigit : ∀ value < 16, hexDigit? (hexDigit value) = some value := by decide

/-- Control characters are written as codes. -/
private theorem spells_control {char : Char} (control : char.toNat < 0x20) :
    Spells char ['\\', 'u', '0', '0', hexDigit (char.toNat / 16), hexDigit (char.toNat % 16)] := by
  have zero : hexDigit? '0' = some 0 := by decide
  have coded := Coded.digits zero zero (hexDigit_hexDigit (char.toNat / 16) (by omega))
    (hexDigit_hexDigit (char.toNat % 16) (by omega))
  have value : ((0 * 16 + 0) * 16 + char.toNat / 16) * 16 + char.toNat % 16 = char.toNat := by omega
  rw [value] at coded
  have spells := Spells.code coded (by omega)
  rwa [Char.ofNat_toNat] at spells

private theorem spells_escaped (char : Char) : Spells char (escaped char) := by
  fun_cases escaped char with
  | case8 char control =>
    rw [if_pos control]
    exact spells_control control
  | case9 char printed unquoted unescaped =>
    rw [if_neg printed]
    exact .plain unquoted unescaped printed
  | _ => exact .short rfl

private theorem spelled_escaped (text : List Char) : Spelled text (text.flatMap escaped ++ ['"']) := by
  induction text with
  | nil => exact .close
  | cons char text ih =>
    rw [List.flatMap_cons, List.append_assoc]
    exact .char (spells_escaped char) ih

private theorem quoted_writeString (text : String) : Quoted text (writeString text) := .quotes
    (spelled_escaped text.toList)

private theorem enclosed_writeTexts (texts : List String) : Enclosed Quoted '[' ']' texts (writeTexts texts) := by
  refine enclosed_intercalate ?_
  rw [List.forall₂_map_right_iff, List.forall₂_same]
  exact fun text _ => quoted_writeString text

private theorem value_writeValue (config : Config) (setting : Setting) :
    Value (valueOf config setting) (config.writeValue setting) := by
  cases setting with
  | tool => exact .tool (quoted_writeString config.tool)
  | inputs => exact .inputs (enclosed_writeTexts config.inputs.toList)
  | allowNonmatching => exact .allowNonmatching config.allowNonmatching
  | requireMatchingInputs => exact .requireMatchingInputs config.requireMatchingInputs

private theorem member_written (config : Config) (setting : Setting) : WrittenMember (some (valueOf config setting))
    (writeString setting.name ++ ':' :: config.writeValue setting) := by
  have named := quoted_writeString (valueOf config setting).setting.name
  have written := WrittenMember.known named blank_nil blank_nil (value_writeValue config setting)
  rw [valueOf_setting] at written
  simpa using written

/-- What a configuration is written as gives its settings. -/
theorem configures_toText (config : Config) : Configures (Setting.all.map (valueOf config)) config.toText := by
  have written : List.Forall₂ WrittenMember (Setting.all.map (some <| valueOf config ·))
      (Setting.all.map fun setting => writeString setting.name ++ ':' :: config.writeValue setting) := by
    rw [List.forall₂_map_left_iff, List.forall₂_map_right_iff, List.forall₂_same]
    exact fun setting _ => member_written config setting
  have givens : (Setting.all.map (some <| valueOf config ·)).filterMap id = Setting.all.map (valueOf config) := rfl
  have settings : (Setting.all.map (valueOf config)).map Given.setting = Setting.all := rfl
  have once : ((Setting.all.map (valueOf config)).map Given.setting).Nodup := by
    rw [settings]
    decide
  rw [← givens] at once ⊢
  have configured := Configures.object blank_nil (enclosed_intercalate written) blank_nil once
  simpa [toText] using configured

end Writing

/-- What is written of a configuration is read back as it was. Whatever way an object gives settings,
each that it gives takes the value that it is given, in which no pattern is repeated, and each other
keeps its default. -/
theorem config_text_reads :
    (∀ config : Config, config.inputs.toList.Nodup → Config.ofText config.toText = .ok config) ∧
    ∀ givens text, Configures givens text → ∃ config, Config.ofText text = .ok config ∧
      (∀ patterns, .inputs patterns ∈ givens → config.inputs.toList = patterns.eraseDups) ∧
      (∀ given ∈ givens, valueOf config given.setting = settled given) ∧
      ∀ setting ∉ givens.map Given.setting, valueOf config setting = valueOf {} setting := by
  have read : ∀ givens text, Configures givens text → ∃ config, Config.ofText text = .ok config ∧
      (∀ given ∈ givens, valueOf config given.setting = settled given) ∧
      ∀ setting ∉ givens.map Given.setting, valueOf config setting = valueOf {} setting := by
    intro givens text configures
    refine ⟨_, ofText_configures configures, ?_, fun _ absent => valueOf_absent absent⟩
    obtain ⟨_, _, _, once⟩ := configures
    exact fun given member => valueOf_given once member
  constructor
  · intro config distinct
    obtain ⟨result, came, given, _⟩ := read _ _ (configures_toText config)
    have same : result = config := by
      refine valueOf_ext fun setting => ?_
      have value := given (valueOf config setting) (List.mem_map_of_mem (by cases setting <;> decide))
      rw [valueOf_setting] at value
      rw [value]
      cases setting with
      | inputs => exact congrArg Given.inputs (eraseDups_of_nodup distinct)
      | _ => rfl
    rw [came, same]
  · intro givens text configures
    obtain ⟨config, came, given, absent⟩ := read givens text configures
    refine ⟨config, came, ?_, given, absent⟩
    exact fun patterns member => Given.inputs.inj (given _ member)

/-- One pattern twice, once with an escape, behind a member that is not known. -/
def spelledText : String := "\x7b\"extra\": [0],\n\"inputs\": [\"r/*\", \"r\\u002f*\"]\x7d"

private theorem quoted_code : Quoted "r/*" "\"r\\u002f*\"".toList := by
  have slash : Coded ['0', '0', '2', 'f'] 0x2f := @Coded.digits _ _ _ _ 0 0 2 15 rfl rfl rfl rfl
  have letter : Spells 'r' ['r'] := .plain (by decide) (by decide) (by decide)
  have star : Spells '*' ['*'] := .plain (by decide) (by decide) (by decide)
  exact .quotes (.char letter (.char (.code slash (by decide)) (.char star .close)))

theorem configures_spelled : Configures [.inputs ["r/*", "r/*"]] spelledText := by
  have space : Blank [' '] := by simp [Blank, blanks]
  have line : Blank ['\n'] := by simp [Blank, blanks]
  have zero : Written .value ['0'] := .scalar (.number (.parts .zero .absent .absent))
  have list : Written .value "[0]".toList := .filled (@Written.last .list _ _ _ (.position blank_nil) zero blank_nil)
  have apart : ∀ setting : Config.Setting, setting.name ≠ "extra" := by intro setting; cases setting <;> decide
  have extra := WrittenMember.unknown (quoted_writeString "extra") apart blank_nil space list
  have patterns : Enclosed Quoted '[' ']' ["r/*", "r/*"] "[\"r/*\", \"r\\u002f*\"]".toList :=
    .filled (.more blank_nil (quoted_writeString "r/*") blank_nil (.last space quoted_code blank_nil))
  have inputs := @WrittenMember.known (.inputs ["r/*", "r/*"]) _ _ _ _ (quoted_writeString "inputs") blank_nil space
    (.inputs patterns)
  have members : Enclosed WrittenMember '\x7b' '\x7d' [none, some (.inputs ["r/*", "r/*"])] spelledText.toList :=
    .filled (.more blank_nil extra blank_nil (.last line inputs blank_nil))
  exact Configures.object blank_nil members blank_nil (by decide)

/-- Quotes, backslashes, control characters and text beyond ASCII. -/
def awkward : Config := { tool := "a\"b\\\n\x01ä𝄞", inputs := ⟨["", "\t"]⟩, allowNonmatching := false }

theorem config_text_reads_spelled :
    Config.ofText awkward.toText = .ok awkward ∧
    ∃ config, Config.ofText spelledText = .ok config ∧ config.inputs.toList = ["r/*"] ∧
      config.tool = defaultTool ∧ config.allowNonmatching = true := by
  obtain ⟨written, read⟩ := config_text_reads
  obtain ⟨config, came, patterns, _, absent⟩ := read _ _ configures_spelled
  refine ⟨written _ (by decide), config, came, (patterns _ (List.mem_singleton_self _)).trans (by decide), ?_, ?_⟩
  · exact Given.tool.inj (absent .tool (by decide))
  · exact Given.allowNonmatching.inj (absent .allowNonmatching (by decide))

end SimResults.Proofs.ConfigText
