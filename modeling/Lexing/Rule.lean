import Lexing.Recognizer

/-! # Rules

A rule gives a kind of token its name. Most rules come with a recognizer, and the tokens of some of
these are dropped from the stream. A virtual rule has no recognizer: it reserves a kind for tokens
that a grammar makes itself. In a list of rules no kind and no name occurs twice, the kind of
unrecognized characters does not occur at all, and virtual rules come last.
-/

namespace Lexing

/-- What a rule does. -/
inductive Rule.Action
  /-- Recognize tokens; if they are ignored, their text is passed and no token comes of it. -/
  | recognize (recognizer : Recognizer) (ignored : Bool)
  /-- Only reserve the kind. -/
  | reserve

/-- A kind of token with its name. -/
structure Rule where
  kind : Kind
  name : String
  action : Rule.Action

namespace Rule

/-- A rule whose tokens are kept. -/
def keep (kind : Kind) (name : String) (recognizer : Recognizer) : Rule :=
  ⟨kind, name, .recognize recognizer false⟩

/-- A rule without a recognizer. -/
def virtual (kind : Kind) (name : String) : Rule := ⟨kind, name, .reserve⟩

/-- The same rule with its tokens dropped from the stream. -/
def ignored (rule : Rule) : Rule :=
  match rule.action with
  | .recognize recognizer _ => { rule with action := .recognize recognizer true }
  | .reserve => rule

def recognizer? (rule : Rule) : Option Recognizer :=
  match rule.action with
  | .recognize recognizer _ => some recognizer
  | .reserve => none

def isVirtual (rule : Rule) : Bool := rule.recognizer?.isNone

/-- Whether tokens of this kind are left out of the stream; those of a virtual rule always are. -/
def isIgnored (rule : Rule) : Bool :=
  match rule.action with
  | .recognize _ ignored => ignored
  | .reserve => true

/-- A rule with its fields shown, for names of plain ASCII. -/
def describe? (rule : Rule) : Option String :=
  if rule.name.toList.all Text.isPlain then
    let kind := rule.kind.describe
    let name := Text.display '"' rule.name.toList
    let recognizer := if rule.isVirtual then "None" else "Some(Extractor \x7b .. \x7d)"
    let ignored := if rule.isIgnored then "true" else "false"
    some <| s!"TokenDefinition \x7b kind: {kind}, name: {name}, extractor: {recognizer}, " ++
      s!"ignored: {ignored} \x7d"
  else none

end Rule

/-- Why a list of rules is rejected. -/
inductive RuleError
  /-- A rule uses the kind of unrecognized characters. -/
  | reservedKind (name : String)
  /-- Two rules have the same kind. -/
  | duplicateKind (kind : Kind) (first second : String)
  /-- Two rules have the same name. -/
  | duplicateName (name : String)
  /-- A rule with a recognizer comes after a virtual one. -/
  | recognizerAfterVirtual (name virtualName : String)
deriving DecidableEq

/-- The wording of a rejection. -/
def RuleError.message : RuleError → String
  | reservedKind name =>
    let reserved := Kind.unknown.decimal
    s!"token `{name}` uses the reserved type {reserved}"
  | duplicateKind kind first second =>
    let number := kind.decimal
    s!"token type {number} is defined twice (`{first}` and `{second}`)"
  | duplicateName name => s!"token name `{name}` is defined twice"
  | recognizerAfterVirtual name virtualName =>
    s!"token `{name}` has an extractor but follows virtual token `{virtualName}`"

namespace Rule

/-- What is wrong with a rule that follows the rules `earlier`: the first of the four reasons that
applies. -/
def problem? (earlier : List Rule) (rule : Rule) : Option RuleError :=
  if rule.kind.isUnknown then some (.reservedKind rule.name)
  else
    match earlier.find? (·.kind == rule.kind) with
    | some first => some (.duplicateKind rule.kind first.name rule.name)
    | none =>
      if earlier.any (·.name == rule.name) then some (.duplicateName rule.name)
      else if rule.isVirtual then none
      else (earlier.find? isVirtual).map fun first => .recognizerAfterVirtual rule.name first.name

/-- Check rules one after the other, each against those before it. -/
def check (earlier : List Rule) : List Rule → Except RuleError Unit
  | [] => .ok ()
  | rule :: rest =>
    match rule.problem? earlier with
    | some error => .error error
    | none => check (earlier ++ [rule]) rest

end Rule

end Lexing
