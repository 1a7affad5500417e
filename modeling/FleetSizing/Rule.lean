import FleetSizing.Error
import FleetSizing.Pattern.Automaton
import FleetSizing.Shape

/-! Rules that allow, deny or prefer shapes. -/
namespace FleetSizing

inductive RuleAction where
  | allow | deny | prioritize
  deriving DecidableEq, Repr, Inhabited

def RuleAction.all : List RuleAction := [.allow, .deny, .prioritize]

def RuleAction.name : RuleAction → String
  | allow => "allow" | deny => "deny" | prioritize => "prioritize"

inductive RuleCondition where
  | contains | notContains | equals | matches | notMatches
  deriving DecidableEq, Repr, Inhabited

def RuleCondition.all : List RuleCondition :=
  [.contains, .notContains, .equals, .matches, .notMatches]

def RuleCondition.name : RuleCondition → String
  | contains => "contains" | notContains => "not_contains" | equals => "equals"
  | .matches => "matches" | notMatches => "not_matches"

/-- The attribute of a shape that a rule inspects. -/
inductive RuleField where
  | name | family | processor | architecture
  deriving DecidableEq, Repr, Inhabited

def RuleField.all : List RuleField := [.name, .family, .processor, .architecture]

def RuleField.key : RuleField → String
  | name => "name" | family => "family_type" | processor => "physical_processor"
  | architecture => "architecture"

def RuleField.of {α : Type} (s : Shape α) : RuleField → String
  | name => s.name
  | family => s.family
  | processor => s.processor
  | architecture => s.architecture

/-- A rule as its author wrote it. -/
structure Rule where
  id : String
  cloud : Cloud
  action : RuleAction
  condition : RuleCondition
  field : RuleField
  value : String
  deriving DecidableEq, Repr, Inhabited

/-- The regular expression of a wildcard: a dot stands for itself, a star for any characters. -/
def wildcardBody (value : List Char) : List Char :=
  value.flatMap fun c => if c = '.' then ['\\', '.'] else if c = '*' then ['.', '+'] else [c]

/-- The expression anchored at the start of the text. -/
def wildcard (value : List Char) : List Char := '^' :: wildcardBody value

/-- Whether some text occurs in another. -/
def occursIn (needle : List Char) : List Char → Bool
  | [] => needle.isEmpty
  | c :: cs => needle.isPrefixOf (c :: cs) || occursIn needle cs

def containsText (text needle : String) : Bool := occursIn needle.toList text.toList

/-- A condition ready for use. -/
inductive Matcher where
  | contains (needle : String)
  | notContains (needle : String)
  | equals (expected : String)
  | matches (p : Pattern)
  | notMatches (p : Pattern)
  deriving DecidableEq, Repr, Inhabited

/-- Plain text compares without case. -/
def Matcher.accepts (text : String) : Matcher → Bool
  | contains needle => containsText (Unicode.toLower text) needle
  | notContains needle => !containsText (Unicode.toLower text) needle
  | equals expected => Unicode.toLower text == expected
  | .matches p => p.isMatch text
  | notMatches p => !p.isMatch text

/-- A rule ready for use. -/
structure CompiledRule where
  id : String
  cloud : Cloud
  action : RuleAction
  field : RuleField
  matcher : Matcher
  deriving DecidableEq, Repr, Inhabited

namespace CompiledRule

variable {α : Type}

def accepts (r : CompiledRule) (s : Shape α) : Bool := r.matcher.accepts (r.field.of s)

end CompiledRule

namespace Rule

variable (r : Rule) (compiler : Pattern.Compiler)

/-- None if the pattern is refused. -/
def matcher? : Option Matcher :=
  match r.condition with
  | .contains => some (.contains (Unicode.toLower r.value))
  | .notContains => some (.notContains (Unicode.toLower r.value))
  | .equals => some (.equals (Unicode.toLower r.value))
  | .matches => (compiler.compile? (wildcard r.value.toList)).map .matches
  | .notMatches => (compiler.compile? (wildcard r.value.toList)).map .notMatches

/-- The fault of a rule whose pattern is refused, with the reason where there is one. -/
def refusal : EngineError :=
  .configuration <| "rule " ++ r.id ++ " has an invalid pattern" ++
    (compiler.reason? (wildcard r.value.toList)).elim "" (": " ++ ·)

def compile : Except EngineError CompiledRule :=
  match r.matcher? compiler with
  | some matcher => .ok { id := r.id, cloud := r.cloud, action := r.action, field := r.field, matcher }
  | none => .error (r.refusal compiler)

end Rule

/-- The rules of a policy, in order. -/
abbrev RuleSet := List CompiledRule

namespace RuleSet

/-- Fails at the first rule that does not compile. -/
def compile (rules : List Rule) (compiler : Pattern.Compiler := .standard) :
    Except EngineError RuleSet :=
  rules.mapM (Rule.compile · compiler)

/-- The rules of one action for one cloud. -/
def stage (rules : RuleSet) (action : RuleAction) (cloud : Cloud) : List CompiledRule :=
  rules.filter fun r => r.action == action && r.cloud == cloud

end RuleSet

end FleetSizing
