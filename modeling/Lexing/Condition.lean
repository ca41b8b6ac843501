import Lexing.Literal

/-! # Options of a conditional literal

A conditional literal matches only if a second set of literals is present, or absent, next to it.
Four flags say how both sets are looked up; in a byte of options each flag is one bit.
-/

namespace Lexing

/-- The flags of a conditional literal, in the order of their bits. -/
inductive ConditionFlag
  | matchIgnoresCase
  | conditionIgnoresCase
  | conditionPrecedes
  | conditionNegated
deriving DecidableEq, Repr

namespace ConditionFlag

/-- The name a flag is listed under. -/
def label : ConditionFlag → String
  | matchIgnoresCase => "MATCH_CASE_INSENSITIVE"
  | conditionIgnoresCase => "CONDITION_CASE_INSENSITIVE"
  | conditionPrecedes => "CONDITION_PRECEDING"
  | conditionNegated => "NEGATE_CONDITION"

end ConditionFlag

/-- How a conditional literal looks up its literals and its condition. -/
structure ConditionOptions where
  /-- Case does not count for the literals themselves. -/
  matchIgnoresCase : Bool := false
  /-- Case does not count for the condition. -/
  conditionIgnoresCase : Bool := false
  /-- The condition is looked for right before the token, not at its start. -/
  conditionPrecedes : Bool := false
  /-- The condition has to be absent. -/
  conditionNegated : Bool := false
deriving DecidableEq, Repr

namespace ConditionOptions

/-- The options whose flags are the bits of a number; `none` if it has any other bit. -/
def ofBits? (bits : Nat) : Option ConditionOptions :=
  if bits < 16 then some ⟨bits.testBit 0, bits.testBit 1, bits.testBit 2, bits.testBit 3⟩ else none

/-- Whether a flag is set. -/
def has (options : ConditionOptions) : ConditionFlag → Bool
  | .matchIgnoresCase => options.matchIgnoresCase
  | .conditionIgnoresCase => options.conditionIgnoresCase
  | .conditionPrecedes => options.conditionPrecedes
  | .conditionNegated => options.conditionNegated

/-- The flags that are set, in the order of their bits. -/
def flags (options : ConditionOptions) : List ConditionFlag :=
  [.matchIgnoresCase, .conditionIgnoresCase, .conditionPrecedes, .conditionNegated].filter
    options.has

/-- The case mode for the literals. -/
def matchMode (options : ConditionOptions) : CaseMode := .ignoring options.matchIgnoresCase

/-- The lookup for the condition. -/
def conditionLookup (options : ConditionOptions) : Lookup where
  side := if options.conditionPrecedes then .behind else .ahead
  mode := .ignoring options.conditionIgnoresCase

end ConditionOptions

end Lexing
