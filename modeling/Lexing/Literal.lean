import Lexing.Text.Case

/-! # Literals and how they are looked up

A literal is looked for on one side of the token in progress, with or without regard to case. A
`Lookup` names both choices and resolves into a `Matcher`, the function that does the comparing.
A set of literals keeps the order it was declared in, and the first literal that matches wins, so a
longer literal has to stand before its own beginnings.
-/

namespace Lexing

/-- The side of the token in progress that a literal is compared with. -/
inductive Side
  /-- The text from the next untested character on. -/
  | ahead
  /-- The text that ends where the token in progress starts. -/
  | behind
deriving DecidableEq, Repr

/-- Whether letter case counts when characters are compared. -/
inductive CaseMode
  | sensitive
  | insensitive
deriving DecidableEq, Repr

/-- A case mode that ignores case when asked to. -/
def CaseMode.ignoring (ignoreCase : Bool) : CaseMode :=
  if ignoreCase then .insensitive else .sensitive

/-- A side together with a case mode. -/
structure Lookup where
  side : Side
  mode : CaseMode
deriving DecidableEq, Repr

/-- The comparison a lookup stands for: it takes the text on its side, the nearest character first,
and a literal, and answers with the number of characters matched. -/
structure Matcher where
  side : Side
  compare : List Char → List Char → Option Nat

namespace Matcher

/-- The text ahead starts with the literal. -/
def startsWith (source literal : List Char) : Option Nat :=
  if literal.isPrefixOf source then some literal.length else none

/-- The text behind ends with the literal. -/
def endsWith (source literal : List Char) : Option Nat :=
  if literal.reverse.isPrefixOf source then some literal.length else none

/-- The number of characters of a literal when the source leads with them up to case. -/
def foldedMatch : List Char → List Char → Option Nat
  | _, [] => some 0
  | [], _ :: _ => none
  | found :: source, expected :: literal =>
    if Text.sameFolded found expected then (foldedMatch source literal).map (· + 1) else none

/-- The text ahead starts with the literal, up to case. -/
def startsWithFolded (source literal : List Char) : Option Nat := foldedMatch source literal

/-- The text behind ends with the literal, up to case. -/
def endsWithFolded (source literal : List Char) : Option Nat :=
  foldedMatch source literal.reverse

end Matcher

/-- The matcher of a lookup. -/
def Lookup.resolve : Lookup → Matcher
  | ⟨.ahead, .sensitive⟩ => ⟨.ahead, Matcher.startsWith⟩
  | ⟨.ahead, .insensitive⟩ => ⟨.ahead, Matcher.startsWithFolded⟩
  | ⟨.behind, .sensitive⟩ => ⟨.behind, Matcher.endsWith⟩
  | ⟨.behind, .insensitive⟩ => ⟨.behind, Matcher.endsWithFolded⟩

@[simp] theorem Lookup.resolve_side (lookup : Lookup) : lookup.resolve.side = lookup.side := by
  rcases lookup with ⟨_ | _, _ | _⟩ <;> rfl

/-- An ordered list of literals, none of them empty. -/
structure Literals where
  entries : List String
  nonempty : ∀ literal ∈ entries, literal ≠ "" := by simp
deriving DecidableEq

namespace Literals

/-- The set without literals. -/
def empty : Literals where
  entries := []

/-- The literals of a list in their order. Empty ones are dropped: they would match without making
progress. -/
def ofList (literals : List String) : Literals where
  entries := literals.filter (· ≠ "")

def size (set : Literals) : Nat := set.entries.length

def isEmpty (set : Literals) : Bool := set.entries.isEmpty

def get? (set : Literals) (index : Nat) : Option String := set.entries[index]?

/-- The first literal of a list that a matcher accepts, as its index from `index` on and the number
of characters matched. -/
def findFrom (matcher : Matcher) (source : List Char) : Nat → List String → Option (Nat × Nat)
  | _, [] => none
  | index, literal :: rest =>
    match matcher.compare source literal.toList with
    | some width => some (index, width)
    | none => findFrom matcher source (index + 1) rest

/-- The first literal of the set that a matcher accepts. -/
def find? (set : Literals) (matcher : Matcher) (source : List Char) : Option (Nat × Nat) :=
  findFrom matcher source 0 set.entries

end Literals

end Lexing
