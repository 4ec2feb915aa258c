import Chip8.IoError

/-!
# Sources of bytes

A source hands out its bytes in deliveries of any length.  A delivery may be
interrupted, which loses nothing, and behind the last delivery the source ends,
fails for good, or goes on with one byte for ever.  A source counts the bytes
that it hands out, as a file keeps its position.

`take` reads until the source ends or a limit is reached, whichever comes first.
So it is total for endless sources too, it never meets what lies behind the limit,
and it leaves the source with its count no further on than the limit.
-/

namespace Chip8

/-- What one request to a source brings. -/
inductive Delivery where
  /-- One byte or more. -/
  | bytes (first : UInt8) (rest : List UInt8)
  /-- Nothing yet; the request may be repeated. -/
  | interrupted
  deriving DecidableEq, Repr

/-- What a source does behind its last delivery.  It is not interrupted for ever, since
nobody who repeats interrupted requests would come to an end with it. -/
inductive Ending where
  /-- There is nothing more. -/
  | finished
  /-- Every further request fails, and not because it was interrupted. -/
  | failing (error : IoError)
  /-- Every further request brings this byte. -/
  | endless (byte : UInt8)
  deriving DecidableEq, Repr

/-- A source of bytes. -/
structure ByteSource where
  /-- The deliveries, first to last. -/
  deliveries : List Delivery
  /-- What comes behind them. -/
  ending : Ending
  /-- How many bytes were handed out before. -/
  taken : Nat := 0
  deriving DecidableEq, Repr

/-- What was taken from a source. -/
structure Portion where
  /-- The bytes that arrived. -/
  bytes : List UInt8
  /-- The failure that was met, if one was. -/
  failure? : Option IoError
  /-- What the source still holds. -/
  rest : ByteSource
  deriving DecidableEq, Repr

namespace Portion

/-- The portion with bytes that arrived before it. -/
def behind (earlier : List UInt8) (portion : Portion) : Portion :=
  { portion with bytes := earlier ++ portion.bytes }

/-- The bytes of a portion, unless a failure was met. -/
def outcome (portion : Portion) : Except IoError (List UInt8) :=
  match portion.failure? with
  | none => .ok portion.bytes
  | some error => .error error

end Portion

/-- The deliveries that bring some bytes at once, none if there are no bytes. -/
def Delivery.ofList : List UInt8 → List Delivery
  | [] => []
  | first :: rest => [.bytes first rest]

namespace Ending

/-- Taking up to `limit` bytes behind the last delivery, when `taken` bytes were
handed out before. -/
def take (ending : Ending) (taken limit : Nat) : Portion :=
  match ending with
  | .finished => ⟨[], none, ⟨[], ending, taken⟩⟩
  | .failing error => ⟨[], if limit = 0 then none else some error, ⟨[], ending, taken⟩⟩
  | .endless byte => ⟨List.replicate limit byte, none, ⟨[], ending, taken + limit⟩⟩

end Ending

namespace ByteSource

/-- The source that brings these bytes at once and ends. -/
def ofList (bytes : List UInt8) : ByteSource :=
  { deliveries := Delivery.ofList bytes, ending := .finished }

/-- Taking up to `limit` bytes from deliveries with an ending behind them, when
`taken` bytes were handed out before.  A delivery that is longer than what is
wanted is split. -/
def takeFrom (ending : Ending) : (taken : Nat) → List Delivery → (limit : Nat) → Portion
  | taken, deliveries, 0 => ⟨[], none, ⟨deliveries, ending, taken⟩⟩
  | taken, [], limit => ending.take taken limit
  | taken, .interrupted :: later, limit => takeFrom ending taken later limit
  | taken, .bytes first rest :: later, limit + 1 =>
      if rest.length ≤ limit then
        (takeFrom ending (taken + (rest.length + 1)) later (limit - rest.length)).behind
          (first :: rest)
      else
        ⟨first :: rest.take limit, none,
          ⟨Delivery.ofList (rest.drop limit) ++ later, ending, taken + (limit + 1)⟩⟩
termination_by structural _ deliveries => deliveries

/-- Taking up to `limit` bytes from a source. -/
def take (source : ByteSource) (limit : Nat) : Portion :=
  takeFrom source.ending source.taken source.deliveries limit

end ByteSource

end Chip8
