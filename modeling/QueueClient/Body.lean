/-
# Bodies

The payload of a request.  Bytes can be sent any number of times.  A stream can be read once:
all copies of a body share one slot, which holds the stream until someone takes it.  The slots
are kept in a ledger, so that what a body does is a function of the ledger.
-/

namespace QueueClient

/-- The streams of a run: one slot for each, empty once the stream was taken. -/
structure Streams where
  /-- The chunks of each stream that is still there. -/
  slots : List (Option (List (List UInt8)))
deriving DecidableEq, Inhabited

namespace Streams

/-- No streams. -/
def empty : Streams := ⟨[]⟩

/-- Puts a stream into a new slot. -/
def put (s : Streams) (chunks : List (List UInt8)) : Nat × Streams :=
  (s.slots.length, ⟨s.slots ++ [some chunks]⟩)

/-- The stream in a slot, if it is still there. -/
def peek (s : Streams) (slot : Nat) : Option (List (List UInt8)) := (s.slots[slot]?).join

/-- Takes the stream out of a slot. -/
def take (s : Streams) (slot : Nat) : Option (List (List UInt8)) × Streams :=
  (s.peek slot, ⟨s.slots.set slot none⟩)

end Streams

/-- The payload of a request. -/
inductive Body where
  /-- Nothing. -/
  | empty
  /-- Bytes, possibly none. -/
  | bytes (content : List UInt8)
  /-- The stream in a slot. -/
  | stream (slot : Nat)
deriving DecidableEq, Inhabited

/-- What a sender gets out of a body. -/
inductive Payload where
  /-- Bytes. -/
  | bytes (content : List UInt8)
  /-- The chunks of a stream. -/
  | chunks (content : List (List UInt8))
deriving DecidableEq, Inhabited

namespace Body

/-- A body of bytes; without bytes it is empty. -/
def ofBytes (content : List UInt8) : Body := if content.isEmpty then empty else bytes content

/-- The length in bytes, if it is known. -/
def length? : Body → Option Nat
  | empty => some 0
  | bytes content => some content.length
  | stream _ => none

/-- Whether it is known that there is nothing to send. -/
def isEmpty (b : Body) : Bool := b.length? == some 0

/-- A short description. -/
def describe : Body → String
  | empty => "Empty"
  | bytes content => "Bytes(" ++ toString content.length ++ " bytes)"
  | stream _ => "Stream"

/-- Whether the body can still be sent. -/
def canReplay (s : Streams) : Body → Bool
  | stream slot => (s.peek slot).isSome
  | _ => true

/-- The payload of a body (`none` within if there is nothing to send), or `none` if its stream is
gone; with it the ledger afterwards. -/
def take (s : Streams) : Body → Option (Option Payload) × Streams
  | empty => (some none, s)
  | bytes content => (some (some (.bytes content)), s)
  | stream slot =>
    let (chunks, s') := s.take slot
    (chunks.map fun c => some (.chunks c), s')

end Body

end QueueClient
