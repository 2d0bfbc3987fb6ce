import Modbus.Error
import Modbus.Octets

/-!
# Reading a payload

A payload is read from front to back.  A field that is cut short is reported
with the offset at which it starts, so the reader counts what it has passed.
-/

namespace Modbus

/-- What is left of a payload, and how many octets were read before. -/
structure Payload where
  offset : Nat
  rest : List UInt8
  deriving DecidableEq, Repr, Inhabited

/-- A step that reads a payload, or fails. -/
abbrev Parse := StateT Payload (Except Error)

namespace Payload

def octets (count : Nat) : Parse (List UInt8) := fun payload =>
  if payload.rest.length < count then
    .error (.protocol (.truncated count payload.offset payload.rest.length))
  else
    .ok (payload.rest.take count, ⟨payload.offset + count, payload.rest.drop count⟩)

/-- The next octet. -/
def octet : Parse UInt8 := fun payload =>
  match payload.rest with
  | [] => .error (.protocol (.truncated 1 payload.offset 0))
  | value :: rest => .ok (value, ⟨payload.offset + 1, rest⟩)

/-- The next word. -/
def word : Parse UInt16 := fun payload =>
  match payload.rest with
  | high :: low :: rest => .ok (Word.ofOctets high low, ⟨payload.offset + 2, rest⟩)
  | rest => .error (.protocol (.truncated 2 payload.offset rest.length))

/-- Exactly `count` items, one after another. -/
def times {α : Type} (item : Parse α) : Nat → Parse (List α)
  | 0 => pure []
  | count + 1 => do
    let value ← item
    let values ← times item count
    pure (value :: values)

def words (count : Nat) : Parse (List UInt16) :=
  times word count

/-- Items until nothing is left, but at most `bound` of them. -/
def upTo {α : Type} (item : Parse α) : Nat → Parse (List α)
  | 0 => pure []
  | bound + 1 => do
    if (← get).rest.isEmpty then
      pure []
    else
      let value ← item
      let values ← upTo item bound
      pure (value :: values)

/-- Items until nothing is left.  An item reads at least one octet, so there
are no more items than octets. -/
def untilEnd {α : Type} (item : Parse α) : Parse (List α) := fun payload =>
  upTo item payload.rest.length payload

/-- Reads a part of a payload on its own, with offsets from its own start. -/
def within {α : Type} (part : List UInt8) (item : Parse α) : Parse α := do
  let (value, _) ← (item ⟨0, part⟩ : Except Error (α × Payload))
  pure value

/-- Nothing may be left behind the fields of a function. -/
def finish (functionCode : UInt8) : Parse Unit := fun payload =>
  if payload.rest.isEmpty then
    .ok ((), payload)
  else
    .error (.protocol (.trailing payload.rest.length functionCode))

def run {α : Type} (item : Parse α) (functionCode : UInt8) (payload : List UInt8) :
    Except Error α := do
  let (value, rest) ← item ⟨0, payload⟩
  let _ ← finish functionCode rest
  pure value

end Payload

end Modbus
