import Modbus.Frame

/-!
# Connections of a master

A master reaches its slave through a connection: something that can be opened,
that exchanges a request for an answer, and that can be closed.  What a
connection is made of is its own affair; the operations below work on its
state.
-/

namespace Modbus

/-- The operations of a connection with state `σ`. -/
structure Connection (σ : Type) where
  connected : σ → Bool
  /-- Whether answers come without a transaction identifier. -/
  headless : σ → Bool
  connect : σ → Except Error Unit × σ
  exchange : Message Request → σ → Except Error (Message Response) × σ
  close : σ → σ

end Modbus
