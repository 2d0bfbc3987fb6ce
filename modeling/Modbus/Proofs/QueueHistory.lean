import Mathlib.Data.List.DropRight
import Mathlib.Tactic
import Modbus.Proofs.Effects
import Modbus.Proofs.ResponseCodec

/-!
# What a queue holds

A full queue loses its oldest value to make room for another one.  It only looks for being
full exactly, so it holds no more than it may as long as nothing takes it past its bound in
one step.  The values of a queue are then the last ones that were pushed since it was made
or cleared, and an answer with them is read back.
-/

namespace Modbus

namespace Fifo

/-- What is done with a queue. -/
inductive Change where
  | push (value : UInt16)
  | clear
  deriving DecidableEq, Repr

/-- The value that a change pushes. -/
def Change.value? : Change → Option UInt16
  | push value => some value
  | clear => none

def changed (fifo : Fifo) : Change → Fifo
  | .push value => fifo.push value
  | .clear => .empty

def changedAll (fifo : Fifo) (history : List Change) : Fifo :=
  history.foldl changed fifo

/-- The values that were pushed since the last time that a queue was cleared, or since it was
made, the oldest first. -/
def pushed (history : List Change) : List UInt16 :=
  (history.rtakeWhile (· ≠ .clear)).filterMap Change.value?

@[simp] theorem pushed_nil : pushed [] = [] := rfl

@[simp] theorem pushed_push (history : List Change) (value : UInt16) :
    pushed (history ++ [.push value]) = pushed history ++ [value] := by
  rw [pushed, List.rtakeWhile_concat_pos _ _ _ (by simp), List.filterMap_append]
  rfl

@[simp] theorem pushed_clear (history : List Change) : pushed (history ++ [.clear]) = [] := by
  rw [pushed, List.rtakeWhile_concat_neg _ _ _ (by simp), List.filterMap_nil]

/-- The last values of a row, as many as a queue holds. -/
def latest (values : List UInt16) : List UInt16 :=
  values.drop (values.length - min Limits.fifo values.length)

theorem length_latest (values : List UInt16) :
    (latest values).length = min Limits.fifo values.length := by
  rw [latest, List.length_drop]
  omega

theorem latest_eq_drop (values : List UInt16) :
    latest values = values.drop (values.length - Limits.fifo) := by
  rw [latest]
  congr 1
  omega

theorem latest_latest_append (values more : List UInt16) :
    latest (latest values ++ more) = latest (values ++ more) := by
  have hsplit : latest values ++ more =
      (values ++ more).drop (values.length - min Limits.fifo values.length) := by
    rw [List.drop_append_of_le_length (Nat.sub_le _ _), latest]
  rw [hsplit, latest_eq_drop, latest_eq_drop, List.drop_drop, List.length_drop,
    List.length_append]
  congr 1
  omega

theorem values_push (fifo : Fifo) (value : UInt16) :
    (fifo.push value).values = latest (fifo.values ++ [value]) := by
  rw [latest_eq_drop]
  exact fifo.values_pushAll [value]

theorem values_changedAll_empty (history : List Change) :
    (empty.changedAll history).values = latest (pushed history) := by
  -- From the end, since the last change alone decides whether anything before it counts.
  induction history using List.reverseRecOn with
  | nil => rfl
  | append_singleton history change ih =>
      have hstep : empty.changedAll (history ++ [change]) =
          (empty.changedAll history).changed change := List.foldl_concat ..
      rw [hstep]
      cases change with
      | push value => rw [changed, values_push, ih, latest_latest_append, pushed_push]
      | clear =>
          rw [pushed_clear]
          rfl

end Fifo

theorem Image.respond_readFifoQueue (image : Image) (address : UInt16) (fifo : Fifo) :
    ((image.setFifo address fifo).respond (.readFifoQueue address)).1 =
      .readFifoQueue fifo.values := by
  have hfound : (image.setFifo address fifo).fifos.get? address.toNat = some fifo := by
    rw [setFifo, Directory.get?_insert, if_pos rfl]
  have hperform : (image.setFifo address fifo).perform (.readFifoQueue address) =
      some (.registers fifo.values, image.setFifo address fifo) := by
    simp only [perform, hfound]
    rfl
  have hvalid : (Request.readFifoQueue address).Valid := trivial
  rw [respond_eq hvalid rfl, hperform]
  rfl

namespace Fifo

/-- However values were pushed into a new queue and it was cleared, it holds the last ones
that were pushed since it was cleared last, the oldest first, and as many as it may; they are
what an image answers with, and that answer is read back as it was. -/
theorem holds_latest_pushed (history : List Change) (image : Image) (address : UInt16) :
    let fifo := empty.changedAll history
    let values := pushed history
    fifo.values = values.drop (values.length - min 31 values.length) ∧
      fifo.values.length = min 31 values.length ∧
      fifo.values.length ≤ 31 ∧
      ((image.setFifo address fifo).respond (.readFifoQueue address)).1 =
        .readFifoQueue fifo.values ∧
      Response.decode (Response.readFifoQueue fifo.values).encode =
        .ok (.readFifoQueue fifo.values) := by
  intro fifo values
  have hvalues : fifo.values = latest values := values_changedAll_empty history
  have hlength : fifo.values.length = min Limits.fifo values.length := by
    rw [hvalues, length_latest]
  have hbound : fifo.values.length ≤ Limits.fifo := hlength.trans_le (Nat.min_le_left _ _)
  exact ⟨hvalues, hlength, hbound, image.respond_readFifoQueue address fifo,
    Response.decode_encode_of_fits trivial hbound⟩

example : (empty.changedAll ([.push 1, .clear] ++
    (List.range 40).map fun number => .push (UInt16.ofNat number))).values =
      (List.range' 9 31).map UInt16.ofNat := by
  decide +kernel

end Fifo

end Modbus
