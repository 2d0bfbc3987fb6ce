import Modbus.Frame
import Modbus.Response.Codec
import Modbus.Image.Answer

/-!
# Stations

A station serves the images of one or more units and counts what it answered.
On a medium of its own it answers for units it does not have: with an exception,
or from the image of unit zero if that is the only one.  On a line that it
shares with other stations it keeps silent instead.
-/

namespace Modbus

/-- What a station counted. -/
structure Stats where
  accepted : Nat
  requests : Nat
  exceptions : Nat
  deriving DecidableEq, Repr, Inhabited

/-- The counters of a station that did nothing yet. -/
def Stats.zero : Stats := ⟨0, 0, 0⟩

def Stats.countAnswer (stats : Stats) (response : Response) : Stats :=
  { stats with
    requests := stats.requests + 1
    exceptions := stats.exceptions + if response.isException then 1 else 0 }

/-- Counts a connection or another client. -/
def Stats.countClient (stats : Stats) : Stats :=
  { stats with accepted := stats.accepted + 1 }

abbrev Units := Directory Image

namespace Units

/-- Puts an image under its unit. -/
def add (units : Units) (image : Image) : Units :=
  units.insert image.unit.toNat image

/-- The image of exactly the given unit. -/
def ofUnit? (units : Units) (unit : UInt8) : Option Image :=
  units.get? unit.toNat

/-- The unit whose image answers for every unit when there is no other image. -/
def wildcard : UInt8 := 0

def resolve (units : Units) (unit : UInt8) (wild : Bool) : Option Image :=
  match units.ofUnit? unit with
  | some image => some image
  | none => if wild && units.size == 1 then units.ofUnit? wildcard else none

/-- The units of the given images; of two images of one unit the last one stays. -/
def ofImages (images : List Image) : Units :=
  images.foldl add Directory.empty

end Units

/-- Images and what was counted while they were served. -/
structure Station where
  units : Units
  stats : Stats
  deriving Inhabited

namespace Station

/-- A station that serves the given images. -/
def serving (units : Units) : Station := ⟨units, .zero⟩

def answer (image : Image) (frame : Frame) : Response × Image :=
  match Request.decode frame.pdu with
  | .ok request => image.respond request
  | .error _ => (.refusal frame.functionCode .illegalDataValue, image)

/-- Answers a frame, unless it is meant for another station.  The answer has the header
of the frame. -/
def handle (own : Bool) (station : Station) (frame : Frame) : Option Frame × Station :=
  let reply (response : Response) (units : Units) : Option Frame × Station :=
    (some ⟨frame.header, response.encode⟩, ⟨units, station.stats.countAnswer response⟩)
  match station.units.resolve frame.header.unitId own with
  | some image =>
    let (response, after) := answer image frame
    reply response (station.units.add after)
  | none =>
    if own then reply (.refusal frame.functionCode .illegalDataAddress) station.units
    else (none, station)

def accept (station : Station) : Station :=
  { station with stats := station.stats.countClient }

end Station

end Modbus
