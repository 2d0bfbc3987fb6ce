import Modbus.Slave.Stream

/-!
# Sessions on a serial line

A master on a serial line sends a request and waits for the answer; it sends
the next one when the answer has come to its end, or when the line has been
silent for long enough.  What the slave does follows from all octets and the
times at which they arrive.
-/

namespace Modbus.Slave

/-- A serial slave and what its line has brought so far. -/
structure Session where
  station : Station
  timing : Timing
  /-- How long the rest of a frame may take, in nanoseconds. -/
  timeout : Nat
  /-- When the master sends next. -/
  now : Nat
  arrived : List (Nat × UInt8)

namespace Session

/-- How long the master waits for an answer to begin: 250 ms. -/
def patience : Nat := 250000000

/-- The silence behind which the master takes an answer to be complete: 25 ms. -/
def pause : Nat := 25000000

/-- The resolution of timers: 1 ms. -/
def resolution : Nat := 1000000

/-- A session in which nothing was sent. -/
def start (station : Station) (timing : Timing) (timeout : Nat) : Session :=
  ⟨station, timing, timeout, 0, []⟩

/-- What the slave has done with everything that arrived. -/
def run (session : Session) : Transport × Station :=
  let line : Line := ⟨0, resolution, session.arrived, none⟩
  serve .shared
    (.opened line (.headless true) "line" (some session.timing) session.timeout) session.station

/-- What is heard from a time on: transmissions up to the first silence, and when it
begins.  The first one may take until `latest`. -/
def heard (latest : Nat) : Nat → List Transmission → List UInt8 × Nat
  | since, [] => ([], since)
  | since, transmission :: rest =>
    if transmission.time < latest then
      let (octets, last) := heard (transmission.time + pause) transmission.time rest
      (transmission.octets ++ octets, last)
    else
      ([], since)

/-- Sends octets; the result is the answer, if there is one. -/
def send (session : Session) (octets : List UInt8) : Option (List UInt8) × Session :=
  let session :=
    { session with arrived := session.arrived ++ octets.map fun octet => (session.now, octet) }
  let latest := session.now + patience
  let later := session.run.1.sent.filter fun transmission => session.now ≤ transmission.time
  let (answer, last) := heard latest session.now later
  if answer.isEmpty then (none, { session with now := latest + pause })
  else (some answer, { session with now := last + pause })

end Session

end Modbus.Slave
