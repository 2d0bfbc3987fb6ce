import Modbus.Octets

/-!
# Lines

A line is the input of a transport in time: octets, each with the time at which
it arrives, and perhaps an end.  Whoever reads waits, so reading moves the
clock.  Times count nanoseconds, and a timer ends at the first multiple of its
resolution that is not before the time it was set to.
-/

namespace Modbus

/-- Octets with their times of arrival, in order, and a clock. -/
structure Line where
  now : Nat
  /-- The resolution of timers. -/
  resolution : Nat
  arriving : List (Nat × UInt8)
  /-- When the peer stops sending, if it does. -/
  endsAt : Option Nat
  deriving DecidableEq, Repr, Inhabited

/-- What came of waiting for an octet. -/
inductive Arrival where
  | octet (value : UInt8)
  /-- Nothing came in time. -/
  | overdue
  /-- The peer has stopped sending. -/
  | ended
  /-- There is no deadline, and nothing will ever come. -/
  | never
  deriving DecidableEq, Repr, Inhabited

/-- How a stretch of octets ended. -/
inductive StretchEnd where
  | silence
  | ended
  | full
  deriving DecidableEq, Repr, Inhabited

namespace Line

/-- A line that brings octets at once and then ends if `ends` is set. -/
def atOnce (octets : List UInt8) (ends : Bool) : Line where
  now := 0
  resolution := 1
  arriving := octets.map fun octet => (0, octet)
  endsAt := if ends then some 0 else none

/-- Octets in chunks as they arrive: each comes some time after the one before it. -/
def arrivals (since : Nat) : List (Nat × List UInt8) → List (Nat × UInt8)
  | [] => []
  | (delay, octets) :: rest =>
    octets.map (fun octet => (since + delay, octet)) ++ arrivals (since + delay) rest

/-- A line that brings chunks, and ends with the last one if `ends` is set. -/
def ofChunks (resolution : Nat) (chunks : List (Nat × List UInt8)) (ends : Bool) : Line where
  now := 0
  resolution := resolution
  arriving := arrivals 0 chunks
  endsAt := if ends then some (chunks.foldr (fun chunk time => chunk.1 + time) 0) else none

/-- Octets arrive just now, behind those that are on their way. -/
def deliver (line : Line) (octets : List UInt8) : Line :=
  { line with arriving := line.arriving ++ octets.map fun octet => (line.now, octet) }

/-- When a timer set to the given time ends: at once if that time has passed. -/
def expiry (line : Line) (time : Nat) : Nat :=
  let unit := max line.resolution 1
  if time ≤ line.now then line.now else (time + unit - 1) / unit * unit

/-- Lets time pass until a timer set to the given time ends. -/
def sleepUntil (line : Line) (time : Nat) : Line :=
  { line with now := line.expiry time }

/-- Whether something that happens at a time comes before a deadline. -/
def inTime (line : Line) (deadline : Option Nat) (time : Nat) : Bool :=
  match deadline with
  | none => true
  | some deadline => decide (time < line.expiry deadline)

def waitInVain (line : Line) (deadline : Option Nat) : Arrival × Line :=
  match deadline with
  | none => (.never, line)
  | some deadline => (.overdue, line.sleepUntil deadline)

/-- Waits for the next octet.  One that is there already is taken even if the deadline
has passed. -/
def next (deadline : Option Nat) (line : Line) : Arrival × Line :=
  match line.arriving with
  | (time, octet) :: rest =>
    if time ≤ line.now ∨ line.inTime deadline time then
      (.octet octet, { line with now := max line.now time, arriving := rest })
    else
      line.waitInVain deadline
  | [] =>
    match line.endsAt with
    | some time =>
      if time ≤ line.now ∨ line.inTime deadline time then
        (.ended, { line with now := max line.now time })
      else
        line.waitInVain deadline
    | none => line.waitInVain deadline

/-- Waits for exactly `count` octets.  If they do not come, those that came are lost. -/
def exactly (deadline : Option Nat) : Nat → Line → Except Arrival (List UInt8) × Line
  | 0, line => (.ok [], line)
  | count + 1, line =>
    match line.next deadline with
    | (.octet octet, line) =>
      match exactly deadline count line with
      | (.ok octets, line) => (.ok (octet :: octets), line)
      | (.error arrival, line) => (.error arrival, line)
    | (arrival, line) => (.error arrival, line)

/-- Takes octets until there is a silence of length `quiet`, but at most `most` of them.
Past the deadline no silence is waited for any more. -/
def stretch (quiet : Nat) (deadline : Option Nat) : Nat → Line → List UInt8 × StretchEnd × Line
  | 0, line => ([], .full, line)
  | most + 1, line =>
    let wait :=
      match deadline with
      | some deadline => min quiet (deadline - line.now)
      | none => quiet
    match line.next (some (line.now + wait)) with
    | (.octet octet, line) =>
      let (octets, stop, line) := stretch quiet deadline most line
      (octet :: octets, stop, line)
    | (.overdue, line) => ([], .silence, line)
    | (.ended, line) | (.never, line) => ([], .ended, line)

/-- Throws octets away until there is a silence of length `quiet`. -/
def drain (quiet : Nat) (line : Line) : Line :=
  (line.stretch quiet none (line.arriving.length + 1)).2.2

end Line

/-- The timing of a serial line. -/
structure Timing where
  /-- How long one character takes. -/
  characterTime : Nat
  /-- The silence between two messages. -/
  messageGap : Nat
  /-- Whether everything that is sent comes back. -/
  echo : Bool
  deriving DecidableEq, Repr, Inhabited

namespace Timing

/-- Bits of a character on the line: start, eight data bits, parity or stop, and stop. -/
def characterBits : Nat := 11

/-- The timing at a baud rate.  Messages are four characters apart unless a delay is given. -/
def ofBaud (baud : Nat) (delay : Option Nat) (echo : Bool) : Timing :=
  let characterTime := characterBits * 1000000 / max baud 1 * 1000
  ⟨characterTime, delay.getD (characterTime * 4), echo⟩

/-- The silence that may stand between two characters of a message. -/
def characterGap (timing : Timing) : Nat :=
  timing.characterTime * 3 / 2

end Timing

end Modbus
