import Modbus.Console.Run

/-!
# The command line tool

This module only fetches what a run of the tool looks at, the file with settings
that the command line names and the variables of the environment, and writes out
what came of the run.
-/

namespace Modbus.Console

/-- The content of a file, if it can be read. -/
def contentOf (path : String) : IO (Option String) := do
  try
    pure (some (← IO.FS.readFile path))
  catch _ =>
    pure none

/-- The variables of the environment in the order of their names. -/
def environment : IO (List (String × String)) := do
  let block ← contentOf "/proc/self/environ"
  let entries := Text.Split.parts '\x00' (block.getD "").toList
  let settings := entries.filterMap (Text.Split.first? '=')
  let named := settings.map fun (name, value) => (String.ofList name, String.ofList value)
  pure (named.mergeSort fun one other => decide (one.1 ≤ other.1))

end Modbus.Console

open Modbus.Console

/-- Runs the tool on this machine, from which no network is reached. -/
def main (tokens : List String) : IO UInt32 := do
  let content ← match (Invocation.parse tokens).toOption.bind Invocation.config with
    | some path => contentOf path
    | none => pure none
  let outcome := run ⟨.isolated, fun _ => content, ← environment⟩ tokens
  IO.print outcome.output
  match outcome.error with
  | some message => IO.eprintln message
  | none => pure ()
  pure (UInt32.ofNat outcome.code)
