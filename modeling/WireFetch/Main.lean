import Std.Time.DateTime.Timestamp
import WireFetch.CommandLine.Run

/-!
# The program

Runs a command line against a recording: whoever is dialed, on whatever port, answers the request
with the bytes of the standard input and closes. So a response that was kept can be looked at as if
it came just now. Nothing is sent anywhere, there are no TLS endpoints, and no programs are started.

What a run comes to is decided by `WireFetch.run` alone. Only whether a file can be written is not
known before it is tried; if it cannot, the run is looked at again in surroundings which say so.
-/

namespace WireFetch

/-- A network of peers that all send one reply. -/
def recording (reply : List UInt8) : Network := fun host _ =>
  some { address := host, reply := [.bytes reply] }

/-- No program can be started. -/
def noPrograms : Programs := fun _ _ => .refused ⟨.other, "programs are not started here"⟩

/-- A number with at least so many digits. -/
def padded (digits n : Nat) : String :=
  let text := toString n
  String.ofList (List.replicate (digits - text.length) '0') ++ text

/-- A point in time, in milliseconds since 1970, with the time of day in UTC. -/
def momentOf (millis : Int) : Log.Moment :=
  let ofDay := (millis.emod 86400000).toNat
  let clock := padded 2 (ofDay / 3600000) ++ ":" ++ padded 2 (ofDay / 60000 % 60) ++ ":" ++
    padded 2 (ofDay / 1000 % 60) ++ "." ++ padded 3 (ofDay % 1000)
  ⟨clock, millis⟩

/-- Tries to write what a run wants written; the fault if that fails. -/
def tryWrite (outcome : Outcome) : IO (Option Fault) := do
  match outcome.written with
  | none => return none
  | some (path, bytes) =>
    try
      IO.FS.writeBinFile path ⟨bytes.toArray⟩
      return none
    catch e => return some ⟨.other, toString e⟩

/-- Prints what a run comes to, and ends with its exit code. -/
def present (outcome : Outcome) : IO UInt32 := do
  (← IO.getStderr).putStr outcome.stderr
  let stdout ← IO.getStdout
  stdout.write ⟨outcome.stdout.toArray⟩
  stdout.flush
  return UInt32.ofNat (outcome.exit.getD 1)

end WireFetch

open WireFetch in
def main (arguments : List String) : IO UInt32 := do
  let reply ← (← IO.getStdin).readBinToEnd
  let now ← Std.Time.Timestamp.now
  let surroundings : Surroundings := {
    network := recording reply.toList
    programs := noPrograms
    fileFault := fun _ => none
    time := momentOf now.toMillisecondsSinceUnixEpoch.val }
  let outcome := run surroundings arguments
  match ← tryWrite outcome with
  | none => present outcome
  | some fault => present (run { surroundings with fileFault := fun _ => some fault } arguments)
