import Std.Time
import UploadProbe.Program
import UploadProbe.System

/-!
# The command

The command performs what `Program.run` describes with the files, the connections and the streams of
the system.
-/

namespace UploadProbe.Main

open Std.Time

def valueOf (name : Text) : IO (Option Bytes) := do
  let value ← IO.getEnv (String.ofList name)
  return value.map (·.toUTF8.toList)

def environment : IO Environment := do
  let values ← Setting.all.mapM fun setting => do
    return (setting.variableName, ← valueOf setting.variableName)
  return .ofVariables fun name => (values.find? (·.1 = name)).bind (·.2)

/-- The time in front of a line of the log. -/
def timeStamp : IO String := do
  let now ← Timestamp.now
  return (PlainDateTime.ofWallTime (now.toWallTime TimeZone.Offset.zero)).format
    "uuuu-MM-dd'T'HH:mm:ss.SSSSSS'Z'"

/-- Writes the events that a filter shows to standard error. -/
def log (filter : Log.Filter) (events : List Log.Event) : IO Unit := do
  for event in events.filter filter.shows do
    IO.eprintln ((← timeStamp) ++ " " ++ String.ofList event.line)

def write (octets : Bytes) : IO Unit := do
  let output ← IO.getStdout
  output.write ⟨octets.toArray⟩
  output.flush

/-- Says what there is to say when everything is over. -/
def conclude (filter : Log.Filter) (conclusion : Conclusion) : IO UInt32 := do
  log filter conclusion.events
  write conclusion.output
  return 0

/-- A number of 64 bits from eight octets. -/
def word (octets : Bytes) : UInt64 :=
  octets.foldl (fun word octet => word * 256 + octet.toUInt64) 0

/-- A boundary that has not been used before. -/
def drawBoundary : IO Boundary := do
  let octets := (← IO.getRandomBytes 32).toList
  let wordAt (index : Nat) : UInt64 := word ((octets.drop (8 * index)).take 8)
  return ⟨wordAt 0, wordAt 1, wordAt 2, wordAt 3⟩

/-- How long an upload may take when nothing is said about it, in milliseconds. -/
def usualLimit : Nat := 30000

/-- The greatest number of milliseconds that is waited for. -/
def greatestLimit : Nat := Nat.pow 2 31

def limit (settings : Settings) : Nat :=
  min greatestLimit
    ((settings.timeout.map fun timeout => timeout.toNanoseconds / 1000000).getD usualLimit)

def probe (filter : Log.Filter) (settings : Settings) : IO UInt32 := do
  match ← System.openSample settings.file with
  | .error error => conclude filter (.ofFailure (error.causes settings.file))
  | .ok content =>
    write (Probe.announcement settings)
    let sample := Probe.sample settings content
    log filter [settings.uploadEvent sample]
    let surroundings : Surroundings :=
      ⟨Duration.ofNanoseconds (← IO.monoNanosNow), ← drawBoundary⟩
    let deadline := (← IO.monoMsNow) + limit settings
    match ← Upload.run (System.deliver deadline) surroundings settings sample with
    | .answered submission => conclude filter (.ofSubmission submission)
    | .failed error => conclude filter (.ofFailure error.causes)
    | .clockOverflow =>
      IO.eprintln "overflow when adding duration to instant"
      return UInt32.ofNat Program.clockOverflowCode

def run (arguments : List String) : IO UInt32 := do
  let environment ← environment
  match CommandLine.read (arguments.map (·.toUTF8.toList)) environment with
  | .error stop =>
    let text := String.ofList (stop.render environment)
    if stop.isAnswer then IO.print text else IO.eprint text
    return UInt32.ofNat stop.exitCode
  | .ok settings =>
    let filter := Log.Filter.ofVariable (← valueOf Program.logVariableName)
    try probe filter settings
    catch error =>
      IO.eprint (String.ofList (Program.outputFailure (.refused (System.reason error))))
      return UInt32.ofNat Program.outputFailureCode

end UploadProbe.Main

def main (arguments : List String) : IO UInt32 :=
  UploadProbe.Main.run arguments
