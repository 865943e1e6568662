import UploadProbe.CommandLine.Reading
import UploadProbe.Libraries
import UploadProbe.Log.Filter
import UploadProbe.Probe

/-!
# The program

The program reads its arguments and environment, and either answers at once or performs one probe
that writes to standard output. Events go to standard error, as far as the environment asks for
them. A probe that fails is no failure of the program; only a standard output that cannot be
written is.
-/

namespace UploadProbe

/-- What the program is started with. -/
structure Invocation where
  arguments : List Bytes
  /-- The values of the variables that stand for settings. -/
  environment : Environment
  logVariable : Option Bytes

/-- What the program leaves behind. -/
structure ProgramRun where
  output : Bytes := []
  errorOutput : Text := []
  exitCode : Nat := 0
  script : Script
  /-- Whether the clock could not show the end of the timeout, which ended the program. -/
  clockOverflow : Bool := false
deriving DecidableEq, Repr

namespace Program

def logVariableName : Text := "RUST_LOG".toList

def logText (filter : Log.Filter) (events : List Log.Event) : Text :=
  (events.filter filter.shows).flatMap fun event => event.line ++ ['\n']

/-- The line about a standard output that cannot be written. -/
def outputFailure (error : SinkError) : Text :=
  "Error: ".toList ++ error.message ++ ['\n']

/-- How the program ends when it performs no probe. -/
def stopped (environment : Environment) (stop : Stop) (output : Sink) (script : Script) :
    ProgramRun :=
  let text := stop.render environment
  if stop.isAnswer then
    { output := (output.write (Utf8.encode text)).written, exitCode := stop.exitCode, script }
  else { output := output.written, errorOutput := text, exitCode := stop.exitCode, script }

/-- The exit code of a program that the clock has ended. -/
def clockOverflowCode : Nat := 101

/-- The exit code of a program whose standard output could not be written. -/
def outputFailureCode : Nat := 1

/-- The exit code after a probe. -/
def exitCodeAfter (run : ProbeRun) : Nat :=
  if run.clockOverflow then clockOverflowCode
  else if run.sink.failure.isSome then outputFailureCode
  else 0

/-- How the program ends after a probe. Of a program that the clock has ended, what it says about
that, which names places in the code, is left out. -/
def finished (filter : Log.Filter) (run : ProbeRun) : ProgramRun :=
  let log := logText filter run.events
  { output := run.sink.written
    errorOutput := log ++ run.sink.failure.elim [] outputFailure
    exitCode := exitCodeAfter run
    script := run.script
    clockOverflow := run.clockOverflow }

variable [HostMapping] [MultibyteDecoding]

/-- Runs the program with a standard output and the means of a probe. -/
def run (invocation : Invocation) (openSample : SamplePath → Except OpenError Bytes)
    (network : Network) (surroundings : Surroundings) (output : Sink) (script : Script) :
    ProgramRun :=
  match CommandLine.read invocation.arguments invocation.environment with
  | .error stop => stopped invocation.environment stop output script
  | .ok settings =>
    finished (Log.Filter.ofVariable invocation.logVariable)
      (Probe.run network surroundings settings (openSample settings.file) output script)

/-- A standard output on a device without any space. -/
def fullOutput : Sink where
  room := some 0
  whenFull := .refused "No space left on device (os error 28)".toList

end Program

end UploadProbe
