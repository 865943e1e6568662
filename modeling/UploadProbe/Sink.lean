import UploadProbe.Text.Utf8

/-!
# Sinks

A sink takes octets in portions, may be interrupted, and may have room for only so many octets. What
is to be written is offered again and again until all of it has been taken or the sink has failed. A
line is written piece by piece, its fixed parts and its variable ones. The first failure of a sink
stays: nothing is written to it or flushed after that.
-/

namespace UploadProbe

/-- How a write or a flush fails. -/
inductive SinkError where
  | refused (reason : Text)
  /-- The sink takes nothing and does not say why. -/
  | tookNothing
deriving DecidableEq, Repr

def SinkError.message : SinkError → Text
  | .refused reason => reason
  | .tookNothing => "failed to write whole buffer".toList

/-- Something that octets are written to. -/
structure Sink where
  written : Bytes := []
  flushedAt : List Nat := []
  room : Option Nat := none
  portion : Option Nat := none
  /-- Whether every other write is interrupted, the first one included. -/
  interrupts : Bool := false
  interruptsNext : Bool := interrupts
  /-- How it fails when there is no more room. -/
  whenFull : SinkError := .tookNothing
  /-- How a flush fails, if it does. -/
  whenFlushed : Option SinkError := none
  failure : Option SinkError := none
deriving DecidableEq, Repr

namespace Sink

/-- How many octets of a text of some length it takes at once. -/
def takes (sink : Sink) (length : Nat) : Nat :=
  min length (min (sink.room.getD length) (sink.portion.getD length))

/-- The sink after it has taken some octets. -/
def accept (sink : Sink) (octets : Bytes) : Sink :=
  { sink with
    written := sink.written ++ octets
    room := sink.room.map (· - octets.length)
    interruptsNext := sink.interrupts }

/-- The failure of a sink that takes none of the octets it is offered. -/
def refusal (sink : Sink) : SinkError :=
  if sink.room = some 0 then sink.whenFull else .tookNothing

/-- Offers octets until all of them have been taken or the sink has failed. -/
def offer (sink : Sink) (octets : Bytes) : Sink :=
  if octets.isEmpty then sink
  else if sink.interruptsNext then { sink with interruptsNext := false }.offer octets
  else if sink.takes octets.length = 0 then { sink with failure := some sink.refusal }
  else
    let count := sink.takes octets.length
    (sink.accept (octets.take count)).offer (octets.drop count)
termination_by 2 * octets.length + sink.interruptsNext.toNat
decreasing_by
  · simp_all
  · rename_i isNone _ takesNone
    have bit := Bool.toNat_le (sink.accept (octets.take (sink.takes octets.length))).interruptsNext
    have some : 0 < octets.length := by
      cases octets with
      | nil => simp at isNone
      | cons => simp
    simp only [List.length_drop]
    omega

def write (sink : Sink) (octets : Bytes) : Sink :=
  if sink.failure.isSome then sink else sink.offer octets

def writePieces (sink : Sink) (pieces : List Text) : Sink :=
  pieces.foldl (fun sink piece => sink.write (Utf8.encode piece)) sink

def flush (sink : Sink) : Sink :=
  if sink.failure.isSome then sink
  else
    match sink.whenFlushed with
    | some error => { sink with failure := some error }
    | none => { sink with flushedAt := sink.flushedAt ++ [sink.written.length] }

end Sink

end UploadProbe
