import Mathlib
import UploadProbe.Proofs.Utf8
import UploadProbe.Sink

/-!
# What a sink takes

However small its portions are and however often it is interrupted, a sink takes as many octets of
what it is offered as it has room for, and it fails exactly if that is not all of them. The same
holds of a text that is written piece by piece, so the places where its pieces meet do not matter.
-/

namespace UploadProbe.Sink

/-- A sink without the memory of whether its next write is interrupted. -/
def calm (sink : Sink) : Sink :=
  { sink with interruptsNext := false }

/-- Whether there is room for so many octets. -/
def hasRoomFor (sink : Sink) (length : Nat) : Bool :=
  sink.room.all (length ≤ ·)

/-- A sink behind some octets, of which it has taken as many as it had room for. -/
def filled (sink : Sink) (octets : Bytes) : Sink :=
  { sink with
    written := sink.written ++ octets.take (sink.room.getD octets.length)
    room := sink.room.map (· - octets.length)
    failure := if sink.hasRoomFor octets.length then none else some sink.whenFull }

/-- A sink before anything has been written to it, which takes an octet at least as long as it has
room. -/
structure Ready (sink : Sink) : Prop where
  written : sink.written = []
  flushedAt : sink.flushedAt = []
  intact : sink.failure = none
  usable : sink.portion ≠ some 0

theorem filled_nil {sink : Sink} (intact : sink.failure = none) : sink.filled [] = sink := by
  cases sink with
  | mk written flushedAt room portion interrupts interruptsNext whenFull whenFlushed failure =>
      cases room <;> simp_all [filled, hasRoomFor]

theorem calm_filled_calm (sink : Sink) (octets : Bytes) :
    (sink.calm.filled octets).calm = (sink.filled octets).calm := rfl

theorem filled_append_of_room {sink : Sink} {left right : Bytes}
    (fits : sink.hasRoomFor left.length) :
    (sink.filled left).filled right = sink.filled (left ++ right) := by
  cases sink with
  | mk written flushedAt room portion interrupts interruptsNext whenFull whenFlushed failure =>
      cases room with
      | none => simp [filled, hasRoomFor]
      | some count =>
          simp only [hasRoomFor, Option.all_some, decide_eq_true_eq] at fits
          have split : left.length + right.length ≤ count ↔ right.length ≤ count - left.length := by
            omega
          simp [filled, hasRoomFor, List.take_append, List.take_of_length_le fits, split,
            Nat.sub_sub]

theorem filled_append_of_noRoom {sink : Sink} {left right : Bytes}
    (noRoom : sink.hasRoomFor left.length = false) :
    sink.filled (left ++ right) = sink.filled left := by
  cases sink with
  | mk written flushedAt room portion interrupts interruptsNext whenFull whenFlushed failure =>
      cases room with
      | none => simp [hasRoomFor] at noRoom
      | some count =>
          simp only [hasRoomFor, Option.all_some, decide_eq_false_iff_not, not_le] at noRoom
          have none : count - left.length = 0 := by omega
          have noneAtAll : count - (left.length + right.length) = 0 := by omega
          have tooMany : ¬left.length + right.length ≤ count := by omega
          simp [filled, hasRoomFor, List.take_append, none, noneAtAll, tooMany, noRoom]

theorem room_eq_zero_of_takes {sink : Sink} {length : Nat} (usable : sink.portion ≠ some 0)
    (positive : 0 < length) (takesNone : sink.takes length = 0) : sink.room = some 0 := by
  cases sink with
  | mk written flushedAt room portion interrupts interruptsNext whenFull whenFlushed failure =>
      cases room <;> cases portion <;> simp_all [takes] <;> omega

theorem hasRoomFor_takes (sink : Sink) (length : Nat) : sink.hasRoomFor (sink.takes length) := by
  cases sink with
  | mk written flushedAt room portion interrupts interruptsNext whenFull whenFlushed failure =>
      cases room <;> simp [hasRoomFor, takes]

theorem calm_accept {sink : Sink} {octets : Bytes} (intact : sink.failure = none)
    (fits : sink.hasRoomFor octets.length) :
    (sink.accept octets).calm = (sink.filled octets).calm := by
  cases sink with
  | mk written flushedAt room portion interrupts interruptsNext whenFull whenFlushed failure =>
      cases room <;> simp_all [accept, filled, calm, hasRoomFor]

theorem calm_offer {sink : Sink} (octets : Bytes) (usable : sink.portion ≠ some 0)
    (intact : sink.failure = none) :
    (sink.offer octets).calm = (sink.filled octets).calm := by
  fun_induction offer sink octets with
  | case1 sink octets isNone =>
      rw [List.isEmpty_iff.mp isNone, filled_nil intact]
  | case2 sink octets _ _ inductionHypothesis =>
      exact inductionHypothesis usable intact
  | case3 sink octets isSome _ takesNone =>
      have positive : 0 < octets.length := by
        rw [List.length_pos_iff]
        simpa using isSome
      have noRoom := room_eq_zero_of_takes usable positive takesNone
      have tooMany : ¬octets.length ≤ 0 := by omega
      simp [refusal, filled, calm, hasRoomFor, noRoom, tooMany]
  | case4 sink octets _ _ _ count inductionHypothesis =>
      have length : (octets.take count).length = count := by
        simp [count, takes]
      have fits : sink.hasRoomFor (octets.take count).length := by
        rw [length]
        exact hasRoomFor_takes sink octets.length
      calc ((sink.accept (octets.take count)).offer (octets.drop count)).calm
          = ((sink.accept (octets.take count)).calm.filled (octets.drop count)).calm :=
            inductionHypothesis usable intact
        _ = ((sink.filled (octets.take count)).filled (octets.drop count)).calm := by
            rw [calm_accept intact fits, calm_filled_calm]
        _ = (sink.filled octets).calm := by
            rw [filled_append_of_room fits, List.take_append_drop]

/-- Octets that are written are taken as far as there is room for them. -/
theorem calm_write {sink : Sink} (octets : Bytes) (usable : sink.portion ≠ some 0)
    (intact : sink.failure = none) :
    (sink.write octets).calm = (sink.filled octets).calm := by
  rw [write, intact]
  exact calm_offer octets usable intact

theorem writePieces_of_failure {sink : Sink} (failed : sink.failure ≠ none)
    (pieces : List Text) : sink.writePieces pieces = sink := by
  induction pieces with
  | nil => rfl
  | cons piece pieces inductionHypothesis =>
      have unchanged : sink.write (Utf8.encode piece) = sink := by
        rw [write, if_pos (Option.isSome_iff_ne_none.mpr failed)]
      rw [writePieces, List.foldl_cons, unchanged]
      exact inductionHypothesis

/-- Pieces that are written one after the other are taken like the text that they make up. -/
theorem calm_writePieces {sink : Sink} (pieces : List Text) (usable : sink.portion ≠ some 0)
    (intact : sink.failure = none) :
    (sink.writePieces pieces).calm = (sink.filled (Utf8.encode pieces.flatten)).calm := by
  induction pieces generalizing sink with
  | nil => rw [List.flatten_nil, Utf8.encode_nil, filled_nil intact, writePieces, List.foldl_nil]
  | cons piece pieces inductionHypothesis =>
      have first := calm_write (Utf8.encode piece) usable intact
      have failure := congrArg Sink.failure first
      have portion := congrArg Sink.portion first
      simp only [calm, filled] at failure portion
      rw [writePieces, List.foldl_cons, List.flatten_cons, Utf8.encode_append]
      cases fits : sink.hasRoomFor (Utf8.encode piece).length with
      | true =>
          rw [fits, if_pos rfl] at failure
          rw [← filled_append_of_room fits, ← calm_filled_calm (sink.filled _), ← first,
            calm_filled_calm]
          exact inductionHypothesis (by rw [portion]; exact usable) failure
      | false =>
          rw [fits, if_neg Bool.false_ne_true] at failure
          rw [filled_append_of_noRoom fits, ← first]
          have stays := writePieces_of_failure (by rw [failure]; exact Option.some_ne_none _) pieces
          rw [writePieces] at stays
          rw [stays]

/-- Behind a text that has been written piece by piece, a sink is filled with the text, and only
whether its next write is interrupted depends on the pieces. -/
theorem exists_writePieces_eq {sink : Sink} (pieces : List Text) (usable : sink.portion ≠ some 0)
    (intact : sink.failure = none) :
    ∃ interruptsNext, sink.writePieces pieces =
      { sink.filled (Utf8.encode pieces.flatten) with interruptsNext } := by
  have same := calm_writePieces pieces usable intact
  refine ⟨(sink.writePieces pieces).interruptsNext, ?_⟩
  calc sink.writePieces pieces
      = { (sink.writePieces pieces).calm with
          interruptsNext := (sink.writePieces pieces).interruptsNext } := rfl
    _ = _ := by rw [same]; rfl

/-- A sink that takes everything, however it is handed over. -/
structure TakesAll (sink : Sink) : Prop where
  room : sink.room = none
  flushes : sink.whenFlushed = none
  intact : sink.failure = none
  usable : sink.portion ≠ some 0

theorem ready_empty : ({} : Sink).Ready :=
  ⟨rfl, rfl, rfl, by decide⟩

theorem takesAll_empty : ({} : Sink).TakesAll :=
  ⟨rfl, rfl, rfl, by decide⟩

/-- A sink that takes everything goes on taking everything, and has all that was written. -/
theorem TakesAll.writePieces {sink : Sink} (takesAll : sink.TakesAll) (pieces : List Text) :
    (sink.writePieces pieces).TakesAll ∧
      (sink.writePieces pieces).written = sink.written ++ Utf8.encode pieces.flatten ∧
      (sink.writePieces pieces).flushedAt = sink.flushedAt := by
  rcases exists_writePieces_eq pieces takesAll.usable takesAll.intact with ⟨interruptsNext, same⟩
  rw [same]
  refine ⟨⟨?_, takesAll.flushes, ?_, takesAll.usable⟩, ?_, rfl⟩
  · simp [filled, takesAll.room]
  · simp [filled, hasRoomFor, takesAll.room]
  · simp [filled, takesAll.room]

theorem TakesAll.flush {sink : Sink} (takesAll : sink.TakesAll) :
    sink.flush.TakesAll ∧ sink.flush.written = sink.written ∧
      sink.flush.flushedAt = sink.flushedAt ++ [sink.written.length] := by
  have noted : sink.flush = { sink with flushedAt := sink.flushedAt ++ [sink.written.length] } := by
    simp [Sink.flush, takesAll.intact, takesAll.flushes]
  rw [noted]
  exact ⟨⟨takesAll.room, takesAll.flushes, takesAll.intact, takesAll.usable⟩, rfl, rfl⟩

end UploadProbe.Sink
