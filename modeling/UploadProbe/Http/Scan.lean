import UploadProbe.Text.Basic

/-!
# Scanning octets

A scanner reads one octet at a time. After each it goes on in a new state, has a result, or has
failed; so what it says of the octets so far is never taken back by those that follow.
-/

namespace UploadProbe

/-- What a scanner does after an octet. -/
inductive ScanStep (State Failure Result : Type) where
  | next (state : State)
  | done (result : Result)
  | fail (failure : Failure)

/-- How far a scanner comes with some octets. -/
inductive Scanned (State Failure Result : Type) where
  | partway (state : State)
  /-- There is a result, and these octets are left. -/
  | complete (result : Result) (rest : Bytes)
  | refused (failure : Failure)

/-- Reads octets from a state on. -/
def scan {State Failure Result : Type} (step : State → UInt8 → ScanStep State Failure Result) :
    State → Bytes → Scanned State Failure Result
  | state, [] => .partway state
  | state, octet :: rest =>
    match step state octet with
    | .next state => scan step state rest
    | .done result => .complete result rest
    | .fail failure => .refused failure

/-- What has been read stays read: octets that follow only continue a scan that is partway. -/
theorem scan_append {State Failure Result : Type}
    (step : State → UInt8 → ScanStep State Failure Result) (state : State)
    (octets further : Bytes) :
    scan step state (octets ++ further) =
      match scan step state octets with
      | .partway reached => scan step reached further
      | .complete result rest => .complete result (rest ++ further)
      | .refused failure => .refused failure := by
  induction octets generalizing state with
  | nil => rfl
  | cons octet rest inductionHypothesis =>
    simp only [List.cons_append, scan]
    cases step state octet with
    | next reached => exact inductionHypothesis reached
    | done result => rfl
    | fail failure => rfl

end UploadProbe
