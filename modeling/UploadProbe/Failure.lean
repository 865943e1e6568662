import UploadProbe.Text.Basic

/-!
# Descriptions of failures

A failure is known by the texts of its causes, outermost first. `describe` joins them into one
text; a cause that the text so far already ends with is not said again, because many outer texts
end by quoting the inner one.
-/

namespace UploadProbe

def causeSeparator : Text := ": ".toList

/-- The description after one more cause. -/
def describeNext (accumulated cause : Text) : Text :=
  if cause.isSuffixOf accumulated then accumulated
  else if accumulated.isEmpty then cause
  else accumulated ++ causeSeparator ++ cause

/-- The description of a failure with these causes, outermost first. -/
def describe (causes : List Text) : Text :=
  causes.foldl describeNext []

end UploadProbe
