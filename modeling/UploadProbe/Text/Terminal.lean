import UploadProbe.Text.Basic

/-!
# Text without terminal sequences

A message may quote text that holds terminal control sequences. `plain` is what remains of such
text when the sequences and the control characters that show nothing are left out: blanks and line
ends stay, and a sequence that is never finished swallows what follows it.
-/

namespace UploadProbe.Terminal

/-- Where a reader stands in a control sequence. -/
inductive Mode where
  | ground
  | escape
  | escapeIntermediate
  | control
  | controlParameters
  | controlIntermediate
  | controlMalformed
  | device
  | deviceParameters
  | deviceIntermediate
  /-- In the data of a device control, which only an escape or cancel character ends. -/
  | deviceData
  | command
  /-- In one of the other strings that are never shown. -/
  | ignored
deriving DecidableEq, Repr

def within (low high c : Char) : Bool :=
  low ≤ c && c ≤ high

/-- Control characters that move the place of writing and so stay in the text. -/
def isLayout (c : Char) : Bool :=
  c = '\t' || c = '\n' || c = '\x0c' || c = '\r'

/-- What one more character leads to: a new mode, or none when the character is shown. -/
def Mode.next? (mode : Mode) (c : Char) : Option Mode :=
  if c = '\x1b' then some .escape
  else if c = '\x18' || c = '\x1a' then some .ground
  else
    match mode with
    | .ground => if isLayout c || (' ' ≤ c && c ≠ '\x7f') then none else some .ground
    | .escape =>
      if c < ' ' then (if isLayout c then none else some mode)
      else if within ' ' '/' c then some .escapeIntermediate
      else if c = '[' then some .control
      else if c = ']' then some .command
      else if c = 'P' then some .device
      else if c = 'X' || c = '^' || c = '_' then some .ignored
      else if within '0' '~' c then some .ground
      else if c = '\x7f' then some mode
      else some .ground
    | .escapeIntermediate =>
      if c < ' ' then (if isLayout c then none else some mode)
      else if within ' ' '/' c || c = '\x7f' then some mode
      else some .ground
    | .control =>
      if c < ' ' then (if isLayout c then none else some mode)
      else if within ' ' '/' c then some .controlIntermediate
      else if within '0' '?' c then some .controlParameters
      else if c = '\x7f' then some mode
      else some .ground
    | .controlParameters =>
      if c < ' ' then (if isLayout c then none else some mode)
      else if within ' ' '/' c then some .controlIntermediate
      else if within '0' ';' c || c = '\x7f' then some mode
      else if within '<' '?' c then some .controlMalformed
      else some .ground
    | .controlIntermediate =>
      if c < ' ' then (if isLayout c then none else some mode)
      else if within ' ' '/' c || c = '\x7f' then some mode
      else if within '0' '?' c then some .controlMalformed
      else some .ground
    | .controlMalformed =>
      if c < ' ' then (if isLayout c then none else some mode)
      else if within ' ' '?' c || c = '\x7f' then some mode
      else some .ground
    | .device =>
      if c < ' ' || c = '\x7f' then some mode
      else if within ' ' '/' c then some .deviceIntermediate
      else if c = ':' then some .deviceData
      else if within '0' '?' c then some .deviceParameters
      else if c < '\x80' then some .deviceData
      else some .ground
    | .deviceParameters =>
      if c < ' ' || c = '\x7f' || within '0' '9' c || c = ';' then some mode
      else if within ' ' '/' c then some .deviceIntermediate
      else if c < '\x80' then some .deviceData
      else some .ground
    | .deviceIntermediate =>
      if c < '0' || c = '\x7f' then some mode
      else if c < '\x80' then some .deviceData
      else some .ground
    | .deviceData => if c < '\x80' then some mode else some .ground
    | .command => if c < '\x80' ∧ c ≠ '\x07' then some mode else some .ground
    | .ignored => if c < '\x80' then some mode else some .ground

/-- The shown characters of a text that starts in a mode. -/
def plainFrom (mode : Mode) : Text → Text
  | [] => []
  | c :: rest =>
    match mode.next? c with
    | some mode => plainFrom mode rest
    | none => c :: plainFrom .ground rest

/-- The text as a terminal without control sequences would show it. -/
def plain (text : Text) : Text :=
  plainFrom .ground text

end UploadProbe.Terminal
