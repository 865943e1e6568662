import UploadProbe.Text.Quoted

/-!
# Log events

An event has a level, the target it comes from, a message and named values. Its line shows the
level right-aligned, the target, the message and the values; characters in the message that could
steer a terminal are spelled out.

What standard error shows besides the events is taken not to matter and is left out: the time in
front of a line, which is not determined by what the program is given, the sequences that color it,
which tell nothing of their own, and the sign of an upload going on, which is drawn on a terminal
and wiped again.
-/

namespace UploadProbe.Log

inductive Level where
  | error
  | warn
  | info
  | debug
  | trace
deriving DecidableEq, Repr

namespace Level

/-- How talkative a log has to be to show events of this level. -/
def verbosity : Level → Nat
  | .error => 1
  | .warn => 2
  | .info => 3
  | .debug => 4
  | .trace => 5

def word : Level → Text
  | .error => "ERROR".toList
  | .warn => "WARN".toList
  | .info => "INFO".toList
  | .debug => "DEBUG".toList
  | .trace => "TRACE".toList

end Level

inductive Value where
  | plain (text : Text)
  | quoted (text : Text)
deriving DecidableEq, Repr

namespace Value

def text : Value → Text
  | .plain text => text
  | .quoted text => text

def shown : Value → Text
  | .plain text => text
  | .quoted text => Quoted.quote text

end Value

structure Event where
  level : Level
  target : Text
  message : Text
  fields : List (Text × Value) := []
deriving DecidableEq, Repr

namespace Event

/-- A character of a message, spelled out if it could steer a terminal. -/
def spellOut (c : Char) : Text :=
  match c with
  | '\x1b' => "\\x1b".toList
  | '\x07' => "\\x07".toList
  | '\x08' => "\\x08".toList
  | '\x0c' => "\\x0c".toList
  | '\x7f' => "\\x7f".toList
  | c =>
    if '\x80' ≤ c ∧ c ≤ '\u009f' then "\\u".toList ++ '\x7b' :: Text.ofNatHex c.toNat ++ ['\x7d']
    else [c]

/-- A named value in a line, with the blank before it. -/
def fieldShown (field : Text × Value) : Text :=
  ' ' :: field.1 ++ '=' :: field.2.shown

/-- The width of the column for the level. -/
def levelWidth : Nat := 5

/-- The line of an event, without the time in front of it and without colors. -/
def line (event : Event) : Text :=
  List.replicate (levelWidth - event.level.word.length) ' ' ++ event.level.word ++ ' ' ::
    event.target ++ ": ".toList ++ event.message.flatMap spellOut ++
    event.fields.flatMap fieldShown

end Event

end UploadProbe.Log
