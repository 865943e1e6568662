import UploadProbe.Log.Event
import UploadProbe.Text.Utf8

/-!
# Which events are shown

A filter is a list of directives separated by commas. A directive is a level, or a target with an
optional level, and may narrow itself to spans or to events with certain fields in brackets. The
program opens no spans, so a directive for a named span or for a field with a value shows nothing.
An event is judged by the most specific directive that concerns it: the one with the longest target
and, among those, the most fields. A filter with a malformed directive is malformed as a whole.
-/

namespace UploadProbe.Log

/-- A rule about the events of some targets. -/
structure Directive where
  /-- What the target of an event has to begin with; none concerns all targets. -/
  target : Option Text
  fields : List Text
  verbosity : Nat
deriving DecidableEq, Repr

/-- The directives of a filter in the order in which they were given. -/
abbrev Filter := List Directive

namespace Directive

/-- The names of the verbosities, from nothing to everything. -/
def verbosityWords : List Text :=
  ["off".toList, "error".toList, "warn".toList, "info".toList, "debug".toList, "trace".toList]

def everything : Nat := 5

/-- The digits of a number that may have a plus sign before it. -/
def unsignedDigits : Text → Text
  | '+' :: rest => rest
  | text => text

/-- The verbosity of a word, in any case, or of a number. -/
def verbosity? (text : Text) : Option Nat :=
  let digits := unsignedDigits text
  if !digits.isEmpty && digits.all Char.isDigit then
    if Text.decimalValue digits ≤ everything then some (Text.decimalValue digits) else none
  else
    (verbosityWords.zipIdx.find? (·.1 = Text.lower text)).map (·.2)

/-- A word behind an equals sign: nothing means everything. -/
def levelBehind? (text : Text) : Option Nat :=
  if text.isEmpty then some everything else verbosity? text

/-- Characters that are dropped at both ends before a directive is read. -/
def isBlank (c : Char) : Bool :=
  c = ' ' || ('\t' ≤ c && c ≤ '\r') || c = '\u0085' || c = '\u00a0'

/-- Whether a directive may begin with a character, brackets apart. -/
def isOpening (c : Char) : Bool :=
  c.isAlphanum || c = '-' || c = ':' || c = '_' || '\x80' ≤ c

/-- What a directive says before it is known whether it can show anything. -/
structure Draft where
  target : Option Text
  span : Option Text
  fields : List Text
  verbosity : Nat

/-- Reads what stands behind a closing bracket. -/
def afterBracket? (draft : Draft) (trailing : Text) : Text → Option Draft
  | [] => some draft
  | '=' :: rest =>
    (levelBehind? (rest ++ trailing)).map fun verbosity => { draft with verbosity }
  | _ => none

/-- Reads fields up to the closing brace and the bracket behind it. -/
def fieldsOf? (draft : Draft) (trailing text : Text) : Option Draft :=
  match Text.cutAt (· = '\x7d') text with
  | (inner, some (']' :: rest)) =>
    let fields := Text.splitOn ',' inner
    if fields.any List.isEmpty then none else afterBracket? { draft with fields } trailing rest
  | _ => none

/-- Reads what stands behind an opening bracket. -/
def spanOf? (target : Option Text) (trailing text : Text) : Option Draft :=
  match Text.cutAt (fun c => c = ']' || c = '\x7b') text with
  | (_, none) => none
  | (name, some rest) =>
    if text.drop name.length |>.head?.any (· = ']') then
      afterBracket? ⟨target, some name, [], everything⟩ trailing rest
    else
      let span := if name.isEmpty then none else some name
      fieldsOf? ⟨target, span, [], everything⟩ trailing rest

/-- Reads a directive that begins with a level or a target. -/
def levelOrTarget? (trailing text : Text) : Option Draft :=
  match Text.cutAt (fun c => c = '=' || c = '[') text with
  | (word, none) =>
    let word := word ++ trailing
    match verbosity? word with
    | some verbosity => some ⟨none, none, [], verbosity⟩
    | none => some ⟨some word, none, [], everything⟩
  | (target, some rest) =>
    if text.drop target.length |>.head?.any (· = '=') then
      (levelBehind? (rest ++ trailing)).map fun verbosity => ⟨some target, none, [], verbosity⟩
    else spanOf? (some target) trailing rest

/-- Reads one directive, of which blanks at the end belong to its last word. Behind blanks a level
cannot be read, and everything else is a target that no event has. -/
def draft? (raw : Text) : Option Draft :=
  let leading := raw.takeWhile isBlank
  let unled := raw.dropWhile isBlank
  let trailing := (unled.reverse.takeWhile isBlank).reverse
  let body := unled.take (unled.length - trailing.length)
  match body with
  | [] => none
  | first :: rest =>
    if !leading.isEmpty then
      if body.contains '=' || !(isOpening first || first = '[') then none
      else some ⟨some raw, none, [], everything⟩
    else if first = '[' then spanOf? none trailing rest
    else if isOpening first then levelOrTarget? trailing body
    else none

/-- The directive of a draft; none when it can show nothing without spans. -/
def ofDraft? (draft : Draft) : Option Directive :=
  if draft.span.isSome || draft.fields.any (·.contains '=') then none
  else some ⟨draft.target, draft.fields, draft.verbosity⟩

def concerns (directive : Directive) (event : Event) : Bool :=
  (match directive.target with
    | some target => target.isPrefixOf event.target
    | none => true) &&
  directive.fields.all fun name =>
    name = "message".toList || event.fields.any fun field => field.1 = name

/-- How long the target is; one more than its length, so that a missing target is the shortest. -/
def targetRank (directive : Directive) : Nat :=
  match directive.target with
  | some target => (Utf8.encode target).length + 1
  | none => 0

/-- Whether one directive gives way to another that was given later. -/
def givesWayTo (earlier later : Directive) : Bool :=
  earlier.targetRank < later.targetRank ||
    (earlier.targetRank = later.targetRank && earlier.fields.length ≤ later.fields.length)

end Directive

namespace Filter

/-- The directive that decides about an event. -/
def deciding? (filter : Filter) (event : Event) : Option Directive :=
  (filter.filter (·.concerns event)).foldl (fun best directive =>
    match best with
    | none => some directive
    | some best => if best.givesWayTo directive then some directive else some best) none

def shows (filter : Filter) (event : Event) : Bool :=
  match filter.deciding? event with
  | some directive => event.level.verbosity ≤ directive.verbosity
  | none => false

def read? (text : Text) : Option Filter :=
  let pieces := (Text.splitOn ',' text).filter (!·.isEmpty)
  (pieces.mapM Directive.draft?).map fun drafts => drafts.filterMap Directive.ofDraft?

/-- The filter for a program that is told nothing: what its own modules say at level info. -/
def standard : Filter :=
  [⟨some "submit_probe".toList, [], Level.info.verbosity⟩]

/-- The filter of an environment variable. -/
def ofVariable (value : Option Bytes) : Filter :=
  match (value.bind Utf8.decode?).bind read? with
  | some filter => filter
  | none => standard

end Filter

end UploadProbe.Log
