import UploadProbe.Url.Basic

/-!
# Addresses

A host that ends in a number is an IPv4 address, written as one to four numbers in decimal, octal
or hexadecimal, of which the last fills all the octets that are left. An IPv6 address stands in
brackets: up to eight numbers in hexadecimal, one gap for zeros, and perhaps an IPv4 address in
decimal at the end.
-/

namespace UploadProbe

namespace Host

/-- One number of an IPv4 address, in the base that its first characters tell; no digits behind
the mark of a base count as zero. -/
def readIpv4Number? (text : Text) : Option Nat :=
  match text with
  | [] => none
  | '0' :: 'x' :: digits => hexadecimal digits
  | '0' :: 'X' :: digits => hexadecimal digits
  | ['0'] => some 0
  | '0' :: digits =>
    if digits.all fun c => '0' ≤ c && c ≤ '7' then
      some (digits.foldl (fun value c => value * 8 + (c.toNat - '0'.toNat)) 0)
    else none
  | digits => if digits.all Char.isDigit then some (Text.decimalValue digits) else none
where
  /-- Hexadecimal digits, perhaps none. -/
  hexadecimal (digits : Text) : Option Nat :=
    digits.foldl (fun value c => do return (← value) * 16 + (← Text.hexDigit? c)) (some 0)

/-- The pieces between dots, without an empty last one. -/
def ipv4Pieces (text : Text) : List Text :=
  let pieces := Text.splitOn '.' text
  if pieces.getLast? = some [] then pieces.dropLast else pieces

/-- Whether a host has to be an IPv4 address. -/
def endsInNumber (text : Text) : Bool :=
  match (ipv4Pieces text).getLast? with
  | none => false
  | some last => (!last.isEmpty && last.all Char.isDigit) || (readIpv4Number? last).isSome

/-- The address of the numbers of an IPv4 address. -/
def ipv4OfNumbers? (numbers : List Nat) : Option Nat :=
  match numbers.reverse with
  | [] => none
  | last :: others =>
    let weighted := others.reverse.zipIdx.map fun (number, index) =>
      number * Nat.pow 256 (3 - index)
    if 4 < numbers.length || others.any (255 < ·) || Nat.pow 256 (4 - others.length) ≤ last then
      none
    else some (weighted.foldl (· + ·) last)

def readIpv4? (text : Text) : Option Nat := do
  let pieces := ipv4Pieces text
  if 4 < pieces.length then none
  else ipv4OfNumbers? (← pieces.mapM readIpv4Number?)

/-- A decimal number of an IPv4 address at the end of an IPv6 address: no leading zero, at most
255. -/
def readOctet? (text : Text) : Option Nat :=
  if text.isEmpty || !text.all Char.isDigit || (1 < text.length && text.head? = some '0') ||
      255 < Text.decimalValue text then none
  else some (Text.decimalValue text)

/-- The two pieces of an IPv4 address at the end of an IPv6 address. -/
def readEmbedded? (text : Text) : Option (List Nat) := do
  match ← (Text.splitOn '.' text).mapM readOctet? with
  | [a, b, c, d] => return [a * 256 + b, c * 256 + d]
  | _ => none

/-- A piece of an IPv6 address: one to four hexadecimal digits. -/
def readPiece? (text : Text) : Option Nat :=
  if text.isEmpty || 4 < text.length then none
  else text.foldl (fun value c => do return (← value) * 16 + (← Text.hexDigit? c)) (some 0)

/-- The numbers of pieces between colons, the last of which may be an IPv4 address. -/
def readPieces? : List Text → Option (List Nat)
  | [] => some []
  | [last] => if last.contains '.' then readEmbedded? last else (readPiece? last).map ([·])
  | piece :: pieces => do return (← readPiece? piece) :: (← readPieces? pieces)

/-- The numbers of the text on one side of the gap. -/
def readSide? (text : Text) : Option (List Nat) :=
  if text.isEmpty then some [] else readPieces? (Text.splitOn ':' text)

/-- Splits at the first two colons in a row. -/
def cutAtGap : Text → Text × Option Text
  | ':' :: ':' :: rest => ([], some rest)
  | [] => ([], none)
  | c :: rest =>
    let (before, after) := cutAtGap rest
    (c :: before, after)

def readIpv6? (text : Text) : Option (List Nat) :=
  match cutAtGap text with
  | (_, none) => do
    let pieces ← readSide? text
    if pieces.length = 8 then some pieces else none
  | (before, some after) => do
    if before.contains '.' then none
    else
      let before ← readSide? before
      let after ← readSide? after
      if before.length + after.length < 8 then
        some (before ++ List.replicate (8 - before.length - after.length) 0 ++ after)
      else none

end Host

end UploadProbe
