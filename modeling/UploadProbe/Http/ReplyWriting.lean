import UploadProbe.Http.Framing

/-!
# Replies as servers write them

The same status, fields and body can be sent in three ways: with the length of the body in the head,
in chunks, or without any mark, so that the end of the connection ends the body.
-/

namespace UploadProbe.ReplyWriting

def lineEnd : Bytes := [ReplyHead.carriageReturn, ReplyHead.lineFeed]

def fieldLine (field : ReplyField) : Bytes :=
  field.name ++ ReplyHead.colon :: ReplyHead.blank :: field.value ++ lineEnd

/-- The head of a reply with a status of three digits. -/
def head (status : Nat) (fields : List ReplyField) : Bytes :=
  Bytes.ofAscii ("HTTP/1.1 ".toList ++ Text.ofNat status) ++ lineEnd ++
    fields.flatMap fieldLine ++ lineEnd

def chunk (data : Bytes) : Bytes :=
  Bytes.ofAscii (Text.ofNatHex data.length) ++ lineEnd ++ data ++ lineEnd

/-- The chunk without data that ends a body, and the empty line behind it. -/
def lastChunk : Bytes :=
  Bytes.ofAscii ['0'] ++ lineEnd ++ lineEnd

/-- A reply that tells the length of its body. -/
def withLength (status : Nat) (fields : List ReplyField) (body : Bytes) : Bytes :=
  let length : ReplyField := ⟨Framing.lengthName, Bytes.ofAscii (Text.ofNat body.length)⟩
  head status (fields ++ [length]) ++ body

/-- A reply with its body in chunks. -/
def inChunks (status : Nat) (fields : List ReplyField) (pieces : List Bytes) : Bytes :=
  let codings : ReplyField := ⟨Framing.codingsName, Framing.chunkedCoding⟩
  head status (fields ++ [codings]) ++ pieces.flatMap chunk ++ lastChunk

/-- A reply whose body ends with the connection. -/
def untilClose (status : Nat) (fields : List ReplyField) (body : Bytes) : Bytes :=
  head status fields ++ body

end UploadProbe.ReplyWriting
