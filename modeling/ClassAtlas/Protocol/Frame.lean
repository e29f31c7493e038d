/-
Frames of messages. Each message is sent as a header that gives the number of its bytes, an empty
line, and those bytes. Header lines end with a carriage return and a line feed, and fields of the
header other than the length do not matter.
-/
import ClassAtlas.Json.Printer
import ClassAtlas.Json.Reader

namespace ClassAtlas.Protocol.Frame

/-- The name of the header field that gives the length, in lower case. -/
def lengthField : String := "content-length"

/-- A message in its frame. -/
def write (message : Json) : String :=
  let body := message.print
  "Content-Length: " ++ toString body.utf8ByteSize ++ "\r\n\r\n" ++ body

/-- A text without blanks at its ends. -/
def strip (cs : List Char) : List Char :=
  ((cs.dropWhile Char.isWhitespace).reverse.dropWhile Char.isWhitespace).reverse

/-- The length that a header line gives, if it is the field for it. -/
def lengthOf? (line : String) : Option Nat :=
  let cs := line.toList
  match cs.dropWhile (· != ':') with
  | [] => none
  | _ :: value =>
    let name := (strip (cs.takeWhile (· != ':'))).map Char.toLower
    if String.ofList name = lengthField then (String.ofList (strip value)).toNat? else none

/-- Whether a line of the header is the empty one at its end. -/
def isHeaderEnd (line : String) : Bool :=
  (strip line.toList).isEmpty

/-- The message that the bytes of a body stand for. -/
def read? (body : ByteArray) : Option Json := do
  Json.parse? (← String.fromUTF8? body)

end ClassAtlas.Protocol.Frame
