/-
What is wrong with a text that is no URI, by cause, and the words for it.
-/

namespace ClassAtlas.Uri

/-- Why a text is no URI: it has no scheme, or its authority has no host where one is needed, a host
of some kind that is none, or a port that is none. -/
inductive Fault
  | noScheme
  | emptyHost
  | badName
  | badCharacter
  | badFourByte
  | badEightPart
  | badPort
  deriving DecidableEq, Repr

/-- A fault in words. -/
def Fault.message : Fault → String
  | .noScheme => "relative URL without a base"
  | .emptyHost => "empty host"
  | .badName => "invalid international domain name"
  | .badCharacter => "invalid domain character"
  | .badFourByte => "invalid IPv4 address"
  | .badEightPart => "invalid IPv6 address"
  | .badPort => "invalid port number"

end ClassAtlas.Uri
