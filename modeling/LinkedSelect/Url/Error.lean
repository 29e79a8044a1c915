/-!
# What is wrong with an address

The causes for which an address is refused, and their wording.
-/

namespace LinkedSelect.Url

/-- Why an address is no URL. -/
inductive ParseError
  | relativeWithoutBase
  | relativeWithRootlessBase
  | emptyHost
  | invalidPort
  | invalidIpv4
  | invalidIpv6
  | invalidDomain
  | invalidHostCharacter
  deriving DecidableEq, Repr

/-- The wording of a cause. -/
def ParseError.text : ParseError → String
  | .relativeWithoutBase => "relative URL without a base"
  | .relativeWithRootlessBase => "relative URL with a cannot-be-a-base base"
  | .emptyHost => "empty host"
  | .invalidPort => "invalid port number"
  | .invalidIpv4 => "invalid IPv4 address"
  | .invalidIpv6 => "invalid IPv6 address"
  | .invalidDomain => "invalid international domain name"
  | .invalidHostCharacter => "invalid domain character"

end LinkedSelect.Url
