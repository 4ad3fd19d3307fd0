/-!
# URL faults

Why a text is not a URL.
-/

namespace WalletNotify.Url

/-- Why a text is not a URL. -/
inductive Fault where
  | noHost
  | badDomain
  | badPort
  | badIpv4
  | badIpv6
  | badHostCharacter
  | notAbsolute
deriving DecidableEq, Repr

/-- The wording of a fault. -/
def Fault.message : Fault → String
  | noHost => "empty host"
  | badDomain => "invalid international domain name"
  | badPort => "invalid port number"
  | badIpv4 => "invalid IPv4 address"
  | badIpv6 => "invalid IPv6 address"
  | badHostCharacter => "invalid domain character"
  | notAbsolute => "relative URL without a base"

end WalletNotify.Url
