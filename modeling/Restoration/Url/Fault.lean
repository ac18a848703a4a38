/-
Why a text is no URL. Relative URLs do not come up: a text is only read
as a URL once it starts with a scheme.
-/
namespace Restoration.Url

/-- What is wrong with a URL. -/
inductive Fault
  | emptyHost
  | invalidName
  | invalidPort
  | invalidIPv4
  | invalidIPv6
  deriving DecidableEq, Repr

/-- The wording of a fault. -/
def Fault.message : Fault → String
  | .emptyHost => "empty host"
  | .invalidName => "invalid international domain name"
  | .invalidPort => "invalid port number"
  | .invalidIPv4 => "invalid IPv4 address"
  | .invalidIPv6 => "invalid IPv6 address"

end Restoration.Url
