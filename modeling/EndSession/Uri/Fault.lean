import EndSession.Value.Printer

/-
This file names what makes a text no URI.
-/

namespace EndSession.Uri

/-- A text is not a URI because of its authority. -/
inductive Fault where
  /-- Square brackets do not enclose exactly the host. -/
  | brackets
  /-- The host in brackets is an IPv4 address. -/
  | bracketedIPv4
  /-- The host in brackets claims a future kind of address and does not have its form. -/
  | futureAddress
  /-- The host in brackets is no address. -/
  | noAddress (host : Text)
  /-- A character of the authority is compatible with one that ends or divides an authority. -/
  | compatibleDelimiter (authority : Text)
deriving DecidableEq

/-- The message of a fault. -/
def Fault.message : Fault → Text
  | brackets => "Invalid IPv6 URL"
  | bracketedIPv4 => "An IPv4 address cannot be in brackets"
  | futureAddress => "IPvFuture address is invalid"
  | noAddress host => (Value.printText host ++ " does not appear to be an IPv4 or IPv6 address" : String)
  | compatibleDelimiter authority =>
    "netloc '" ++ authority ++ "' contains invalid characters under NFKC normalization"

end EndSession.Uri
