import Retrieval.Utf8

/-!
# Percent encoding

In an address an octet may be written as a percent sign and two hexadecimal digits.  A percent sign
without two digits after it stands for itself.
-/

namespace Retrieval.Url

/-- The value of an octet that is a hexadecimal digit. -/
def hexOctet? (octet : UInt8) : Option UInt8 :=
  if 0x30 ≤ octet ∧ octet ≤ 0x39 then some (octet - 0x30)
  else if 0x41 ≤ octet ∧ octet ≤ 0x46 then some (octet - 0x41 + 10)
  else if 0x61 ≤ octet ∧ octet ≤ 0x66 then some (octet - 0x61 + 10)
  else none

/-- The octets that percent-encoded octets stand for. -/
def percentDecode : List UInt8 → List UInt8
  | 0x25 :: high :: low :: rest =>
    match hexOctet? high, hexOctet? low with
    | some h, some l => (h * 16 + l) :: percentDecode rest
    | _, _ => 0x25 :: percentDecode (high :: low :: rest)
  | octet :: rest => octet :: percentDecode rest
  | [] => []

/-- An address as people read it, with replacement characters for what is not UTF-8. -/
def readable (address : String) : String :=
  String.ofList (Utf8.decodeLossy (percentDecode (Utf8.encode address.toList)))

end Retrieval.Url
