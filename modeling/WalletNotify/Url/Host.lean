import WalletNotify.Url.Address
import WalletNotify.Url.Domain
import WalletNotify.Url.Percent

/-!
# Hosts

A host is a name or an address. Under the well-known schemes names are domain names, and those that
end in a number are addresses.
-/

namespace WalletNotify.Url

/-- A host; a name may be empty where a scheme allows it. -/
inductive Host where
  | name (text : String)
  | ipv4 (address : Ipv4)
  | ipv6 (address : Ipv6)
deriving DecidableEq, Repr

namespace Host

/-- The text of a host in a URL. -/
def text : Host → String
  | name s => s
  | ipv4 a => Ipv4.text a
  | ipv6 a => "[" ++ Ipv6.text a ++ "]"

/-- Reads an address in brackets, its opening one already read. -/
def readBracketed (cs : List Char) : Except Fault Host :=
  if cs.getLast? = some ']' then (Ipv6.read cs.dropLast).map ipv6 else .error .badIpv6

/-- Reads the host of a well-known scheme. -/
def read (cs : List Char) : Except Fault Host :=
  match cs with
  | '[' :: rest => readBracketed rest
  | _ =>
    match Domain.toAscii? (percentDecode (Text.utf8 (String.ofList cs))) with
    | none => .error .badDomain
    | some [] => .error .noHost
    | some ascii =>
      if Ipv4.endsInNumber ascii then (Ipv4.read ascii).map ipv4
      else .ok (name (String.ofList ascii))

/-- Characters that the host of another scheme does not have. -/
def isExcluded (c : Char) : Bool :=
  ['\x00', '\t', '\n', '\r', ' ', '#', '/', ':', '<', '>', '?', '@', '[', '\\', ']', '^',
    '|'].contains c

/-- Reads the host of any other scheme. -/
def readOther (cs : List Char) : Except Fault Host :=
  match cs with
  | '[' :: rest => readBracketed rest
  | _ =>
    if cs.any isExcluded then .error .badHostCharacter
    else .ok (name (String.ofList (percentEncode CharSet.controls cs)))

end Host

end WalletNotify.Url
