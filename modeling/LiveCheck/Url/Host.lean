import LiveCheck.Domain.Name
import LiveCheck.Url.Escape
import LiveCheck.Url.Ipv4
import LiveCheck.Url.Ipv6

/-!
Hosts of addresses.

A host is a name or an internet address. Where a scheme has hosts of its own their names are
domain names; elsewhere a name is any text, with little that it may not have in it.
-/

namespace LiveCheck

/-- A host. -/
inductive Host where
  | name (text : String)
  | ipv4 (address : Ipv4)
  | ipv6 (address : Ipv6)
deriving DecidableEq, Repr

namespace Host

/-- A host as written. -/
def text : Host → String
  | .name text => text
  | .ipv4 address => address.text
  | .ipv6 address => "[" ++ address.text ++ "]"

/-- The internet address in brackets, where what follows the left one is given. -/
def bracketed? (rest : List Char) : Option Host :=
  if rest.getLast? = some ']' then
    (Ipv6.ofText? (String.ofList rest.dropLast)).map .ipv6
  else none

/-- The host that a domain name in normal form stands for. A name that ends in a
number is an internet address or nothing. -/
def ofDomain? (name : String) : Option Host :=
  if name.isEmpty then none
  else if Ipv4.isNumeric name.toList then (Ipv4.ofText? name.toList).map .ipv4
  else some (.name name)

/-- The host that a text writes where hosts have domain names. -/
def ofText? : List Char → Option Host
  | '[' :: rest => bracketed? rest
  | cs => do
    let name ← String.fromUTF8? ⟨(Escape.unescape cs).toArray⟩
    ofDomain? (← Domain.ofText? name.toList)

/-- Characters that no name of a host may have. -/
def isForbidden (c : Char) : Bool :=
  ['\x00', '\t', '\n', '\r', ' ', '#', '/', ':', '<', '>', '?', '@', '[', '\\', ']', '^',
    '|'].contains c

/-- The host that a text writes where names may be any text. -/
def ofPlainText? : List Char → Option Host
  | '[' :: rest => bracketed? rest
  | cs => if cs.any isForbidden then none else some (.name (Escape.escape Escape.isControl cs))

/-- Whether a host is this computer by name. -/
def isLocal (host : Host) : Bool :=
  host = .name "localhost"

end Host

end LiveCheck
