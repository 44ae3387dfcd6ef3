import DeclaredSchema.Http.Address
import DeclaredSchema.Http.Domain
import DeclaredSchema.Http.Percent

/-!
# Hosts

The host of a URL is an address or a name. Under most schemes a name is a domain name; under the
others it is any text, percent-encoded.
-/

namespace DeclaredSchema

inductive HostFault where
  | empty
  | badDomain
  | badIpv4
  | badIpv6
  /-- A character that no name holds. -/
  | badChar
  deriving DecidableEq, Repr

inductive Host where
  | name (name : String)
  | ipv4 (address : Ipv4)
  | ipv6 (address : Ipv6)
  deriving DecidableEq, Repr

namespace Host

def text : Host → String
  | name n => n
  | ipv4 a => a.text
  | ipv6 a => "[" ++ a.text ++ "]"

def isEmpty (h : Host) : Bool := h = name ""

/-- The address in brackets, behind the first of them. -/
def ofBracketed (cs : List Char) : Except HostFault Host :=
  if cs.getLast? = some ']' then
    match Ipv6.ofText? cs.dropLast with
    | some a => .ok (ipv6 a)
    | none => .error .badIpv6
  else .error .badIpv6

/-- A domain name, or an address if it ends in a number. -/
def ofDomain (cs : List Char) : Except HostFault Host :=
  match (Percent.decodedText? cs).bind (Domain.ofText? ·.toList) with
  | none => .error .badDomain
  | some [] => .error .empty
  | some domain =>
    if Ipv4.isMeant domain then match Ipv4.ofText? domain with
      | some a => .ok (ipv4 a)
      | none => .error .badIpv4
    else .ok (name (String.ofList domain))

/-- What no host holds, even where it is any text. -/
def isForbidden (c : Char) : Bool :=
  c ∈ ['\x00', '\t', '\n', '\x0d', ' ', '#', '/', ':', '<', '>', '?', '@', '[', '\\', ']', '^', '|']

def ofOpaque (cs : List Char) : Except HostFault Host :=
  if cs.any isForbidden then .error .badChar
  else .ok (name (String.ofList (Percent.encode Percent.keptInOpaque cs)))

/-- A host as it stands in a URL. -/
def ofText (isDomain : Bool) : List Char → Except HostFault Host
  | '[' :: rest => ofBracketed rest
  | cs => if isDomain then ofDomain cs else ofOpaque cs

end Host

end DeclaredSchema
