import DeepLinks.Idna.Domain
import DeepLinks.Url.Escape
import DeepLinks.Url.Ipv4
import DeepLinks.Url.Ipv6

/-!
# Hosts

A host in brackets is an address of eight groups. Any other host of a special scheme is a domain
name, which is brought into ASCII form and may turn out to be an address of four bytes. Hosts of
other schemes are not interpreted.
-/

namespace DeepLinks.Url

/-- Why a text is no URL. -/
inductive ParseError where
  | emptyHost
  | invalidDomain
  | invalidPort
  | invalidIpv4
  | invalidIpv6
  | invalidHostCharacter
  | noScheme
deriving DecidableEq, Repr

def ParseError.message : ParseError → String
  | emptyHost => "empty host"
  | invalidDomain => "invalid international domain name"
  | invalidPort => "invalid port number"
  | invalidIpv4 => "invalid IPv4 address"
  | invalidIpv6 => "invalid IPv6 address"
  | invalidHostCharacter => "invalid domain character"
  | noScheme => "relative URL without a base"

namespace Host

/-- Characters that no host may hold. -/
def isForbidden (c : Char) : Bool :=
  ['\x00', '\t', '\n', '\r', ' ', '#', '/', ':', '<', '>', '?', '@', '[', '\\', ']', '^',
    '|'].contains c

/-- Characters that no domain name may hold. -/
def isForbiddenInDomain (c : Char) : Bool :=
  isForbidden c || c.toNat < 0x20 || c == '%' || c.toNat == 0x7F

/-- An address in brackets; the first bracket is read. -/
def bracketed (s : List Char) : Except ParseError (List Char) :=
  match s.getLast?, Ipv6.parse? s.dropLast with
  | some ']', some groups => .ok ('[' :: Ipv6.render groups ++ [']'])
  | _, _ => .error .invalidIpv6

/-- A domain name or an address of four bytes. -/
def domain (s : List Char) : Except ParseError (List Char) :=
  match String.fromUTF8? ⟨(unescape s).toArray⟩ with
  | none => .error .invalidDomain
  | some name =>
    match Idna.toAscii? isForbiddenInDomain name.toList with
    | none => .error .invalidDomain
    | some [] => .error .emptyHost
    | some ascii =>
      if Ipv4.endsInNumber ascii then
        match Ipv4.parse? ascii with
        | some address => .ok (Ipv4.render address)
        | none => .error .invalidIpv4
      else .ok ascii

/-- The host of a special scheme. -/
def parse : List Char → Except ParseError (List Char)
  | '[' :: s => bracketed s
  | s => domain s

/-- The host of another scheme. -/
def parseOpaque : List Char → Except ParseError (List Char)
  | '[' :: s => bracketed s
  | s =>
    if s.any isForbidden then .error .invalidHostCharacter
    else .ok (escapeWhere (fun _ => false) s)

end Host

end DeepLinks.Url
