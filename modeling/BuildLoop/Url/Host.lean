import BuildLoop.Url.Domain
import BuildLoop.Url.Numeric

/-!
# Hosts

The host of an address on the web is a domain or a number. Elsewhere a host is a text.

    readWebHost cs = ok h   →   h ≠ empty and h is no plain text
-/

namespace BuildLoop.Url

open Text

/-- Why a text is no address. -/
inductive Fault where
  | noScheme
  | emptyHost
  | badDomain
  | badCharacter
  | badAddress4
  | badAddress6
  | badPort
  deriving DecidableEq, Repr

/-- The fault in words. -/
def Fault.text : Fault → String
  | noScheme => "relative URL without a base"
  | emptyHost => "empty host"
  | badDomain => "invalid international domain name"
  | badCharacter => "invalid domain character"
  | badAddress4 => "invalid IPv4 address"
  | badAddress6 => "invalid IPv6 address"
  | badPort => "invalid port number"

/-- A host. -/
inductive Host where
  | empty
  /-- The name of a host on the web. -/
  | domain (name : String)
  /-- A number of 32 bits. -/
  | address4 (n : Nat)
  /-- A number of 128 bits in eight groups. -/
  | address6 (groups : List Nat)
  /-- The name of a host elsewhere. -/
  | plain (name : String)
  deriving DecidableEq, Repr

namespace Host

/-- The host in text. -/
def text : Host → String
  | empty => ""
  | domain name => name
  | address4 n => address4Text n
  | address6 gs => "[" ++ groupsText gs ++ "]"
  | plain name => name

end Host

/-! ## Reading -/

/-- The host in brackets, if a text starts with one. -/
def bracketed? : List Char → Option (Except Fault Host)
  | '[' :: r =>
    some (match (before? [']'] r).bind groups? with
      | some gs => .ok (.address6 gs)
      | none => .error .badAddress6)
  | _ => none

/-- The host on the web that a text names. -/
def readWebHost (cs : List Char) : Except Fault Host :=
  match bracketed? cs with
  | some r => r
  | none =>
    match (unescaped? cs).bind fun s => Domain.inAscii? s.toList with
    | none => .error .badDomain
    | some domain =>
      if domain.isEmpty then .error .emptyHost
      else if endsInNumber domain then
        match address4? domain with
        | some n => .ok (.address4 n)
        | none => .error .badAddress4
      else .ok (.domain (String.ofList domain))

/-- The host elsewhere that a text names. -/
def readPlainHost (cs : List Char) : Except Fault Host :=
  match bracketed? cs with
  | some r => r
  | none =>
    if cs.isEmpty then .ok .empty
    else if cs.any ("\x00\t\n\r #/:<>?@[\\]^|".toList.contains ·) then .error .badCharacter
    else .ok (.plain (escape isControl cs))

end BuildLoop.Url
