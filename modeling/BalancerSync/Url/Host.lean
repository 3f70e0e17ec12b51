import BalancerSync.Address.Ip
import BalancerSync.Url.Domain.Basic
import BalancerSync.Url.Percent

/-!
# Hosts of URLs

In the well-known schemes a host is a domain name or an address, and a name whose last part is a
number can only be an address. In all other schemes a host is any text without delimiters, or an
address in brackets.
-/

namespace BalancerSync.Url

open Text

/-- Why a text is no URL. -/
inductive ParseError
  | emptyHost
  | badDomain
  | badCharacter
  | badIpv4
  | badIpv6
  | badPort
  /-- There is no scheme. -/
  | relative
  /-- The URL that a reference is resolved over has no parts. -/
  | flatBase
  deriving DecidableEq, Repr

def ParseError.message : ParseError → String
  | emptyHost => "empty host"
  | badDomain => "invalid international domain name"
  | badCharacter => "invalid domain character"
  | badIpv4 => "invalid IPv4 address"
  | badIpv6 => "invalid IPv6 address"
  | badPort => "invalid port number"
  | relative => "relative URL without a base"
  | flatBase => "relative URL with a cannot-be-a-base base"

inductive Host
  | name (s : String)
  | address (ip : Ip)
  deriving DecidableEq, Repr

namespace Host

/-! ## Addresses -/

/-- A number in decimal digits, octal digits after a zero, or hexadecimal digits after a zero and
an x. -/
def readNumber? (cs : List Char) : Option Nat :=
  match cs with
  | [] => none
  | ['0', 'x'] | ['0', 'X'] => some 0
  | '0' :: 'x' :: r | '0' :: 'X' :: r => readDigits? 16 r
  | '0' :: _ :: _ => readDigits? 8 cs
  | _ => readDigits? 10 cs

/-- The parts of a domain name without the empty one after a final dot. -/
def labels (cs : List Char) : List (List Char) :=
  let parts := splitOn '.' cs
  if parts.getLast? = some [] ∧ 1 < parts.length then parts.dropLast else parts

def endsInNumber (cs : List Char) : Bool :=
  match (labels cs).getLast? with
  | some l => (!l.isEmpty && l.all Char.isDigit) || (readNumber? l).isSome
  | none => false

/-- Up to four numbers. All but the last one are octets, which fills what they leave. -/
def ipv4? (cs : List Char) : Option Ip := do
  let numbers ← (labels cs).mapM readNumber?
  let last ← numbers.getLast?
  if 4 < numbers.length ∨ numbers.dropLast.any (255 < ·) then none
  else
    let rest := 5 - numbers.length
    if last < Nat.pow 256 rest then
      some (.v4 (BitVec.ofNat 32 (ofDigits 256 numbers.dropLast * Nat.pow 256 rest + last)))
    else none

/-! ## Names -/

/-- Characters that no host may contain. -/
def isForbidden (c : Char) : Bool :=
  [0, 9, 0xA, 0xD].contains c.toNat
    || [' ', '#', '/', ':', '<', '>', '?', '@', '[', '\\', ']', '^', '|'].contains c

/-! ## Reading -/

/-- An address in brackets, after the opening one. -/
def readBracketed (cs : List Char) : Except ParseError Host :=
  match cs.getLast? with
  | some ']' =>
    match Ip.readGroups? cs.dropLast with
    | some gs => .ok (.address (.v6 (BitVec.ofNat 128 (ofDigits 65536 gs))))
    | none => .error .badIpv6
  | _ => .error .badIpv6

/-- The host of a well-known scheme. -/
def readSpecial (cs : List Char) : Except ParseError Host :=
  match cs with
  | '[' :: r => readBracketed r
  | _ =>
    let bytes := percentDecode cs
    let text := readUtf8 bytes
    if utf8 text ≠ bytes then .error .badDomain
    else
      match Domain.toAscii? text with
      | none => .error .badDomain
      | some domain =>
        if domain.isEmpty then .error .emptyHost
        else if endsInNumber domain then
          match ipv4? domain with
          | some ip => .ok (.address ip)
          | none => .error .badIpv4
        else .ok (.name (String.ofList domain))

/-- The host of any other scheme. -/
def readOther (cs : List Char) : Except ParseError Host :=
  match cs with
  | '[' :: r => readBracketed r
  | _ =>
    if cs.any isForbidden then .error .badCharacter
    else .ok (.name (String.ofList (percentEncode isControl cs)))

/-! ## Writing -/

def render : Host → List Char
  | name s => s.toList
  | address (.v4 b) => Ip.renderQuad b
  | address (.v6 b) => '[' :: Ip.renderShort (Ip.groups b) ++ [']']

end Host

end BalancerSync.Url
