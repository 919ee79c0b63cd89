import Yunbay.Subscription.Schema

/-!
# IP addresses, networks and their texts

The part of Go's `net` package that the SSRF protection rests on, and `isPrivateIP` of
`common/ssrf_protection.go`.

An `IP` is an IPv4 address, or an IPv6 address that does not map one: Go's `To4` makes no difference
between the two forms of an IPv4 address. Texts are lists of characters.
-/

namespace Yunbay

/-! ## Addresses -/

/-- The prefix `::ffff:0:0/96` of the IPv6 addresses that map an IPv4 address. -/
def isMapped (a : BitVec 128) : Bool := a >>> 32 = 0xffff#128

/-- `net.IP`, up to the form of an IPv4 address. -/
inductive IP where
  | v4 (a : BitVec 32)
  | v6 (a : BitVec 128) (not_mapped : isMapped a = false)
  deriving DecidableEq

/-- The address of an IPv6 text. -/
def IP.ofV6 (a : BitVec 128) : IP :=
  if h : isMapped a = true then .v4 (a.truncate 32) else .v6 a (by simpa using h)

/-- The first `bits` bits of two numbers are the same. -/
def samePrefix {w : Nat} (bits : Nat) (a b : BitVec w) : Bool := a >>> (w - bits) = b >>> (w - bits)

/-- `net.IPNet`: an address and the number of bits that count. -/
inductive Network where
  | v4 (base : BitVec 32) (bits : Nat)
  | v6 (base : BitVec 128) (bits : Nat)

def Network.contains : Network → IP → Bool
  | .v4 base bits, .v4 a => samePrefix bits base a
  | .v6 base bits, .v6 a _ => samePrefix bits base a
  | _, _ => false

/-- An IPv4 address by its bytes. -/
def ipv4 (a b c d : Nat) : BitVec 32 := BitVec.ofNat 32 (((a * 256 + b) * 256 + c) * 256 + d)

def privateIPv4Nets : List Network :=
  [.v4 (ipv4 0 0 0 0) 8, .v4 (ipv4 10 0 0 0) 8, .v4 (ipv4 100 64 0 0) 10, .v4 (ipv4 127 0 0 0) 8,
    .v4 (ipv4 169 254 0 0) 16, .v4 (ipv4 172 16 0 0) 12, .v4 (ipv4 192 0 0 0) 24,
    .v4 (ipv4 192 0 2 0) 24, .v4 (ipv4 192 168 0 0) 16, .v4 (ipv4 198 18 0 0) 15,
    .v4 (ipv4 198 51 100 0) 24, .v4 (ipv4 203 0 113 0) 24, .v4 (ipv4 224 0 0 0) 4,
    .v4 (ipv4 240 0 0 0) 4, .v4 (ipv4 255 255 255 255) 32]

/-- An IPv6 address by its first two groups. -/
def ipv6Head (a b : Nat) : BitVec 128 := BitVec.ofNat 128 ((a * 65536 + b) * 2 ^ 96)

/-- `privateIPv6Nets`. `::ffff:0:0/96` is a network of IPv4 addresses to Go. -/
def privateIPv6Nets : List Network :=
  [.v6 0 128, .v6 1 128, .v4 0 0, .v6 (ipv6Head 0x64 0xff9b) 96, .v6 (ipv6Head 0x100 0) 64,
    .v6 (ipv6Head 0x2001 0) 23, .v6 (ipv6Head 0x2001 0xdb8) 32, .v6 (ipv6Head 0xfc00 0) 7,
    .v6 (ipv6Head 0xfe80 0) 10, .v6 (ipv6Head 0xff00 0) 8]

namespace IP

def isUnspecified : IP → Bool
  | .v4 a => a = 0
  | .v6 a _ => a = 0

def isLoopback : IP → Bool
  | .v4 a => samePrefix 8 (ipv4 127 0 0 0) a
  | .v6 a _ => a = 1

def isLinkLocalUnicast : IP → Bool
  | .v4 a => samePrefix 16 (ipv4 169 254 0 0) a
  | .v6 a _ => samePrefix 10 (ipv6Head 0xfe80 0) a

/-- The scope of an IPv6 multicast address. -/
def isMulticastScope (a : BitVec 128) (scope : BitVec 128) : Bool :=
  samePrefix 8 (ipv6Head 0xff00 0) a ∧ (a >>> 112) &&& 0xf = scope

def isLinkLocalMulticast : IP → Bool
  | .v4 a => samePrefix 24 (ipv4 224 0 0 0) a
  | .v6 a _ => isMulticastScope a 2

def isInterfaceLocalMulticast : IP → Bool
  | .v4 _ => false
  | .v6 a _ => isMulticastScope a 1

/-- `IP.IsPrivate` of an IPv6 address. -/
def isUniqueLocal (a : BitVec 128) : Bool := samePrefix 7 (ipv6Head 0xfc00 0) a

end IP

/-- `isPrivateIP` of an address. -/
def isPrivateIP (ip : IP) : Bool :=
  ip.isUnspecified || ip.isLoopback || ip.isLinkLocalUnicast || ip.isLinkLocalMulticast ||
    ip.isInterfaceLocalMulticast ||
    match ip with
    | .v4 _ => privateIPv4Nets.any (·.contains ip)
    | .v6 a _ => privateIPv6Nets.any (·.contains ip) || IP.isUniqueLocal a

/-! ## Texts of addresses -/

/-- The number that decimal digits stand for. -/
def decimal (digits : List Char) : Nat :=
  digits.foldl (fun n c => n * 10 + (c.toNat - '0'.toNat)) 0

/-- A number between dots: at most 255, and without a leading zero. -/
def parseOctet (digits : List Char) : Option Nat :=
  if digits ≠ [] ∧ digits.all Char.isDigit ∧ decimal digits ≤ 255 ∧
      (digits.head? = some '0' → digits = ['0']) then
    some (decimal digits)
  else none

def parseIPv4 (text : List Char) : Option (BitVec 32) :=
  match (text.splitOn '.').mapM parseOctet with
  | some [a, b, c, d] => some (ipv4 a b c d)
  | _ => none

/-- A hexadecimal digit. -/
def hexValue (c : Char) : Option Nat :=
  if c.isDigit then some (c.toNat - '0'.toNat)
  else if 'a' ≤ c ∧ c ≤ 'f' then some (c.toNat - 'a'.toNat + 10)
  else if 'A' ≤ c ∧ c ≤ 'F' then some (c.toNat - 'A'.toNat + 10)
  else none

/-- The number that hexadecimal digits stand for. -/
def hexadecimal (digits : List Char) : Nat :=
  digits.foldl (fun n c => n * 16 + (hexValue c).getD 0) 0

/-- The loop of `parseIPv6` over at most eight groups: the groups, the place of `::` among them, and
the text that is left. -/
def parseGroups : Nat → List Char → List Nat → Option Nat →
    Option (List Nat × Option Nat × List Char)
  | 0, text, groups, ellipsis => some (groups, ellipsis, text)
  | fuel + 1, text, groups, ellipsis =>
    let digits := text.takeWhile fun c => (hexValue c).isSome
    if digits = [] ∨ 4 < digits.length then none
    else
      match text.dropWhile fun c => (hexValue c).isSome with
      | '.' :: _ =>
        -- the last two groups may be written as an IPv4 address
        if (ellipsis = none ∧ groups.length ≠ 6) ∨ 6 < groups.length then none
        else (parseIPv4 text).map fun a =>
          (groups ++ [a.toNat / 65536, a.toNat % 65536], ellipsis, [])
      | [] => some (groups ++ [hexadecimal digits], ellipsis, [])
      | [':'] => none
      | [':', ':'] =>
        if ellipsis.isSome then none
        else some (groups ++ [hexadecimal digits], some (groups.length + 1), [])
      | ':' :: ':' :: rest =>
        if ellipsis.isSome then none
        else parseGroups fuel rest (groups ++ [hexadecimal digits]) (some (groups.length + 1))
      | ':' :: rest => parseGroups fuel rest (groups ++ [hexadecimal digits]) ellipsis
      | _ => none

/-- The eight groups, with zeros at the place of `::`. -/
def expandGroups (groups : List Nat) : Option Nat → Option (List Nat)
  | none => if groups.length = 8 then some groups else none
  | some place =>
    if groups.length < 8 then
      some (groups.take place ++ List.replicate (8 - groups.length) 0 ++ groups.drop place)
    else none

/-- `parseIPv6` of a text without a zone. -/
def parseIPv6 (text : List Char) : Option (BitVec 128) := do
  let (groups, ellipsis, rest) ←
    match text with
    | [':', ':'] => some ([], some 0, [])
    | ':' :: ':' :: rest => parseGroups 8 rest [] (some 0)
    | _ => parseGroups 8 text [] none
  if rest ≠ [] then none
  else
    let groups ← expandGroups groups ellipsis
    some (BitVec.ofNat 128 (groups.foldl (fun n group => n * 65536 + group) 0))

/-- The result of `netip.ParseAddr`, where an IPv6 address may have a zone. -/
inductive Literal where
  | v4 (a : BitVec 32)
  | v6 (a : BitVec 128) (zone : List Char)

/-- `netip.ParseAddr`: the first dot, colon or percent sign decides. -/
def parseAddr (text : List Char) : Option Literal :=
  match text.find? fun c => c = '.' ∨ c = ':' ∨ c = '%' with
  | some '.' => (parseIPv4 text).map .v4
  | some ':' =>
    let zone := text.dropWhile (· ≠ '%')
    if zone = ['%'] then none
    else (parseIPv6 (text.takeWhile (· ≠ '%'))).map (.v6 · zone.tail)
  | _ => none

/-- The address of a literal. -/
def Literal.ip : Literal → IP
  | .v4 a => .v4 a
  | .v6 a _ => IP.ofV6 a

/-- `net.ParseIP`, which takes no zone. -/
def parseIP (text : List Char) : Option IP :=
  match parseAddr text with
  | some (.v4 a) => some (.v4 a)
  | some (.v6 a []) => some (IP.ofV6 a)
  | _ => none

lemma parseAddr_of_parseIP {text : List Char} {ip : IP} (h : parseIP text = some ip) :
    ∃ literal, parseAddr text = some literal ∧ literal.ip = ip := by
  unfold parseIP at h
  split at h
  · next a haddr => exact ⟨.v4 a, haddr, Option.some.inj h⟩
  · next a haddr => exact ⟨.v6 a [], haddr, Option.some.inj h⟩
  · cases h

/-- A network of IPv6 texts; one of mapped addresses is a network of IPv4 addresses. -/
def Network.ofV6 (base : BitVec 128) (bits : Nat) : Network :=
  if isMapped base ∧ 96 ≤ bits then .v4 (base.truncate 32) (bits - 96) else .v6 base bits

def parseCIDR (text : List Char) : Option Network :=
  match text.dropWhile (· ≠ '/') with
  | '/' :: mask =>
    if mask = [] ∨ ¬mask.all Char.isDigit then none
    else
      match parseAddr (text.takeWhile (· ≠ '/')) with
      | some (.v4 a) => if decimal mask ≤ 32 then some (.v4 a (decimal mask)) else none
      | some (.v6 a []) => if decimal mask ≤ 128 then some (Network.ofV6 a (decimal mask)) else none
      | _ => none
  | _ => none

/-- `IsIpInCIDRList`: an entry is a network or a single address. -/
def isIpInCIDRList (ip : IP) (cidrList : List String) : Bool :=
  cidrList.any fun cidr =>
    match parseCIDR cidr.toList with
    | some network => network.contains ip
    | none => parseIP cidr.toList = some ip

end Yunbay
