import HeaderBidding.Web.Domain

/-!
# Web addresses

`isHttpUrl` tells whether a text is an absolute web address with a host, as a browser reads
it: after leading and trailing controls and spaces are dropped and tabs and line breaks removed
anywhere, the text starts with a scheme `http` or `https` (in any case) and a colon; then come
slashes or backslashes in any number, an optional `user:password@`, a host and an optional
port, up to the first `/`, `\`, `?` or `#`.

The host must be one of:

- an IPv6 address in brackets;
- a domain: after percent-decoding, a valid domain name (`Domain.labels?`) that is not empty;
- an IPv4 address, when the domain's last label is a number (decimal, `0x` hex or `0` octal):
  up to four parts, each below 256 but the last, which fills the rest of the 32 bits.

A port is decimal digits with a value below 65536.
-/

namespace HeaderBidding.Web

/-! ### Characters -/

/-- Whether a character is an ASCII letter. -/
def isAsciiAlpha (c : Char) : Bool :=
  ('a' ≤ c ∧ c ≤ 'z') ∨ ('A' ≤ c ∧ c ≤ 'Z')

/-- Whether a character is an ASCII digit. -/
def isAsciiDigit (c : Char) : Bool :=
  '0' ≤ c ∧ c ≤ '9'

/-- The value of an ASCII hex digit. -/
def hexValue? (c : Char) : Option Nat :=
  if isAsciiDigit c then some (c.toNat - 48)
  else if 'a' ≤ c ∧ c ≤ 'f' then some (c.toNat - 87)
  else if 'A' ≤ c ∧ c ≤ 'F' then some (c.toNat - 55)
  else none

/-- Lowercase of an ASCII letter; other characters as they are. -/
def asciiLower (c : Char) : Char :=
  if 'A' ≤ c ∧ c ≤ 'Z' then Char.ofNat (c.toNat + 32) else c

/-! ### Numbers of IPv4 addresses -/

/-- The value of a part of an IPv4 address: decimal, `0x` hex, or octal after a leading `0`. -/
def ipv4Part? (part : List Char) : Option Nat :=
  let digitsIn (radix : Nat) (cs : List Char) : Option Nat :=
    cs.foldlM (fun acc c => (hexValue? c).bind fun d =>
      if d < radix then some (acc * radix + d) else none) 0
  match part with
  | [] => none
  | '0' :: 'x' :: rest | '0' :: 'X' :: rest => digitsIn 16 rest
  | '0' :: rest@(_ :: _) => digitsIn 8 rest
  | cs => digitsIn 10 cs

/-- Whether the last label of a domain is a number, which makes the domain an IPv4 address. -/
def endsInNumber (labels : List (List Char)) : Bool :=
  let labels := match labels.getLast? with
    | some [] => if labels.length = 1 then labels else labels.dropLast
    | _ => labels
  match labels.getLast? with
  | some last =>
    (!last.isEmpty && last.all isAsciiDigit) ||
      (match last with
       | '0' :: 'x' :: rest | '0' :: 'X' :: rest => rest.all fun c => (hexValue? c).isSome
       | _ => false)
  | none => false

/-- Whether a domain that ends in a number is an IPv4 address. -/
def ipv4Ok (labels : List (List Char)) : Bool :=
  let parts := match labels.getLast? with
    | some [] => if labels.length = 1 then labels else labels.dropLast
    | _ => labels
  if parts.length > 4 then false
  else
    match parts.mapM ipv4Part? with
    | none => false
    | some values =>
      let n := values.length
      (values.dropLast.all (· < 256)) &&
        (match values.getLast? with
         | some last => last < Nat.pow 256 (5 - n)
         | none => false)

/-! ### IPv6 addresses -/

/-- Hex digits at the head, at most four: their count and value. -/
def hexRun : List Char → Nat → Nat → Nat × Nat × List Char
  | [], count, value => (count, value, [])
  | c :: rest, count, value =>
    if count < 4 then
      match hexValue? c with
      | some d => hexRun rest (count + 1) (value * 16 + d)
      | none => (count, value, c :: rest)
    else (count, value, c :: rest)

/-- Whether the rest of an IPv6 address is a dotted IPv4 address of four decimal parts. -/
def embeddedIpv4Ok (cs : List Char) : Bool :=
  let parts := (String.ofList cs).splitOn "."
  parts.length = 4 && parts.all fun p =>
    let ds := p.toList
    !ds.isEmpty && ds.all isAsciiDigit && (ds.length = 1 || ds.head? ≠ some '0') &&
      ds.foldl (fun acc c => acc * 10 + (c.toNat - 48)) 0 < 256

/-- Reads the pieces of an IPv6 address after the start; gives whether it is well formed.
`pieces` counts the pieces read, `compressed` whether `::` was met. -/
def ipv6Pieces (fuel : Nat) (cs : List Char) (pieces : Nat) (compressed : Bool) : Bool :=
  match fuel with
  | 0 => false
  | fuel + 1 =>
    match cs with
    | [] => compressed || pieces = 8
    | ':' :: rest =>
      if compressed then false else ipv6Pieces fuel rest (pieces + 1) true
    | _ =>
      if pieces = 8 then false
      else
        let (count, _, rest) := hexRun cs 0 0
        match rest with
        | '.' :: _ =>
          count ≠ 0 && pieces ≤ 6 && embeddedIpv4Ok cs && (compressed || pieces + 2 = 8)
        | ':' :: [] => false
        | ':' :: more => count ≠ 0 && ipv6Pieces fuel more (pieces + 1) compressed
        | [] => count ≠ 0 && (compressed || pieces + 1 = 8)
        | _ => false

/-- Whether a text between brackets is an IPv6 address. -/
def ipv6Ok (cs : List Char) : Bool :=
  match cs with
  | ':' :: ':' :: rest => ipv6Pieces (cs.length + 2) rest 1 true
  | ':' :: _ => false
  | _ => ipv6Pieces (cs.length + 2) cs 0 false

/-! ### Hosts and addresses -/

/-- Percent-decodes a host into bytes. -/
def percentDecode : List Char → List UInt8
  | [] => []
  | '%' :: a :: b :: rest =>
    match hexValue? a, hexValue? b with
    | some x, some y => (x * 16 + y).toUInt8 :: percentDecode rest
    | _, _ => 37 :: percentDecode (a :: b :: rest)
  | c :: rest => (String.singleton c).toUTF8.toList ++ percentDecode rest

/-- Whether a host (not in brackets) is a well-formed domain or IPv4 address. -/
def domainOk (host : List Char) : Bool :=
  match String.fromUTF8? (ByteArray.mk (percentDecode host).toArray) with
  | none => false
  | some decoded =>
    match Domain.labels? decoded.toList with
    | none => false
    | some labels => labels != [[]] && (!endsInNumber labels || ipv4Ok labels)

/-- Whether a host is well formed: an IPv6 address in brackets, a domain or an IPv4 address. -/
def hostOk (host : List Char) : Bool :=
  match host with
  | [] => false
  | '[' :: rest =>
    match rest.getLast? with
    | some ']' => ipv6Ok rest.dropLast
    | _ => false
  | _ => domainOk host

/-- Splits a host and port at the first colon outside brackets. -/
def splitPort (cs : List Char) : List Char × Option (List Char) :=
  let rec go : List Char → Bool → List Char → List Char × Option (List Char)
    | [], _, acc => (acc.reverse, none)
    | c :: rest, inBrackets, acc =>
      if c == ':' && !inBrackets then (acc.reverse, some rest)
      else go rest (if c == '[' then true else if c == ']' then false else inBrackets) (c :: acc)
  go cs false []

/-- Whether a port is decimal digits with a value below 65536 (an empty port is none). -/
def portOk (port : List Char) : Bool :=
  port.all isAsciiDigit && port.foldl (fun acc c => acc * 10 + (c.toNat - 48)) 0 < 65536

/-- The text as a browser reads it: surrounding controls and spaces dropped, tabs and line
breaks removed. -/
def cleaned (text : String) : List Char :=
  let cs := text.toList.dropWhile (·.toNat ≤ 0x20)
  let cs := (cs.reverse.dropWhile (·.toNat ≤ 0x20)).reverse
  cs.filter fun c => c != '\t' && c != '\n' && c != '\r'

/-- The scheme of an address in lowercase and what follows its colon. -/
def splitScheme (cs : List Char) : Option (String × List Char) :=
  match cs with
  | c :: _ =>
    if !isAsciiAlpha c then none
    else
      let name := cs.takeWhile fun d => isAsciiAlpha d || isAsciiDigit d || d == '+' ||
        d == '-' || d == '.'
      match cs.drop name.length with
      | ':' :: rest => some (String.ofList (name.map asciiLower), rest)
      | _ => none
  | [] => none

/-- Whether a text is an absolute `http` or `https` address with a well-formed host and port. -/
def isHttpUrl (text : String) : Bool :=
  match splitScheme (cleaned text) with
  | some (scheme, rest) =>
    if scheme == "http" || scheme == "https" then
      let afterSlashes := rest.dropWhile fun c => c == '/' || c == '\\'
      let authority := afterSlashes.takeWhile fun c => !"/\\?#".toList.contains c
      let hostPort :=
        if authority.contains '@' then
          (authority.reverse.takeWhile (· != '@')).reverse
        else authority
      let (host, port) := splitPort hostPort
      hostOk host && (port.map portOk).getD true
    else false
  | none => false

end HeaderBidding.Web
