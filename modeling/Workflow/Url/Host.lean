import Workflow.DomainName.Basic

/-!
# Hosts of URLs

A host is kept as text in one normal form, so that two spellings of a host are equal texts.

* `ofSpecial?` reads the host of a scheme such as `http`: a domain, an IPv4 or an IPv6 address.
* `ofOther?` reads the host of any other scheme, which is any text without forbidden characters, or
  an IPv6 address.
-/

namespace Workflow.Host

/-! ## IPv4 -/

/-- A number in base eight, ten or sixteen, as its start announces; none if it is malformed. -/
def readIpv4Number? (text : List Char) : Option Nat :=
  let (radix, digits) := match text with
    | '0' :: x :: rest =>
      if x = 'x' ∨ x = 'X' then (16, rest) else (8, x :: rest)
    | other => (10, other)
  if text.isEmpty then none
  else
    digits.foldlM (fun n c => do
      let d ← Hex.value? c
      if d < radix then return n * radix + d else none) 0

/-- The numbers of a dotted address; a last dot is passed over. -/
def dottedParts (domain : List Char) : List (List Char) :=
  let parts := domain.splitOn '.'
  if 1 < parts.length ∧ parts.getLast? = some [] then parts.dropLast else parts

/-- Whether the last part of a domain is a number, which makes the domain an address. -/
def endsInNumber (domain : List Char) : Bool :=
  match (dottedParts domain).getLast? with
  | none => false
  | some last => (!last.isEmpty && last.all Char.isDigit) || (readIpv4Number? last).isSome

/-- The address of numbers of which the last fills all remaining bytes. -/
def joinIpv4? (numbers : List Nat) : Option Nat :=
  match numbers.reverse with
  | [] => none
  | last :: front =>
    let count := front.length
    if 3 < count ∨ front.any (255 < ·) ∨ Nat.pow 256 (4 - count) ≤ last then none
    else some (front.reverse.foldl (fun n b => n * 256 + b) 0 * Nat.pow 256 (4 - count) + last)

/-- The dotted text of an address. -/
def ipv4Text (address : Nat) : List Char :=
  let part (shift : Nat) : List Char := Nat.toDigits 10 (address / Nat.pow 256 shift % 256)
  part 3 ++ '.' :: part 2 ++ '.' :: part 1 ++ '.' :: part 0

/-- Reads an IPv4 address. -/
def readIpv4? (domain : List Char) : Option (List Char) := do
  let numbers ← (dottedParts domain).mapM readIpv4Number?
  return ipv4Text (← joinIpv4? numbers)

/-! ## IPv6 -/

/-- One group of up to four hexadecimal digits. -/
def readGroup? (text : List Char) : Option Nat :=
  if text.isEmpty ∨ 4 < text.length then none
  else text.foldlM (fun n c => (Hex.value? c).map (n * 16 + ·)) 0

/-- One number of a dotted address inside an IPv6 address: up to 255, without leading zeros. -/
def readByte? (text : List Char) : Option Nat :=
  let value := text.foldl (fun n c => n * 10 + (c.toNat - 48)) 0
  if text.isEmpty ∨ !text.all Char.isDigit ∨ 255 < value then none
  else if 1 < text.length ∧ text.head? = some '0' then none
  else some value

/-- The two groups of a dotted address. -/
def readDotted? (text : List Char) : Option (List Nat) := do
  match ← (text.splitOn '.').mapM readByte? with
  | [a, b, c, d] => return [a * 256 + b, c * 256 + d]
  | _ => none

/-- Groups between colons, the last of which may be a dotted address. -/
def readGroups? : List (List Char) → Option (List Nat)
  | [] => some []
  | [last] => if last.contains '.' then readDotted? last else (readGroup? last).map ([·])
  | group :: rest => do
    let n ← readGroup? group
    return n :: (← readGroups? rest)

/-- Groups of a part of an address, which may be empty. -/
def readPart? (text : List Char) : Option (List Nat) :=
  if text.isEmpty then some [] else readGroups? (text.splitOn ':')

/-- The parts before and after the first double colon. -/
def splitGap : List Char → Option (List Char × List Char)
  | ':' :: ':' :: rest => some ([], rest)
  | c :: rest => (splitGap rest).map fun (before, after) => (c :: before, after)
  | [] => none

/-- The eight groups of an address; a double colon stands for at least one group of zeros. -/
def readIpv6Groups? (text : List Char) : Option (List Nat) := do
  match splitGap text with
  | none =>
    let groups ← readPart? text
    if groups.length = 8 then return groups else none
  | some (before, after) =>
    if before.contains '.' then none
    else
      let front ← readPart? before
      let back ← readPart? after
      let given := front.length + back.length
      if given < 8 then return front ++ List.replicate (8 - given) 0 ++ back else none

/-- Reads an IPv6 address between its brackets. -/
def readIpv6? (text : List Char) : Option (List Char) := do
  match text with
  | '[' :: rest =>
    if rest.getLast? = some ']' then
      let groups ← readIpv6Groups? rest.dropLast
      return '[' :: List.intercalate [':'] (groups.map (Nat.toDigits 16)) ++ [']']
    else none
  | _ => none

/-! ## Domains -/

/-- The normal form of a domain or an IPv4 address. -/
def ofDomain? (text : List Char) : Option (List Char) := do
  let domain ← DomainName.toAscii? (← Utf8.decodeChars? (Percent.decode text))
  if domain.isEmpty then none
  else if endsInNumber domain then readIpv4? domain
  else return domain

/-- The host of a scheme with domains. -/
def ofSpecial? (text : List Char) : Option (List Char) :=
  if text.head? = some '[' then readIpv6? text else ofDomain? text

/-- Characters that no other host holds. -/
def isForbidden (c : Char) : Bool := "\x00\t\n\x0d #/:<>?@[\\]^|".toList.contains c

/-- Controls and characters outside ASCII, which a host shows by escapes. -/
def isPlain (c : Char) : Bool := 0x20 ≤ c.toNat && c.toNat < 0x7F

/-- The host of a scheme without domains. -/
def ofOther? (text : List Char) : Option (List Char) :=
  if text.head? = some '[' then readIpv6? text
  else if text.any isForbidden then none
  else some (Percent.encodeChars isPlain text)

end Workflow.Host
