import LinkedSelect.Text.Hex
import LinkedSelect.Text.Split
import LinkedSelect.Url.Domain
import LinkedSelect.Url.Encoding
import LinkedSelect.Url.Error

/-!
# Hosts

A host is a domain, an IPv4 address, an IPv6 address, or empty. A domain whose last label is a number has to be an
IPv4 address: up to four numbers, decimal, octal or hexadecimal, of which the last fills the octets that are left.
An IPv6 address stands in brackets: eight groups of hexadecimal digits, of which a run of zeros may be left out
once, and of which the last two may be written as an IPv4 address.
-/

namespace LinkedSelect.Url

/-- A host. -/
inductive Host
  | empty
  | domain (name : String)
  /-- a number below `2 ^ 32` -/
  | ipv4 (address : Nat)
  /-- eight numbers below `2 ^ 16` -/
  | ipv6 (groups : List Nat)
  deriving DecidableEq, Repr

/-! ## IPv4 -/

/-- A number in a base, if all characters are digits of it. -/
def number? (base : Nat) (cs : List Char) : Option Nat :=
  cs.foldlM (fun n c =>
    match Hex.value? c.toNat with
    | some d => if d < base then some (n * base + d) else none
    | none => none) 0

/-- A number of an IPv4 address: hexadecimal behind `0x`, octal behind `0`, decimal otherwise. -/
def ipv4Number? : List Char → Option Nat
  | [] => none
  | '0' :: 'x' :: cs => number? 16 cs
  | '0' :: 'X' :: cs => number? 16 cs
  | '0' :: c :: cs => number? 8 (c :: cs)
  | cs => number? 10 cs

/-- The labels of a domain; an empty last one does not count. -/
def labels (cs : List Char) : List (List Char) :=
  let parts := Split.splitOn (· == '.') cs
  if 1 < parts.length ∧ parts.getLast? = some [] then parts.dropLast else parts

/-- The last label is a number, or at least consists of digits. -/
def endsInNumber (cs : List Char) : Bool :=
  match (labels cs).getLast? with
  | none => false
  | some [] => false
  | some l => l.all Char.isDigit || (ipv4Number? l).isSome

/-- The address of numbers from the highest octet on, of which the last fills what is left. -/
def ipv4OfNumbers? : Nat → List Nat → Option Nat
  | _, [] => none
  | octets, [n] => if n < Nat.pow 256 octets then some n else none
  | octets + 1, n :: m :: ns =>
    if n < 256 then (ipv4OfNumbers? octets (m :: ns)).map (n * Nat.pow 256 octets + ·) else none
  | 0, _ => none

/-- An IPv4 address as a domain. -/
def ipv4? (cs : List Char) : Option Nat :=
  if 4 < (labels cs).length then none else ((labels cs).mapM ipv4Number?).bind (ipv4OfNumbers? 4)

/-- The four octets in decimal. -/
def ipv4Text (n : Nat) : String :=
  String.intercalate "." ([n / 0x1000000, n / 0x10000 % 256, n / 0x100 % 256, n % 256].map toString)

/-! ## IPv6 -/

/-- A group: one to four hexadecimal digits. -/
def group? (cs : List Char) : Option Nat :=
  if cs = [] ∨ 4 < cs.length then none else number? 16 cs

/-- An octet in decimal without leading zeros. -/
def octet? (cs : List Char) : Option Nat :=
  if cs = [] ∨ (cs.head? = some '0' ∧ cs ≠ ['0']) then none else (number? 10 cs).filter (· < 256)

/-- The two groups that an embedded IPv4 address stands for. -/
def embedded? (cs : List Char) : Option (List Nat) :=
  match (Split.splitOn (· == '.') cs).mapM octet? with
  | some [a, b, c, d] => some [a * 256 + b, c * 256 + d]
  | _ => none

/-- Groups between colons; the last one may be an embedded address. -/
def groups? (embed : Bool) : List (List Char) → Option (List Nat)
  | [] => none
  | [last] => if embed ∧ '.' ∈ last then embedded? last else (group? last).map ([·])
  | cs :: rest => do return (← group? cs) :: (← groups? embed rest)

/-- What stands before and after the first pair of colons. -/
def cutAtGap : List Char → Option (List Char × List Char)
  | [] => none
  | [_] => none
  | c :: d :: cs =>
    if c = ':' ∧ d = ':' then some ([], cs)
    else (cutAtGap (d :: cs)).map fun (before, rest) => (c :: before, rest)

/-- Groups, or nothing at all. -/
def side? (embed : Bool) (cs : List Char) : Option (List Nat) :=
  if cs = [] then some [] else groups? embed (Split.splitOn (· == ':') cs)

/-- An IPv6 address without its brackets. -/
def ipv6? (cs : List Char) : Option (List Nat) :=
  match cutAtGap cs with
  | none => (groups? true (Split.splitOn (· == ':') cs)).filter (·.length = 8)
  | some (before, rest) => do
    let left ← side? false before
    let right ← side? true rest
    if left.length + right.length ≤ 7 then
      some (left ++ List.replicate (8 - left.length - right.length) 0 ++ right)
    else none

/-- The length of the run of zeros that begins at each place. -/
def zeroRuns (groups : List Nat) : List Nat :=
  (List.range groups.length).map fun i => ((groups.drop i).takeWhile (· == 0)).length

/-- Groups in lower case between colons. -/
def groupsText (groups : List Nat) : String :=
  String.intercalate ":" (groups.map fun n => String.ofList (Nat.toDigits 16 n))

/-- The groups, of which the first of the longest runs of two or more zeros is left out. -/
def ipv6Text (groups : List Nat) : String :=
  let runs := zeroRuns groups
  let longest := runs.foldl max 0
  match runs.findIdx? (· == longest) with
  | some i =>
    if 2 ≤ longest then groupsText (groups.take i) ++ "::" ++ groupsText (groups.drop (i + longest))
    else groupsText groups
  | none => groupsText groups

/-! ## Reading and writing -/

namespace Host

/-- A host as it stands in a URL. -/
def text : Host → String
  | .empty => ""
  | .domain name => name
  | .ipv4 n => ipv4Text n
  | .ipv6 groups => "[" ++ ipv6Text groups ++ "]"

/-- The address between brackets. -/
def bracketed (cs : List Char) : Except ParseError Host :=
  match ipv6? cs with
  | some groups => .ok (.ipv6 groups)
  | none => .error .invalidIpv6

/-- The host of a URL whose scheme has domains. -/
def parse (cs : List Char) : Except ParseError Host :=
  match cs with
  | '[' :: rest => if rest.getLast? = some ']' then bracketed rest.dropLast else .error .invalidIpv6
  | _ =>
    match Domain.toAscii? cs with
    | none => .error .invalidDomain
    | some [] => .error .emptyHost
    | some name =>
      if endsInNumber name then
        match ipv4? name with
        | some n => .ok (.ipv4 n)
        | none => .error .invalidIpv4
      else .ok (.domain (String.ofList name))

/-- Characters that no host may have. -/
def isForbidden (c : Char) : Bool :=
  c ∈ ['\x00', '\t', '\n', '\r', ' ', '#', '/', ':', '<', '>', '?', '@', '[', '\\', ']', '^', '|']

/-- The host of a URL whose scheme has no domains. -/
def parseOther (cs : List Char) : Except ParseError Host :=
  match cs with
  | [] => .ok .empty
  | '[' :: rest => if rest.getLast? = some ']' then bracketed rest.dropLast else .error .invalidIpv6
  | _ =>
    if cs.any isForbidden then .error .invalidHostCharacter
    else .ok (.domain (String.ofList (Encoding.encode .control cs)))

end Host

end LinkedSelect.Url
