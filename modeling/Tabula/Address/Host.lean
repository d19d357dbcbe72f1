import Tabula.Text.Digits
import Tabula.Text.Parts
import Tabula.Text.Percent
/-!
# Hosts

A host in an address is a name, kept as written with percent escapes, or an address of the sixth version of the
internet protocol in brackets, which has one written form: groups without leading zeros, the longest run of zero
groups left out.
-/

namespace Tabula

/-- why a text is no address -/
inductive AddressFault where
  | noScheme
  | emptyHost
  | port
  | groups
  | numbers
  | character
  | domain
  deriving DecidableEq, Repr

/-- the words for a fault -/
def AddressFault.message : AddressFault → String
  | noScheme => "relative URL without a base"
  | emptyHost => "empty host"
  | port => "invalid port number"
  | groups => "invalid IPv6 address"
  | numbers => "invalid IPv4 address"
  | character => "invalid domain character"
  | domain => "invalid international domain name"

namespace Host

/-! ## Groups -/

/-- one group of up to four hexadecimal digits -/
def group? (s : List Char) : Option Nat := if s.length ≤ 4 then Text.natOfHex? s else none

/-- a number below 256 without leading zeros -/
def octet? (s : List Char) : Option Nat := do
  let n ← Text.natOfText? s
  if n ≤ 255 && toString n = String.ofList s then some n else none

/-- four numbers with points between them, as two groups -/
def dotted? (s : List Char) : Option (List Nat) := do
  match ← (Text.parts '.' s).mapM octet? with
  | [a, b, c, d] => some [a * 256 + b, c * 256 + d]
  | _ => none

/-- groups with colons between them; the last may be written as four numbers if `final` is set -/
def groupList? (final : Bool) : List (List Char) → Option (List Nat)
  | [] => some []
  | [g] => if final && g.contains '.' then dotted? g else (group? g).map ([·])
  | g :: rest => do return (← group? g) :: (← groupList? final rest)

/-- groups of a text, none if it is empty -/
def groups? (final : Bool) (s : List Char) : Option (List Nat) :=
  if s.isEmpty then some [] else groupList? final (Text.parts ':' s)

/-- what stands before and after the first two colons in a row -/
def spanGap : List Char → List Char × Option (List Char)
  | ':' :: ':' :: s => ([], some s)
  | c :: s =>
    let (before, after) := spanGap s
    (c :: before, after)
  | [] => ([], none)

/-- the eight groups of an address -/
def eightGroups? (s : List Char) : Option (List Nat) :=
  match spanGap s with
  | (all, none) => do
    let gs ← groups? true all
    if gs.length = 8 then some gs else none
  | (before, some after) => do
    let l ← groups? false before
    let r ← groups? true after
    if l.length + r.length ≤ 7 then some (l ++ List.replicate (8 - l.length - r.length) 0 ++ r) else none

/-- the length of the run of zeros at the beginning -/
def zeroRun (gs : List Nat) : Nat := (gs.takeWhile (· = 0)).length

/-- the place and length of the longest run of zeros, of equal ones the first -/
def longestRun (gs : List Nat) : Nat × Nat :=
  (List.range gs.length).foldl (fun best i =>
    let n := zeroRun (gs.drop i)
    if best.2 < n then (i, n) else best) (0, 0)

/-- groups with colons between them -/
def groupText (gs : List Nat) : String := ":".intercalate (gs.map Text.hexOfNat)

/-- the one written form of an address -/
def eightText (gs : List Nat) : String :=
  let (start, n) := longestRun gs
  if n < 2 then groupText gs else groupText (gs.take start) ++ "::" ++ groupText (gs.drop (start + n))

/-- a host in brackets -/
def bracketed (s : List Char) : Except AddressFault String :=
  match s.reverse with
  | ']' :: inner =>
    match eightGroups? (inner.reverse.drop 1) with
    | some gs => .ok ("[" ++ eightText gs ++ "]")
    | none => .error .groups
  | _ => .error .groups

/-! ## Names -/

/-- characters that no host name has -/
def isForbidden (c : Char) : Bool := "\x00\t\n\r #/:<>?@[\\]^|".toList.contains c

/-- whether a character is a control character -/
def isControl (c : Char) : Bool := c.toNat < 0x20 || c.toNat = 0x7F

/-- a host as written -/
def ofText (s : List Char) : Except AddressFault String :=
  if s.head? = some '[' then bracketed s
  else if s.any isForbidden then .error .character
  else .ok (Text.percentEncoded isControl (String.ofList s))

/-! ## Hosts of the web -/

/-- a part of a number of the fourth version of the protocol: decimal, or in base 8 or 16 with a mark -/
def webNumber? (s : List Char) : Option Nat :=
  match s with
  | '0' :: 'x' :: ds => if ds.isEmpty then some 0 else Text.natOfHex? ds
  | '0' :: 'X' :: ds => if ds.isEmpty then some 0 else Text.natOfHex? ds
  | '0' :: d :: ds =>
    if (d :: ds).all fun c => '0' ≤ c && c ≤ '7' then
      some ((d :: ds).foldl (fun n c => n * 8 + (c.toNat - '0'.toNat)) 0)
    else none
  | ds => Text.natOfText? ds

/-- the parts of a name between points, without an empty one at the end -/
def labels (s : List Char) : List (List Char) :=
  match (Text.parts '.' s).reverse with
  | [] :: rest => if rest.isEmpty then [[]] else rest.reverse
  | all => all.reverse

/-- whether a name ends in a number, so that it has to be an address in numbers -/
def endsInNumber (s : List Char) : Bool :=
  match (labels s).getLast? with
  | some l => (!l.isEmpty && l.all Char.isDigit) || ((webNumber? l).isSome && l.take 2 ≠ [])
  | none => false

/-- whether at most four numbers name an address: all but the last below 256, the last filling what is left -/
def isNumberAddress (s : List Char) : Bool :=
  let ls := labels s
  match ls.mapM webNumber? with
  | some ns =>
    ns.length ≤ 4 && ns.dropLast.all (· ≤ 255) && (ns.getLast?.all fun n => n < Nat.pow 256 (5 - ns.length))
  | none => false

/-- checks a host of the web, whose name is not needed -/
def checkWeb (s : List Char) : Except AddressFault Unit :=
  if s.isEmpty then .error .emptyHost
  else if s.head? = some '[' then (bracketed s).map fun _ => ()
  else
    let name := (Text.readable (Text.percentDecoded (Text.utf8 (String.ofList s)))).toList
    if name.any fun c => isForbidden c || isControl c || c == '%' then .error .domain
    else if endsInNumber name && !isNumberAddress name then .error .numbers
    else .ok ()

end Host

end Tabula
