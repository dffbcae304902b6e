import SearchTuning.Error
import SearchTuning.QueryString.Basic
import SearchTuning.Text.LowerCase

/-!
# Hosts

A host is a name or an address.  What looks like an address must be one.
-/

namespace SearchTuning.Url

/-- A number from 0 to 255 without zeros in front. -/
def isAddressOctet (t : Text) : Bool :=
  match Numeral.digits? t with
  | none | some [] => false
  | some [_] => true
  | some (first :: rest) => first.val ≠ 0 && rest.length ≤ 2 && Numeral.value (first :: rest) ≤ 255

/-- Four numbers between points. -/
def isIpv4 (t : Text) : Bool :=
  let parts := t.splitOn '.'
  parts.length = 4 && parts.all isAddressOctet

/-- Whether a host must be such an address: four runs of digits between points. -/
def looksLikeIpv4 (t : Text) : Bool :=
  let parts := t.splitOn '.'
  parts.length = 4 && parts.all fun part => part ≠ [] && part.all CodePoint.isAsciiDigit

/-- One to four hexadecimal digits. -/
def isAddressGroup (t : Text) : Bool :=
  1 ≤ t.length && t.length ≤ 4 && t.all fun c => c.hexValue?.isSome

/-- The number of groups on one side of the gap in an address, if they are well formed. -/
def sideLength? (groups : List Text) : Option Nat :=
  if groups = [[]] then some 0 else if groups.all isAddressGroup then some groups.length else none

/-- Eight groups between colons, or fewer with one gap, which is two colons in a row.  The last two
groups may be written as an address of four numbers. -/
def isAddressGroups (parts : List Text) : Bool :=
  let inner := (parts.drop 1).dropLast
  match inner.count [] with
  | 0 => parts.length = 8 && parts.all isAddressGroup
  | 1 =>
      let gap := inner.idxOf [] + 1
      match sideLength? (parts.take gap), sideLength? (parts.drop (gap + 1)) with
      | some before, some after => before + after ≤ 7
      | _, _ => false
  | _ => false

/-- An address of groups, perhaps with the name of a zone after a percent sign. -/
def isIpv6 (t : Text) : Bool :=
  let address? :=
    match t.cut? '%' with
    | none => some t
    | some (address, zone) =>
        if zone = [] ∨ zone.contains (CodePoint.ofChar '%') then none else some address
  match address? with
  | none => false
  | some address =>
      let parts := address.splitOn ':'
      match parts.getLast? with
      | none => false
      | some last =>
          if last.contains (CodePoint.ofChar '.') then
            isIpv4 last && 3 ≤ parts.length &&
              isAddressGroups (parts.dropLast ++ [Text.ofString "0", Text.ofString "0"])
          else isAddressGroups parts

/-- The code points that may stand in the name of a host as they are, letters and digits apart. -/
def hostMarks : Text := Text.ofString "-._~!$&'()*+,;=\"`\x7b\x7d%|\\"

/-- The host as it is kept: names in lower case and in ASCII, addresses as they are. -/
def hostOfText (host : Text) : Except UrlError Text :=
  if host = [] then .ok []
  else if looksLikeIpv4 host then
    if isIpv4 host then .ok host else .error (.invalidIpv4 host)
  else if host.head? = some (CodePoint.ofChar '[') ∧ host.getLast? = some (CodePoint.ofChar ']') ∧
      2 ≤ host.length then
    let inner := (host.drop 1).dropLast
    if isIpv6 inner then .ok inner else .error (.invalidIpv6 host)
  else if host.all CodePoint.isAscii then
    .ok (host.lowerAscii.flatMap fun c =>
      if c.isAsciiAlphanumeric || hostMarks.contains c then [c]
      else (Utf8.encodePoint c).flatMap QueryString.escapeOctet)
  else
    match DomainName.encode host.lower with
    | .ok name => .ok name
    | .error _ => .error (.invalidHostname host)

end SearchTuning.Url
