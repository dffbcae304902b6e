import SearchTuning.Table
import SearchTuning.Text.Blank
import SearchTuning.Text.Utf8

/-!
# Query strings

Segments of `key=value` between ampersands.  Reading decodes percent escapes strictly: a segment
that does not decode is passed over, and values of one key gather under it.
-/

namespace SearchTuning.QueryString

/-- The code points that need no escape. -/
def isUnreserved (c : CodePoint) : Bool :=
  c.isAsciiAlphanumeric || c = '-' || c = '.' || c = '_' || c = '~'

/-- An octet as a percent escape. -/
def escapeOctet (b : Octet) : Text :=
  ['%', CodePoint.upperHex ⟨b.val / 16, by omega⟩, CodePoint.upperHex ⟨b.val % 16, by omega⟩]

/-- A code point as it is written: as it is, or as the escapes of its octets. -/
def quotePoint (c : CodePoint) : Text :=
  if isUnreserved c then [c] else (Utf8.encodePoint c).flatMap escapeOctet

/-- A text as it is written, spaces as escapes. -/
def quote (t : Text) : Text := t.flatMap quotePoint

/-- A code point as it is written where a space is a plus sign. -/
def quotePlusPoint (c : CodePoint) : Text := if c = ' ' then ['+'] else quotePoint c

/-- A text as it is written, spaces as plus signs. -/
def quotePlus (t : Text) : Text := t.flatMap quotePlusPoint

/-- The octet that two hexadecimal digits stand for. -/
def octetOfDigits (x y : Fin 16) : Octet := ⟨16 * x.val + y.val, by omega⟩

theorem octet_of_ascii {c : CodePoint} (ascii : c.val < 0x80) : c.val < 0x100 := by omega

/-- The octets and code points that a key or a value is spelled in.  Each percent sign must have
two hexadecimal digits after it, and a plus sign is a space. -/
def unescape : Text → Option (List Utf8.Piece)
  | [] => some []
  | c :: rest =>
      if c = '%' then
        match rest with
        | h :: l :: rest =>
            match h.hexValue?, l.hexValue? with
            | some x, some y => (unescape rest).map (.octet (octetOfDigits x y) :: ·)
            | _, _ => none
        | _ => none
      else if c = '+' then (unescape rest).map (.octet 0x20 :: ·)
      else if h : c.val < 0x80 then (unescape rest).map (.octet ⟨c.val, octet_of_ascii h⟩ :: ·)
      else (unescape rest).map (.point c :: ·)

/-- The text that a key or a value stands for. -/
def decode (t : Text) : Option Text := (unescape t).bind Utf8.decode

/-- The key and the value of a segment: what is before and after its first equals sign, both
decoded.  The segment is trimmed before, and its key may not be empty. -/
def pair? (segment : Text) : Option (Text × Text) :=
  match segment.trim.cut? '=' with
  | none => none
  | some (key, value) =>
      if key = [] then none
      else do pure (← decode key, ← decode value)

/-- The keys and values of a query string, in order. -/
def pairs (t : Text) : List (Text × Text) := (t.splitOn '&').filterMap pair?

/-- The values of each key. -/
abbrev Params := Table Text (List Text)

/-- Adds a value to those of a key. -/
def Params.add (params : Params) (entry : Text × Text) : Params :=
  Table.insert entry.1 ((Table.get? entry.1 params).getD [] ++ [entry.2]) params

/-- The values gathered by key, keys in the order in which they first come. -/
def gather (entries : List (Text × Text)) : Params := entries.foldl Params.add []

/-- The parameters that a query string holds. -/
def parse (t : Text) : Params := gather (pairs t)

/-- A key and a value as they are written. -/
def renderPair (entry : Text × Text) : Text :=
  quotePlus entry.1 ++ CodePoint.ofChar '=' :: quotePlus entry.2

/-- The keys and values one by one, all values of a key together. -/
def Params.entries (params : Params) : List (Text × Text) :=
  params.flatMap fun (key, values) => values.map fun value => (key, value)

/-- The query string of parameters. -/
def render (params : Params) : Text :=
  Text.join (Text.ofString "&") (params.entries.map renderPair)

end SearchTuning.QueryString
