import SearchTuning.Double.Basic
import SearchTuning.Json.Basic
import SearchTuning.Json.Literal

/-!
# Tokens of a document

A document is read as a sequence of tokens: marks, string literals, and words, which are the longest
runs of letters, digits, signs and points.  What is no token ends the sequence with a token that
no document holds.
-/

namespace SearchTuning.Json

/-- The marks of the grammar. -/
inductive Mark where
  | openBrace | closeBrace | openBracket | closeBracket | comma | colon
  deriving DecidableEq, Repr

/-- A token of a document. -/
inductive Token where
  | mark (m : Mark)
  | scalar (s : Scalar)
  | str (pieces : List Literal.Piece)
  /-- What is no token. -/
  | bad
  deriving DecidableEq, Repr

/-- The mark that a code point is. -/
def mark? (c : CodePoint) : Option Mark :=
  if c = '{' then some .openBrace
  else if c = '}' then some .closeBrace
  else if c = '[' then some .openBracket
  else if c = ']' then some .closeBracket
  else if c = ',' then some .comma
  else if c = ':' then some .colon
  else none

/-- The four code points that may stand between tokens. -/
def isSpace (c : CodePoint) : Bool := c = ' ' || c = '\t' || c = '\n' || c = '\r'

/-- The code points of words. -/
def isWordPoint (c : CodePoint) : Bool :=
  c.isAsciiAlphanumeric || c = '+' || c = '-' || c = '.'

/-! ## Numbers -/

/-- The value of an exponent part: nothing, or a letter, an optional sign and digits. -/
def exponent? : Text → Option (Option Int)
  | [] => some none
  | e :: rest =>
      if e = 'e' ∨ e = 'E' then
        let (negative, digits) :=
          match rest with
          | c :: tail => if c = '-' then (true, tail) else if c = '+' then (false, tail) else (false, rest)
          | [] => (false, [])
        match digits, Numeral.digits? digits with
        | _ :: _, some ds =>
            let n := Int.ofNat (Numeral.value ds)
            some (some (if negative then -n else n))
        | _, _ => none
      else none

/-- The digits of a fraction, if there is one, and what follows them. -/
def fraction? : Text → Option (Option (List (Fin 10)) × Text)
  | [] => some (none, [])
  | c :: rest =>
      if c = '.' then
        match rest.takeWhile CodePoint.isAsciiDigit with
        | [] => none
        | digits =>
            (Numeral.digits? digits).map fun ds => (some ds, rest.dropWhile CodePoint.isAsciiDigit)
      else some (none, c :: rest)

/-- The number that a word without its minus sign is.  Whole numbers have no zeros in front and
not too many digits; a number with a fraction or an exponent is a double. -/
def unsigned? (negative : Bool) (word : Text) : Option Scalar := do
  let whole ← Numeral.digits? (word.takeWhile CodePoint.isAsciiDigit)
  match whole with
  | [] => none
  | 0 :: _ :: _ => none
  | _ =>
      let (fraction, rest) ← fraction? (word.dropWhile CodePoint.isAsciiDigit)
      let exponent ← exponent? rest
      match fraction, exponent with
      | none, none =>
          if whole.length ≤ Numeral.digitLimit then
            let n := Int.ofNat (Numeral.value whole)
            some (.int (if negative then -n else n))
          else none
      | _, _ =>
          let decimals := fraction.getD []
          some (.double (Double.ofDecimal negative (Numeral.value (whole ++ decimals))
            (exponent.getD 0 - decimals.length)))

/-- The number that a word is. -/
def number? : Text → Option Scalar
  | [] => none
  | c :: rest => if c = '-' then unsigned? true rest else unsigned? false (c :: rest)

/-- The value that a word stands for. -/
def scalar? (word : Text) : Option Scalar :=
  if word = Text.ofString "null" then some .null
  else if word = Text.ofString "true" then some (.bool true)
  else if word = Text.ofString "false" then some (.bool false)
  else if word = Text.ofString "NaN" then some (.double .nan)
  else if word = Text.ofString "Infinity" then some (.double (.infinite false))
  else if word = Text.ofString "-Infinity" then some (.double (.infinite true))
  else number? word

/-! ## Reading tokens -/

/-- Where reading stands between two code points.  What has been read of a token is in reverse. -/
inductive Scan where
  | between
  | word (read : Text)
  | string (read : List Literal.Piece)
  /-- After a backslash. -/
  | escape (read : List Literal.Piece)
  /-- Among the four digits of a unit. -/
  | unit (read : List Literal.Piece) (digits : List (Fin 16))
  deriving DecidableEq, Repr

/-- Takes a code point between tokens. -/
def start (c : CodePoint) : Option (List Token × Scan) :=
  if isSpace c then some ([], .between)
  else if c = '"' then some ([], .string [])
  else if isWordPoint c then some ([], .word [c])
  else (mark? c).map fun m => ([.mark m], .between)

/-- The unit with the given digits. -/
def unitOfDigits (a b c d : Fin 16) : Fin 0x10000 :=
  ⟨a.val * 0x1000 + b.val * 0x100 + c.val * 0x10 + d.val, by omega⟩

/-- Takes a code point, and tells the tokens that end before it or with it. -/
def Scan.step : Scan → CodePoint → Option (List Token × Scan)
  | .between, c => start c
  | .word read, c =>
      if isWordPoint c then some ([], .word (c :: read))
      else do
        let s ← scalar? read.reverse
        let (tokens, next) ← start c
        pure (.scalar s :: tokens, next)
  | .string read, c =>
      if c = '"' then some ([.str read.reverse], .between)
      else if c = '\\' then some ([], .escape read)
      else if c.val < 0x20 then none
      else some ([], .string (.plain c :: read))
  | .escape read, c =>
      if c = 'u' then some ([], .unit read [])
      else (Literal.named? c).map fun d => ([], .string (.named d :: read))
  | .unit read digits, c => do
      let d ← c.hexValue?
      match digits with
      | [x, y, z] => pure ([], .string (.unit (unitOfDigits z y x d) :: read))
      | _ => pure ([], .unit read (d :: digits))

/-- The tokens at the end of the text. -/
def Scan.finish : Scan → List Token
  | .between => []
  | .word read =>
      match scalar? read.reverse with
      | some s => [.scalar s]
      | none => [.bad]
  | _ => [.bad]

/-- The tokens of a text that is read from a given state on. -/
def tokensFrom : Scan → Text → List Token
  | scan, [] => scan.finish
  | scan, c :: rest =>
      match scan.step c with
      | some (tokens, next) => tokens ++ tokensFrom next rest
      | none => [.bad]

/-- The tokens of a text. -/
def tokens (t : Text) : List Token := tokensFrom .between t

end SearchTuning.Json
