import SearchTuning.Text.Integer
import SearchTuning.Url.Basic
import SearchTuning.Url.Host

/-!
# Reading URLs

A text is cut into the parts of a URL, each part is checked, and what may not stand in it is
escaped.  Dots in the path of a URL with a scheme or an authority are resolved.
-/

namespace SearchTuning.Url

/-- The most code points that a URL or its query may have. -/
def lengthLimit : Nat := 65536

/-- The printable ASCII code points that are escaped in a path. -/
def pathEscapes : Text := Text.ofString " \"#<>?`\x7b\x7d"

/-- The printable ASCII code points that are escaped in a query. -/
def queryEscapes : Text := Text.ofString " \"#<>"

/-- The printable ASCII code points that are escaped in a fragment. -/
def fragmentEscapes : Text := Text.ofString " \"<>`"

/-- The printable ASCII code points that are escaped before the at sign of an authority. -/
def userinfoEscapes : Text := pathEscapes ++ Text.ofString "/;=@[\\]^|"

/-- A part with what may not stand in it escaped.  Percent signs stay as they are. -/
def escapePart (escapes : Text) (t : Text) : Except Error Text :=
  if t.hasSurrogate then .error .unencodable
  else
    .ok (t.flatMap fun c =>
      if c.isAscii && !c.isAsciiControl && !escapes.contains c then [c]
      else (Utf8.encodePoint c).flatMap QueryString.escapeOctet)

/-- The parts of a URL as they are written. -/
structure Pieces where
  scheme : Text
  authority : Text
  path : Text
  query : Option Text
  fragment : Option Text
  deriving DecidableEq, Repr

/-- Letters, digits, and after the first letter also plus, minus and point. -/
def isScheme : Text → Bool
  | [] => true
  | c :: rest =>
      c.isAsciiLetter && rest.all fun c => c.isAsciiAlphanumeric || c = '+' || c = '-' || c = '.'

/-- The text before the first occurrence of a separator, and what follows it if there is one. -/
def cutOptional (sep : CodePoint) (t : Text) : Text × Option Text :=
  match t.cut? sep with
  | none => (t, none)
  | some (before, after) => (before, some after)

/-- Cuts a URL: the fragment begins at the first number sign, the query at the first question mark
before it, and the scheme ends at the first colon if only the code points of a scheme are before
it. -/
def cut (t : Text) : Pieces :=
  let (t, fragment) := cutOptional '#' t
  let (t, query) := cutOptional '?' t
  let (scheme, t) :=
    match t.cut? ':' with
    | some (before, after) => if isScheme before then (before, after) else ([], t)
    | none => ([], t)
  if (Text.ofString "//").isPrefixOf t then
    let t := t.drop 2
    let authority := t.takeWhile fun c => c ≠ CodePoint.ofChar '/'
    ⟨scheme, authority, t.drop authority.length, query, fragment⟩
  else ⟨scheme, [], t, query, fragment⟩

/-- The host that a text begins with: up to the last closing bracket if it begins with an opening
one, and up to the first colon otherwise. -/
def hostPart (t : Text) : Text :=
  match if t.head? = some (CodePoint.ofChar '[') then t.cutLast? ']' else none with
  | some (before, _) => before ++ Text.ofString "]"
  | none => t.takeWhile fun c => c ≠ CodePoint.ofChar ':'

/-- Cuts what follows the at sign of an authority into host and port. -/
def cutHost (t : Text) : Text × Text :=
  let host := hostPart t
  let rest := t.drop host.length
  (host, if rest.head? = some (CodePoint.ofChar ':') then rest.drop 1 else rest)

/-- The ports that are left out, by scheme. -/
def defaultPorts : Table Text Int :=
  [(Text.ofString "ftp", 21), (Text.ofString "http", 80), (Text.ofString "https", 443),
    (Text.ofString "ws", 80), (Text.ofString "wss", 443)]

/-- The port that a text gives, unless it is that of the scheme. -/
def portOfText (scheme port : Text) : Except UrlError (Option Int) :=
  if port = [] then .ok none
  else
    match Numeral.readInt? port with
    | none => .error (.invalidPort port)
    | some n => .ok (if Table.get? scheme defaultPorts = some n then none else some n)

/-- Refuses paths that would read as something else. -/
def checkPath (hasScheme hasAuthority : Bool) (path : Text) : Except UrlError Unit :=
  if hasAuthority && path ≠ [] && path.head? ≠ some (CodePoint.ofChar '/') then
    .error .pathNotAbsolute
  else if !hasScheme && !hasAuthority && (Text.ofString "//").isPrefixOf path then
    .error .pathStartsWithSlashes
  else if !hasScheme && !hasAuthority && path.head? = some (CodePoint.ofChar ':') then
    .error .pathStartsWithColon
  else .ok ()

/-- Takes a segment of a path: one point is nothing, two points take back the segment before, but
not the empty one in front.  The segments taken so far are in reverse. -/
def resolveSegment (done : List Text) (segment : Text) : List Text :=
  if segment = Text.ofString "." then done
  else if segment = Text.ofString ".." then
    if done = [[]] then done else done.drop 1
  else segment :: done

/-- The path with its dots resolved. -/
def resolveDots (path : Text) : Text :=
  let segments := path.splitOn '/'
  if segments.contains (Text.ofString ".") || segments.contains (Text.ofString "..") then
    Text.join (Text.ofString "/") (segments.foldl resolveSegment []).reverse
  else path

/-- Refuses texts that are too long or hold control characters. -/
def checkText (t : Text) : Except UrlError Unit :=
  if lengthLimit < t.length then .error .tooLong
  else
    match t.find? CodePoint.isAsciiControl with
    | some c => .error (.controlCharacter c (t.idxOf c))
    | none => .ok ()

/-- Refuses a query that is too long to take the place of another. -/
def checkReplacement : Option (Option Text) → Except UrlError Unit
  | some (some query) => if lengthLimit < query.length then .error .queryTooLong else .ok ()
  | _ => .ok ()

/-- The URL that pieces are, with a query of its own. -/
def ofPieces (pieces : Pieces) (query : Option Text) : Except Error Url := do
  let (userinfo, rest) :=
    match pieces.authority.cutLast? '@' with
    | some (before, after) => (before, after)
    | none => ([], pieces.authority)
  let (host, port) := cutHost rest
  let userinfo ← escapePart userinfoEscapes userinfo
  let host ← (hostOfText host).mapError .invalidUrl
  let port ← (portOfText pieces.scheme port).mapError .invalidUrl
  let hasScheme := pieces.scheme ≠ []
  let hasAuthority := userinfo ≠ [] || host ≠ [] || port.isSome
  (checkPath hasScheme hasAuthority pieces.path).mapError .invalidUrl
  let path := if hasScheme || hasAuthority then resolveDots pieces.path else pieces.path
  let path ← escapePart pathEscapes path
  let query ← query.mapM (escapePart queryEscapes)
  let fragment ← pieces.fragment.mapM (escapePart fragmentEscapes)
  pure ⟨pieces.scheme.lowerAscii, userinfo, host, port, path, query, fragment⟩

/-- The URL that a text is.  A query, if one is given, takes the place of that of the text: `none`
in it removes the query. -/
def parse (replacement : Option (Option Text)) (t : Text) : Except Error Url := do
  (checkText t).mapError .invalidUrl
  (checkReplacement replacement).mapError .invalidUrl
  let pieces := cut t
  ofPieces pieces (replacement.getD pieces.query)

end SearchTuning.Url
