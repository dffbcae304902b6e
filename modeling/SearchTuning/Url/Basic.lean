import SearchTuning.Text.Numeral
import SearchTuning.Text.Utf8

/-!
# URLs

A URL in parts.  The parts are ASCII: what may not stand in them as it is has been escaped.
-/

namespace SearchTuning

/-- A URL in parts. -/
structure Url where
  /-- The scheme, empty if there is none. -/
  scheme : Text
  /-- What stands before the host and an at sign. -/
  userinfo : Text
  /-- The host; an address with colons stands here without its brackets. -/
  host : Text
  port : Option Int
  path : Text
  query : Option Text
  fragment : Option Text
  deriving DecidableEq, Repr

namespace Url

/-- The host and the port, the host in brackets if it has colons. -/
def hostAndPort (url : Url) : Text :=
  (if url.host.contains (CodePoint.ofChar ':') then Text.ofString "[" ++ url.host ++ Text.ofString "]"
    else url.host) ++
  match url.port with
  | none => []
  | some port => CodePoint.ofChar ':' :: Numeral.ofInt port

/-- What stands between the two slashes and the path. -/
def authority (url : Url) : Text :=
  (if url.userinfo = [] then [] else url.userinfo ++ Text.ofString "@") ++ url.hostAndPort

/-- The URL as text. -/
def toText (url : Url) : Text :=
  (if url.scheme = [] then [] else url.scheme ++ Text.ofString ":") ++
  (if url.authority = [] then [] else Text.ofString "//" ++ url.authority) ++
  url.path ++
  (match url.query with
  | none => []
  | some query => CodePoint.ofChar '?' :: query) ++
  match url.fragment with
  | none => []
  | some fragment => CodePoint.ofChar '#' :: fragment

end Url

end SearchTuning
