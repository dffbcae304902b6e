import SearchTuning.Engine
import SearchTuning.Error
import SearchTuning.Json.Display

/-!
# The wording of errors

The wording of each error in one place.  An error that names what caused it is worded when it is
raised, and where the wording cannot be written, something else is raised.
-/

namespace SearchTuning

def UrlError.message : UrlError → Text
  | .tooLong => Text.ofString "URL too long"
  | .queryTooLong => Text.ofString "URL component 'query' too long"
  | .controlCharacter c position =>
      Text.ofString "Invalid non-printable ASCII character in URL, " ++ Text.quoted [c] ++
        Text.ofString " at position " ++ Numeral.ofNat position ++ Text.ofString "."
  | .invalidPort port => Text.ofString "Invalid port: " ++ port.quoted
  | .invalidIpv4 host => Text.ofString "Invalid IPv4 address: " ++ host.quoted
  | .invalidIpv6 host => Text.ofString "Invalid IPv6 address: " ++ host.quoted
  | .invalidHostname host => Text.ofString "Invalid IDNA hostname: " ++ host.quoted
  | .pathNotAbsolute => Text.ofString "For absolute URLs, path must be empty or begin with '/'"
  | .pathStartsWithSlashes => Text.ofString "Relative URLs cannot have a path starting with '//'"
  | .pathStartsWithColon => Text.ofString "Relative URLs cannot have a path starting with ':'"

/-- The wording of a label's fault. -/
def LabelFault.message : LabelFault → Text
  | .malformed => Text.ofString "the label is not well formed"
  | .disallowed => Text.ofString "the label holds a code point that is not allowed"
  | .misplaced => Text.ofString "the label holds a code point that is not allowed where it stands"
  | .mixedDirections => Text.ofString "the label mixes directions"

/-- The name of the kind of a value. -/
def Json.kindName : Json → Text
  | .null => Text.ofString "NoneType"
  | .bool _ => Text.ofString "bool"
  | .int _ => Text.ofString "int"
  | .double _ => Text.ofString "float"
  | .str _ => Text.ofString "str"
  | .arr _ => Text.ofString "list"
  | .obj _ => Text.ofString "dict"

/-- The wording of an error. -/
def Error.message : Error → Text
  | .caseNotFound caseId => Text.ofString "Case not found: " ++ Numeral.ofInt caseId
  | .tryNotFound caseId tryNo =>
      Text.ofString "Try " ++ Numeral.ofInt tryNo ++ Text.ofString " not found in case " ++
        Numeral.ofInt caseId
  | .invalidFields report _ | .invalidRecord report _ => report
  | .nameNotText name => Text.ofString "Try name must be a string, got " ++ name.kindName
  | .invalidVariableName name =>
      Text.ofString "Curator variable names may only contain letters, digits and '_': " ++
        Json.shown name
  | .unknownEngine tag =>
      Text.ofString "Unknown search engine: " ++ tag ++ Text.ofString " (supported: " ++
        Text.join (Text.ofString ", ") (Engine.all.map Engine.tag) ++ Text.ofString ")"
  | .unknownDefaultEngine tag => Text.ofString "Unknown default search engine: " ++ tag
  | .noDefaults tag => Text.ofString "No defaults configured for search engine: " ++ tag
  | .notEngine tag => tag.quoted ++ Text.ofString " is not a valid SearchEngine"
  | .notPair position length =>
      Text.ofString "dictionary update sequence element #" ++ Numeral.ofNat position ++
        Text.ofString " has length " ++ Numeral.ofNat length ++ Text.ofString "; 2 is required"
  | .notPairs => Text.ofString "cannot convert dictionary update sequence to pairs"
  | .notTable => Text.ofString "the value is no table"
  | .notCollection => Text.ofString "the value has no parts"
  | .unencodable => Text.ofString "the text has no form in octets"
  | .notFinite => Text.ofString "Out of range float values are not JSON compliant"
  | .tooManyDigits =>
      Text.ofString "Exceeds the limit (" ++ Numeral.ofNat Numeral.digitLimit ++
        Text.ofString
          " digits) for integer string conversion; use sys.set_int_max_str_digits() to increase the limit"
  | .tooManyLevels => Text.ofString "Maximum serialization depth exceeded"
  | .tooDeep .array =>
      Text.ofString
        "maximum recursion depth exceeded while decoding a JSON array from a unicode string"
  | .tooDeep .object =>
      Text.ofString
        "maximum recursion depth exceeded while decoding a JSON object from a unicode string"
  | .outOfStack => Text.ofString "maximum recursion depth exceeded"
  | .notNumeral setting =>
      Text.ofString "invalid literal for int() with base 10: " ++ setting.quoted
  | .invalidUrl error => error.message
  | .invalidName fault => fault.message

/-- What is raised for an error: the error, or what its wording fails with. -/
def Error.raised [Platform] : Error → Error
  | .caseNotFound caseId =>
      if Numeral.fits caseId then .caseNotFound caseId else .tooManyDigits
  | .tryNotFound caseId tryNo =>
      if Numeral.fits tryNo && Numeral.fits caseId then .tryNotFound caseId tryNo
      else .tooManyDigits
  | .invalidVariableName name =>
      match Json.Walk.showing.check Platform.showing name with
      | .ok () => .invalidVariableName name
      | .error e => e
  | e => e

end SearchTuning
