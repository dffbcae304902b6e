import SearchTuning.DomainName.Basic
import SearchTuning.Json.Reader

/-!
# Errors

The ways in which an operation can fail, each with what caused it.
-/

namespace SearchTuning

/-- Why a text is no URL. -/
inductive UrlError where
  | tooLong
  /-- The query that is to be put into the URL is too long. -/
  | queryTooLong
  | controlCharacter (c : CodePoint) (position : Nat)
  | invalidPort (port : Text)
  | invalidIpv4 (host : Text)
  | invalidIpv6 (host : Text)
  | invalidHostname (host : Text)
  | pathNotAbsolute
  | pathStartsWithSlashes
  | pathStartsWithColon
  deriving DecidableEq, Repr

/-- Why an operation failed. -/
inductive Error where
  | caseNotFound (caseId : Int)
  | tryNotFound (caseId tryNo : Int)
  /-- The fields submitted for a try were refused, with the report on them. -/
  | invalidFields (report : Text) (faults : List FieldError)
  /-- The new name of a try is neither a text nor `null`. -/
  | nameNotText (name : Json)
  /-- A curator variable cannot have this name. -/
  | invalidVariableName (name : Json)
  /-- No engine has this name. -/
  | unknownEngine (tag : Text)
  /-- The default engine of the configuration is none. -/
  | unknownDefaultEngine (tag : Text)
  /-- The configuration has no defaults under this name. -/
  | noDefaults (tag : Text)
  /-- A text that must be the name of an engine is none. -/
  | notEngine (tag : Text)
  /-- A record was refused, with the report on it. -/
  | invalidRecord (report : Text) (faults : List FieldError)
  /-- The entry at this position, which must be a pair, has this many parts. -/
  | notPair (position length : Nat)
  /-- A value that must be a list of pairs is none. -/
  | notPairs
  /-- A value that must be a table is none. -/
  | notTable
  /-- A value whose parts are wanted has none. -/
  | notCollection
  /-- A text has no form in the octets in which it is to be sent or shown. -/
  | unencodable
  /-- A document that is to be sent holds a number that is not finite. -/
  | notFinite
  /-- A whole number that is to be written has too many digits. -/
  | tooManyDigits
  /-- A view that is to be shown has too many levels. -/
  | tooManyLevels
  /-- A document that is to be read has too many containers one in the other. -/
  | tooDeep (container : Json.Container)
  /-- A value has too many levels to be copied, shown, sent or printed: the stack is used up. -/
  | outOfStack
  /-- A setting that must be a whole number is none. -/
  | notNumeral (setting : Text)
  | invalidUrl (error : UrlError)
  /-- The domain name of a URL is written in Punycode, but has a label that is none. -/
  | invalidName (fault : LabelFault)
  deriving DecidableEq

/-- The refusal of a value as a record.  Of a value whose check uses up the stack nothing is
told. -/
def Error.ofFaults [Platform] (refusal : Text → List FieldError → Error) (record : String) (v : Json)
    (faults : List FieldError) : Error :=
  if faults.any fun fault => fault.refusal = .outOfStack then .outOfStack
  else refusal (Platform.report (Text.ofString record) v faults) faults

/-- The two kinds of errors that a tool answers with. -/
inductive Error.Kind where
  | notFound
  | invalid
  deriving DecidableEq, Repr

/-- The kind of an error of the domain.  All other errors have none. -/
def Error.kind? : Error → Option Error.Kind
  | .caseNotFound _ | .tryNotFound .. => some .notFound
  | .invalidFields .. | .nameNotText _ | .invalidVariableName _ | .unknownEngine _
  | .unknownDefaultEngine _ | .noDefaults _ => some .invalid
  | _ => none

end SearchTuning
