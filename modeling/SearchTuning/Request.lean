import SearchTuning.Json.Printer
import SearchTuning.Tries.Basic
import SearchTuning.Url.Parse

/-!
# Search requests

The request that a try's args describe: parameters are sent in the query of a URL, a document is
sent as a body.  The number of rows is added where the args do not have it.  No request is sent
here.
-/

namespace SearchTuning

/-- How a request is made. -/
inductive Method where
  | get
  | post
  deriving DecidableEq, Repr

def Method.name : Method → Text
  | .get => Text.ofString "GET"
  | .post => Text.ofString "POST"

/-- A request.  Only a document is sent with a body. -/
structure Request where
  url : Url
  body : Option Text
  deriving DecidableEq, Repr

namespace Request

def method (r : Request) : Method := if r.body.isSome then .post else .get

/-- The headers, in the order of their names. -/
def headers (r : Request) : List (Text × Text) :=
  (match r.body with
  | none => []
  | some body =>
      [(Text.ofString "content-length", Numeral.ofNat (Utf8.size body)),
        (Text.ofString "content-type", Text.ofString "application/json")]) ++
  if r.url.host = [] then [] else [(Text.ofString "host", r.url.hostAndPort)]

/-- The parts of a value: items, keys, or code points. -/
def partsOf : Json → Except Error (List Json)
  | .arr items => .ok items
  | .obj members => .ok (members.map fun (key, _) => .str key)
  | .str t => .ok (t.map fun c => .str [c])
  | .scalar _ => .error .notCollection

/-- The parts of members, each a parameter. -/
def partsOfMembers : List (Text × Json) → Except Error (List (Text × List Json))
  | [] => .ok []
  | (key, v) :: members => do
      let parts ← partsOf v
      let rest ← partsOfMembers members
      pure ((key, parts) :: rest)

/-- The number of rows as a parameter, unless the members have one. -/
def rowsFor (members : List (Text × Json)) (numberOfRows : Int) :
    Except Error (List (Text × List Json)) :=
  if Table.has (Text.ofString "rows") members then .ok []
  else if Numeral.fits numberOfRows then
    .ok [(Text.ofString "rows", [.str (Numeral.ofInt numberOfRows)])]
  else .error .tooManyDigits

variable [Platform]

/-- A value as a parameter. -/
def paramText : Json → Except Error Text
  | .null => .ok []
  | .bool true => .ok (Text.ofString "true")
  | .bool false => .ok (Text.ofString "false")
  | v => v.display

/-- The parameters with their values as texts. -/
def texts : List (Text × List Json) → Except Error QueryString.Params
  | [] => .ok []
  | (key, parts) :: rest => do
      let values ← parts.mapM paramText
      let rest ← texts rest
      pure ((key, values) :: rest)

/-- The parameters that are sent for args: with the number of rows at the end, unless they have
it. -/
def params (args : Json) (numberOfRows : Int) : Except Error QueryString.Params :=
  match args with
  | .obj members => do
      let parts ← partsOfMembers members
      let rows ← rowsFor members numberOfRows
      texts (parts ++ rows)
  | _ => .error .notTable

/-- The query of parameters, if there are any. -/
def queryOf (params : QueryString.Params) : Except Error (Option Text) :=
  if params.entries = [] then .ok none
  else if params.entries.any fun (key, value) => key.hasSurrogate || value.hasSurrogate then
    .error .unencodable
  else .ok (some (QueryString.render params))

/-- The document that is sent for args: an object gets the number of rows at its end, unless it has
it. -/
def document (args : Json) (numberOfRows : Int) : Json :=
  match args with
  | .obj members =>
      if Table.has (Text.ofString "size") members then .obj members
      else .obj (members ++ [(Text.ofString "size", .int numberOfRows)])
  | v => v

/-- A document as the body of a request. -/
def bodyOf (document : Json) : Except Error Text := do
  Json.Walk.sending.check Platform.sending document
  let body := Json.render .compact document
  if body.hasSurrogate then .error .unencodable else .ok body

/-- Refuses a URL whose host cannot be sent as a header: a name in Punycode that stands for no name,
or an address whose zone is not ASCII. -/
def checkHost (url : Url) : Except Error Unit := do
  if Label.punycodePrefix.isPrefixOf url.host then
    let _ ← (DomainName.decode url.host).mapError .invalidName
  unless url.host.all CodePoint.isAscii do throw .unencodable

/-- The request for args of an engine. -/
def ofArgs (engine : Engine) (searchUrl : Text) (numberOfRows : Int) (args : Json) :
    Except Error Request :=
  match engine with
  | .solr => do
      let query ← queryOf (← params args numberOfRows)
      let url ← Url.parse (some query) searchUrl
      checkHost url
      pure ⟨url, none⟩
  | .es => do
      let url ← Url.parse none searchUrl
      let body ← bodyOf (document args numberOfRows)
      checkHost url
      pure ⟨url, some body⟩

/-- The request that a try makes with args, if there are any. -/
def build (t : Try) (args : Json) : Except Error (Option Request) :=
  if args = .null then .ok none
  else (ofArgs t.engine t.searchUrl t.numberOfRows args).map some

end Request

end SearchTuning
