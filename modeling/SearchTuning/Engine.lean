import SearchTuning.Json.Reader
import SearchTuning.QueryString.Basic

/-!
# Search engines

The two engines, how each of them takes a phrase into a template, and what a filled template comes
to for it: parameters of a query string, or a JSON document.
-/

namespace SearchTuning

/-- A search engine. -/
inductive Engine where
  | solr
  | es
  deriving DecidableEq, Repr

namespace Engine

/-- All engines, in the order in which they are listed. -/
def all : List Engine := [.solr, .es]

/-- The name by which an engine is asked for. -/
def tag : Engine → Text
  | .solr => Text.ofString "solr"
  | .es => Text.ofString "es"

/-- The engine with a name. -/
def ofTag? (tag : Text) : Option Engine := all.find? fun engine => engine.tag = tag

/-- A phrase in the form in which it may stand in a template: percent escapes in a query string, the
inside of a string literal in a document.  Surrogates, which no request can carry, become
question marks. -/
def escape : Engine → Text → Text
  | .solr, phrase => QueryString.quote phrase.replaceSurrogates
  | .es, phrase => Literal.encode false phrase.replaceSurrogates

/-- Parameters as a value: an object of arrays. -/
def paramsValue (params : QueryString.Params) : Json :=
  .obj (params.map fun (key, values) => (key, .arr (values.map Node.str)))

/-- What a filled template comes to.  A text that is no document comes to `null`; one whose
containers are nested too deeply comes to nothing. -/
def materialize [Platform] : Engine → Text → Except Json.Container Json
  | .solr, t => .ok (paramsValue (QueryString.parse t))
  | .es, t =>
      match Json.read t with
      | .ok v => .ok v
      | .error .malformed => .ok .null
      | .error (.tooDeep container) => .error container

end Engine

end SearchTuning
