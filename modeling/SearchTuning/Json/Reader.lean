import SearchTuning.Json.Token
import SearchTuning.Platform

/-!
# Reading documents

A document is read token by token, with the containers that are still open held on a stack.
Reading fails where no document goes on like this, and where containers are nested too deeply.
-/

namespace SearchTuning.Json

/-- The two kinds of containers. -/
inductive Container where
  | array | object
  deriving DecidableEq, Repr

/-- Why a text cannot be read. -/
inductive ReadError where
  /-- It is no document. -/
  | malformed
  /-- A container stands inside too many others. -/
  | tooDeep (container : Container)
  deriving DecidableEq, Repr

/-- A string literal in a document that has been read but not decoded. -/
abbrev Raw := List Literal.Piece

/-- A container that is still open.  What it holds so far is in reverse. -/
inductive Frame where
  | items (done : List (Node Raw))
  | members (done : List (Raw × Node Raw)) (key : Raw)

/-- What must come next. -/
inductive Reader where
  /-- A value. -/
  | value (outer : List Frame)
  /-- The first item of an array, or its end. -/
  | firstItem (outer : List Frame)
  /-- The first key of an object, or its end. -/
  | firstKey (outer : List Frame)
  /-- A key, after the given members. -/
  | nextKey (done : List (Raw × Node Raw)) (outer : List Frame)
  /-- The colon after a key. -/
  | colon (done : List (Raw × Node Raw)) (key : Raw) (outer : List Frame)
  /-- What follows a value: a comma, the end of its container, or the end of the text. -/
  | complete (v : Node Raw) (outer : List Frame)

variable [Platform]

namespace Reader

/-- Takes a token that must begin a value. -/
def begin (outer : List Frame) : Token → Except ReadError Reader
  | .scalar s => .ok (.complete (.scalar s) outer)
  | .str s => .ok (.complete (.str s) outer)
  | .mark .openBracket =>
      if outer.length < Platform.reading then .ok (.firstItem outer) else .error (.tooDeep .array)
  | .mark .openBrace =>
      if outer.length < Platform.reading then .ok (.firstKey outer) else .error (.tooDeep .object)
  | _ => .error .malformed

/-- Takes a token. -/
def step : Reader → Token → Except ReadError Reader
  | .value outer, token => begin outer token
  | .firstItem outer, .mark .closeBracket => .ok (.complete (.arr []) outer)
  | .firstItem outer, token => begin (.items [] :: outer) token
  | .firstKey outer, .mark .closeBrace => .ok (.complete (.obj []) outer)
  | .firstKey outer, .str key => .ok (.colon [] key outer)
  | .nextKey done outer, .str key => .ok (.colon done key outer)
  | .colon done key outer, .mark .colon => .ok (.value (.members done key :: outer))
  | .complete v (.items done :: outer), .mark .comma => .ok (.value (.items (v :: done) :: outer))
  | .complete v (.items done :: outer), .mark .closeBracket =>
      .ok (.complete (.arr (v :: done).reverse) outer)
  | .complete v (.members done key :: outer), .mark .comma => .ok (.nextKey ((key, v) :: done) outer)
  | .complete v (.members done key :: outer), .mark .closeBrace =>
      .ok (.complete (.obj ((key, v) :: done).reverse) outer)
  | _, _ => .error .malformed

/-- Takes tokens one after the other. -/
def run : Reader → List Token → Except ReadError Reader
  | reader, [] => .ok reader
  | reader, token :: rest => do run (← reader.step token) rest

/-- The document that has been read, if nothing is open. -/
def finish : Reader → Except ReadError (Node Raw)
  | .complete v [] => .ok v
  | _ => .error .malformed

end Reader

/-- The document that a text is, its string literals as they are written. -/
def readRaw (t : Text) : Except ReadError (Node Raw) := do
  (← Reader.run (.value []) (tokens t)).finish

/-- The value that a document stands for. -/
def ofRaw (document : Node Raw) : Json := collapse (document.map Literal.decode)

/-- The value that a text stands for. -/
def read (t : Text) : Except ReadError Json := (readRaw t).map ofRaw

end SearchTuning.Json
