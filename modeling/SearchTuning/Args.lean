import SearchTuning.Engine
import SearchTuning.Template.Bindings

/-!
# Args

The args of a try are what its template comes to for its engine: the variables are filled in, then
the phrase, and the text that results is read in the engine's grammar.  A template that cannot be
read has the args `null`.
-/

namespace SearchTuning.Args

/-- The template with its variables and its phrase filled in.  Without a phrase its marks stay. -/
def substitute (escape : Text → Text) (phrase : Option Text) (lookup : Text → Option Text)
    (template : Text) : Text :=
  let filled := Template.fill lookup template
  match phrase with
  | none => filled
  | some phrase => Template.bindPhrase (escape phrase) filled

variable [Platform]

/-- What a text comes to for an engine. -/
def materialize (engine : Engine) (t : Text) : Except Error Json :=
  (engine.materialize t).mapError .tooDeep

/-- The form in which a phrase is put into a template. -/
def escaper (engine : Engine) (escapeQuery : Bool) : Text → Text :=
  if escapeQuery then engine.escape else id

/-- The args of a template. -/
def compile (engine : Engine) (escapeQuery : Bool) (phrase : Option Text)
    (lookup : Text → Option Text) (template : Text) : Except Error Json :=
  materialize engine (substitute (escaper engine escapeQuery) phrase lookup template)

/-- The engine that is asked for by name. -/
def engineOfTag (tag : Text) : Except Error Engine :=
  match Engine.ofTag? tag with
  | some engine => .ok engine
  | none => .error (.unknownEngine tag)

/-- The engine that a text is the name of. -/
def engineOfName (name : Text) : Except Error Engine :=
  match Engine.ofTag? name with
  | some engine => .ok engine
  | none => .error (.notEngine name)

/-- The template with its variables, which may be given in any form, and its phrase filled in. -/
def substituteWith (escape : Text → Text) (phrase : Option Text) (bindings : Bindings)
    (template : Text) : Except Error Text := do
  pure (substitute escape phrase (← bindings.lookup template) template)

/-- The args of a template for an engine that is asked for by name. -/
def compileFor (tag : Text) (escapeQuery : Bool) (phrase : Option Text) (bindings : Bindings)
    (template : Text) : Except Error Json := do
  let engine ← engineOfTag tag
  compile engine escapeQuery phrase (← bindings.lookup template) template

end SearchTuning.Args
