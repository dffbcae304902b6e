import SearchTuning.Args
import SearchTuning.Error.Message
import SearchTuning.Json.Printer

/-!
# The command line

Compiles one template: the arguments name the engine and give the template, and all others are the
phrase.
-/

namespace SearchTuning.CommandLine

/-- Where text is written, by the code points for which there is a form. -/
structure Output where
  takes : CodePoint → Bool

namespace Output

/-- An output in UTF-8, in which surrogates have no form. -/
def utf8 : Output := ⟨fun c => !c.isSurrogate⟩

/-- An output that keeps code points as they are. -/
def points : Output := ⟨fun _ => true⟩

/-- A text as it is written where nothing is refused: what has no form is written by its number. -/
def spelled (output : Output) (t : Text) : Text :=
  t.flatMap fun c => if output.takes c then [c] else c.spelled

/-- The lines of a value, if it can be printed and each code point of them has a form. -/
def lines [Platform] (output : Output) (v : Json) : Except Error Text := do
  let text ← v.print
  if text.all output.takes then pure (text ++ Text.ofString "\n") else throw .unencodable

end Output

/-- What is written as an error. -/
inductive Complaint where
  | text (t : Text)
  /-- Where the program was when an error ended it. -/
  | trace (e : Error)
  deriving DecidableEq

/-- What is written, and the exit code. -/
structure Outcome where
  code : Nat
  out : Text
  err : Complaint
  deriving DecidableEq

/-- How the program is called. -/
def usage : Text :=
  Text.ofString "Usage: python -m query_tries <engine> <template> [phrase]\n"

/-- The phrase that arguments give: all of them with blanks between, or none if that is empty. -/
def phrase? (words : List Text) : Option Text :=
  let phrase := Text.join (Text.ofString " ") words
  if phrase = [] then none else some phrase

/-- What the program does with its arguments.  An error of the template is told in a line; one of
printing its args ends the program. -/
def run [Platform] (output : Output) : List Text → Outcome
  | tag :: template :: words =>
      match Args.compileFor tag true (phrase? words) (.table []) template with
      | .ok args =>
          match output.lines args with
          | .ok lines => ⟨0, lines, .text []⟩
          | .error e => ⟨1, [], .trace e⟩
      | .error e =>
          ⟨1, [], .text (output.spelled (Text.ofString "Error: " ++ e.message ++ Text.ofString "\n"))⟩
  | _ => ⟨1, [], .text usage⟩

end SearchTuning.CommandLine
