import SearchTuning.Proofs.Text.Cutting
import SearchTuning.Template.Basic

/-!
# The phrase mark

The mark holds no sign that a query string or a document gives a meaning to, and a phrase that is
made clean holds no surrogate.
-/

namespace SearchTuning

namespace Template

theorem phraseMark_ne_nil : phraseMark ≠ [] := by
  decide

/-- What is checked of the mark's code points one by one holds of all of them. -/
theorem forall_mem_phraseMark {p : CodePoint → Prop} [DecidablePred p]
    (checked : phraseMark.all (fun c => decide (p c)) = true) : ∀ c ∈ phraseMark, p c :=
  fun c member => of_decide_eq_true (List.all_eq_true.mp checked c member)

/-- The phrase stands between the parts around the marks. -/
theorem bindPhrase_eq_intercalate (phrase t : Text) :
    bindPhrase phrase t = List.intercalate phrase (Occurrences.around phraseMark t) :=
  Text.replace_eq_intercalate phraseMark_ne_nil t

end Template

namespace Text

theorem hasSurrogate_replaceSurrogates (t : Text) : t.replaceSurrogates.hasSurrogate = false := by
  rw [hasSurrogate, replaceSurrogates, List.any_map, List.any_eq_false]
  intro c _
  rw [Function.comp_apply]
  split
  · decide
  · next whole => exact whole

theorem replaceSurrogates_ne_nil {t : Text} (filled : t ≠ []) : t.replaceSurrogates ≠ [] := by
  rwa [replaceSurrogates, Ne, List.map_eq_nil_iff]

end Text

end SearchTuning
