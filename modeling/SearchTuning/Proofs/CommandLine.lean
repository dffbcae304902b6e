import SearchTuning.CommandLine
import SearchTuning.Proofs.Args
import SearchTuning.Proofs.Json.Rendering
import SearchTuning.Proofs.Json.Walk
import SearchTuning.Proofs.Template.Values

/-!
# What the command line writes

The program writes the args of its template so that they are read back as they were, a line break
behind them; or it fails, and then it writes no args at all.  It fails where the template has no
args, and also where they have too many levels to be printed, or the output has no form for a code
point of them.
-/

namespace SearchTuning

theorem Text.join_eq_intercalate (sep : Text) (pieces : List Text) :
    join sep pieces = sep.intercalate pieces := by
  fun_induction join sep pieces with
  | case1 => rfl
  | case2 piece => rw [List.intercalate_singleton]
  | case3 piece pieces some_piece ih =>
    rw [ih, List.intercalate_cons_of_ne_nil some_piece, List.append_assoc]

namespace CommandLine

/-- The program has succeeded, and what it has written is read as a value. -/
structure Outcome.Writes [Platform] (outcome : Outcome) (v : Json) : Prop where
  code : outcome.code = 0
  out : Json.read outcome.out = .ok v
  err : outcome.err = .text []

/-- The program has failed, and has written nothing but a message. -/
structure Outcome.Fails (outcome : Outcome) : Prop where
  code : outcome.code = 1
  out : outcome.out = []

/-- An error has ended the program before anything was written. -/
structure Outcome.Breaks (outcome : Outcome) (e : Error) : Prop extends outcome.Fails where
  err : outcome.err = .trace e

/-- The blanks between words are part of the phrase, and only an empty phrase is none. -/
theorem phrase?_eq (words : List Text) :
    phrase? words =
      let phrase := (Text.ofString " ").intercalate words
      if phrase = [] then none else some phrase := by
  rw [phrase?, Text.join_eq_intercalate]

section

variable [Platform]

/-- A value that args can be is read back from its lines, with the line break behind them. -/
theorem read_lines {v : Json} (readable : v.Readable Platform.reading) (settled : v.Settled) :
    Json.read (Json.render .indented v ++ Text.ofString "\n") = .ok v := by
  have space : ∀ c ∈ [CodePoint.ofChar '\n'], Json.isSpace c = true :=
    List.forall_mem_singleton.mpr (by decide)
  have lineBreak_eq : Text.ofString "\n" = [CodePoint.ofChar '\n'] := by decide
  rw [lineBreak_eq, Json.read_append_blanks _ space]
  exact Json.read_render Json.plain_indented readable settled

namespace Output

variable {output : Output} {v : Json}

theorem print_of_readable (readable : v.Readable Platform.printing) :
    v.print = .ok (Json.render .indented v) :=
  bind_of_eq_ok (Json.Walk.check_printing readable (Nat.le_refl _)) _

theorem lines_of_taken (readable : v.Readable Platform.printing)
    (taken : ∀ c ∈ Json.render .indented v, output.takes c = true) :
    output.lines v = .ok (Json.render .indented v ++ Text.ofString "\n") := by
  rw [lines, bind_of_eq_ok (print_of_readable readable), if_pos (List.all_eq_true.mpr taken)]
  rfl

theorem lines_of_not_taken (readable : v.Readable Platform.printing)
    (refused : ∃ c ∈ Json.render .indented v, output.takes c = false) :
    output.lines v = .error .unencodable := by
  have not_all : (Json.render .indented v).all output.takes = false := by
    obtain ⟨c, member, not_taken⟩ := refused
    exact List.all_eq_false.mpr ⟨c, member, Bool.eq_false_iff.mp not_taken⟩
  rw [lines, bind_of_eq_ok (print_of_readable readable), not_all]
  rfl

end Output

section

variable {output : Output} {tag template : Text} {words : List Text}

theorem run_of_lines {args : Json} {lines : Text}
    (found : Args.compileFor tag true (phrase? words) (.table []) template = .ok args)
    (written : output.lines args = .ok lines) :
    run output (tag :: template :: words) = ⟨0, lines, .text []⟩ := by
  simp only [run, found, written]

theorem fails_of_refused {e : Error}
    (failed : Args.compileFor tag true (phrase? words) (.table []) template = .error e) :
    (run output (tag :: template :: words)).Fails := by
  simp only [run, failed]
  exact { code := rfl, out := rfl }

theorem breaks_of_lines {args : Json} {e : Error}
    (found : Args.compileFor tag true (phrase? words) (.table []) template = .ok args)
    (failed : output.lines args = .error e) :
    (run output (tag :: template :: words)).Breaks e := by
  simp only [run, found, failed]
  exact { code := rfl, out := rfl, err := rfl }

end

/-- An engine, a template and any words for a phrase.  If the template has args that nest no more
containers than are printed, and the output takes all code points of what is printed, the program
writes just them, whatever they hold; if it does not take one of them, or the args cannot be
printed, an error ends the program before it writes anything.  And if the template has no args, for
whatever cause, the program fails.  Readers are told from printers: they must go into two containers
at least, as the args of a query string have so many. -/
theorem run_writes_args (output : Output) (tag template : Text) (words : List Text)
    (room : 2 ≤ Platform.reading) :
    let phrase := (Text.ofString " ").intercalate words
    let compiled := Args.compileFor tag true (if phrase = [] then none else some phrase)
      (VariableMap.bindings []) template
    let outcome := run output (tag :: template :: words)
    (∀ args, compiled = .ok args → args.Nested Platform.printing →
      ((∀ c ∈ Json.render .indented args, output.takes c = true) → outcome.Writes args) ∧
      ((∃ c ∈ Json.render .indented args, output.takes c = false) →
        outcome.Breaks .unencodable)) ∧
    (∀ args e, compiled = .ok args → args.print = .error e → outcome.Breaks e) ∧
    ∀ e, compiled = .error e → outcome.Fails := by
  intro phrase compiled outcome
  have compiled_eq : compiled = Args.compileFor tag true (phrase? words) (.table []) template := by
    rw [phrase?_eq]
    rfl
  refine ⟨?_, ?_, ?_⟩
  · intro args found nested
    obtain ⟨readable, settled⟩ := Args.readable_of_compileFor found
    rw [max_eq_right room] at readable
    have given := compiled_eq.symm.trans found
    have printable := readable.within nested
    constructor
    · intro taken
      have ended : outcome = _ := run_of_lines given (Output.lines_of_taken printable taken)
      rw [ended]
      exact { code := rfl, out := read_lines readable settled, err := rfl }
    · intro refused
      exact breaks_of_lines given (Output.lines_of_not_taken printable refused)
  · intro args e found unprinted
    have lines : output.lines args = .error e := by
      rw [Output.lines, unprinted]
      rfl
    exact breaks_of_lines (compiled_eq.symm.trans found) lines
  · intro e failed
    exact fails_of_refused (compiled_eq.symm.trans failed)

end

/-- Two surrogates that stand side by side in a key come back as two where the output takes all code
points, and numbers that are not finite as what they are. -/
theorem run_writes_args_surrogates :
    letI := Platform.usual
    let template := Text.ofString "\x7b\"" ++ [0xD800, 0xDC00] ++
      Text.ofString "\": [-1e400, NaN, \"#$query##\", \x7b\x7d, null]\x7d"
    let args : Json := .obj [([0xD800, 0xDC00], .arr [.double (.infinite true), .double .nan,
      .str (Text.ofString "a \"b\""), .obj [], .null])]
    2 ≤ Platform.reading ∧
    (run .points [Text.ofString "es", template, Text.ofString "a", Text.ofString "\"b\""]).Writes
      args := by
  intro template args
  let _ := Platform.usual
  refine ⟨by decide, ?_⟩
  have nested : args.Nested Platform.printing := Node.nested_of_levels_le (by decide +kernel)
  have written := (run_writes_args .points (Text.ofString "es") template
    [Text.ofString "a", Text.ofString "\"b\""] (by decide)).1 args (by decide +kernel) nested
  exact written.1 fun _ _ => rfl

/-- A surrogate that a template spells by its number comes to args, and no output in UTF-8 has a
form for it. -/
theorem run_breaks_on_surrogate :
    letI := Platform.usual
    let template := Text.ofString "\x7b\"a\": \"\\ud800\"\x7d"
    Args.compileFor (Text.ofString "es") true none (VariableMap.bindings []) template =
        .ok (.obj [(['a'], .str [0xD800])]) ∧
      (run .utf8 [Text.ofString "es", template]).Breaks .unencodable := by
  refine ⟨by decide +kernel, ?_⟩
  constructor
  · constructor <;> decide +kernel
  · decide +kernel

end CommandLine

end SearchTuning
