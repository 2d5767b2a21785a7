/-
This file shows that the case of ASCII letters matters nowhere: not to the lexer, not to the parser
and not to the annotation, but for the texts that are kept as they stand.
-/

import AnnotatedSql.Proofs.Annotate.Carried
import AnnotatedSql.Proofs.Token.Recased

namespace AnnotatedSql

variable (recasing : Recasing)

/-! ### Parsing -/

namespace Grammar

/-- To the parser a token is like the one in another case. -/
theorem alike_recase (token : Token) : (token.recase recasing).Alike id token where
  kind := rfl
  namesAggregate := by
    rw [Parse.namesAggregate, Parse.namesAggregate, Token.recase]
    simp only [Recasing.upper_text]
  span := rfl

theorem parse_recased (source : Text) :
    parse (recasing.text source) = relocateOutcome id (parse source) := by
  obtain ⟨content, ending, whole, last, more⟩ := tokenize_end source
  rw [parse, parse, tokenize_text, whole, List.map_append, List.map_singleton]
  refine Parse.statement_relocated (fun least => least) ?_ (alike_recase recasing ending) last more
  exact List.forall₂_map_left_iff.mpr
    (List.forall₂_same.mpr fun token _ => alike_recase recasing token)

/-- Nothing in an outcome of the parser moves when offsets stay. -/
theorem relocateOutcome_id (source : Text) : relocateOutcome id (parse source) = parse source := by
  have same : Recasing.none.text source = source := List.map_id source
  have recased := parse_recased Recasing.none source
  rw [same] at recased
  exact recased.symm

theorem parse_text (source : Text) : parse (recasing.text source) = parse source := by
  rw [parse_recased, relocateOutcome_id]

end Grammar

/-! ### Annotation -/

/-- A change of case; offsets and markers stay. -/
def Recasing.change : Change := ⟨id, 0, recasing⟩

/-- What comes of a source in the other one. -/
def Change.result (change : Change) : Except Failure Statement → Except Failure Statement
  | .error failure => .error (failure.carry change)
  | .ok statement => .ok (statement.carry change)

theorem allShown_recased (source : Text) (parts : List Grammar.Part) :
    AllShown recasing.change (recasing.text source) source parts :=
  fun span _ => recasing.text_under span source

/-- A text in another case has the statement of the text, in another case, or fails alike. -/
theorem annotate_text (source : Text) :
    annotate (recasing.text source) = recasing.change.result (annotate source) := by
  have moved := Grammar.relocateOutcome_id source
  rw [annotate, annotate, annotateWithEvents, annotateWithEvents, Grammar.parse_text]
  rcases parsed : Grammar.parse source with error | tree
  · rw [parsed] at moved
    have same : error.relocate id = error := Except.error.inj moved
    exact congrArg (fun found => Except.error (Failure.unparsed found)) same.symm
  · rw [parsed] at moved
    have same : tree.relocate id = tree := Except.ok.inj moved
    have follows : Follows recasing.change (recasing.text source) source
        (Statement.carry recasing.change) (Annotate.select (tree.relocate id))
        (Annotate.select tree) := Annotate.follows_select (allShown_recased recasing source _)
    rw [same] at follows
    obtain ⟨outcome, _⟩ := follows ⟨0, [.statementStarted tree.span]⟩
      ⟨0, [.statementStarted tree.span]⟩ rfl
    have whole := Annotate.statement_outcome tree (recasing.text source) Progress.initial
    have part := Annotate.statement_outcome tree source Progress.initial
    simp only [Annotator.runOn, Progress.initial, List.nil_append] at whole part ⊢
    rw [whole, part, outcome]
    cases (Annotate.select tree source ⟨0, [.statementStarted tree.span]⟩).1 <;> rfl

/-- Two texts that differ in nothing but the case of ASCII letters have tokens of the same kinds at
the same places, the same grammar tree or the same syntax error, and statements that differ in
nothing but the case of their texts, or fail alike. -/
theorem letter_case_ignored (source other : Text) (same : source.upper = other.upper) :
    ((tokenize source).map fun token => (token.kind, token.span)) =
        ((tokenize other).map fun token => (token.kind, token.span)) ∧
      Grammar.parse source = Grammar.parse other ∧
      Recasing.capitals.change.result (annotate source) =
        Recasing.capitals.change.result (annotate other) := by
  have capitals : Recasing.capitals.text source = Recasing.capitals.text other := same
  have places (source : Text) :
      ((tokenize (Recasing.capitals.text source)).map fun token => (token.kind, token.span)) =
        (tokenize source).map fun token => (token.kind, token.span) := by
    rw [tokenize_text, List.map_map]
    rfl
  refine ⟨?_, ?_, ?_⟩
  · rw [← places source, capitals, places other]
  · rw [← Grammar.parse_text Recasing.capitals source, capitals, Grammar.parse_text]
  · rw [← annotate_text, capitals, annotate_text]

/-- Keywords, a name, a prefix, an exponent and an aggregate in two ways. -/
theorem letter_case_ignored_mixed :
    Recasing.capitals.change.result
        (annotate "SELECT Stddev(x), X'aF' FROM t WHERE a = 1E5 ORDER BY 2e0 dEsC".toList) =
      Recasing.capitals.change.result
        (annotate "select stdDEV(X), x'Af' from T where A = 1e5 order by 2E0 DESC".toList) :=
  (letter_case_ignored _ _ (by decide +kernel)).2.2

end AnnotatedSql
