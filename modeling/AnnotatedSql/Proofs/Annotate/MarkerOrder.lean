/-
This file shows that the parameter markers of an annotated text are numbered in the order of the
source, wherever they stand.
-/

import AnnotatedSql.Proofs.Annotate.Derivation
import AnnotatedSql.Proofs.Grammar.Soundness.Statement

namespace AnnotatedSql

variable {source : Text} {tokens before inner after : List Token} {token : Token}

/-! ### Where markers lie -/

/-- Every token starts before the ones behind it. -/
theorem tokenize_ordered (source : Text) :
    (tokenize source).Pairwise fun first second => first.span.start < second.span.start := by
  obtain ⟨each, ordered⟩ := (Reader.ofSource source).tokens_ordered
  apply ordered.imp_of_mem
  intro first second member _ precedes
  have extent := (each first member).2
  rw [Token.Precedes] at precedes
  omega

/-- No two markers lie at one place. -/
theorem questions_nodup (source : Text) : (questions (tokenize source)).Nodup := by
  rw [questions, List.nodup_iff_pairwise_ne, List.pairwise_map]
  apply ((tokenize_ordered source).filter _).imp
  intro first second before same
  rw [same] at before
  exact Nat.lt_irrefl _ before

/-- The tokens of a stretch do not reach beyond its span. -/
theorem stop_le_cover (initial : List Token) (last : Token) :
    last.span.stop ≤ (Grammar.cover (initial ++ [last])).stop := by
  rw [Grammar.cover, Grammar.stopOf?, List.getLast?_concat]
  exact Nat.le_max_left _ _

/-- The span of a stretch reaches no further than its tokens. -/
theorem cover_stop_lt {bound : Nat} (nonempty : inner ≠ [])
    (each : ∀ token ∈ inner, token.span.start < bound ∧ token.span.stop < bound) :
    (Grammar.cover inner).stop < bound := by
  have last := each _ (List.getLast_mem nonempty)
  have first := each _ (List.head_mem nonempty)
  rw [Grammar.cover, Grammar.startOf, Grammar.stopOf?, List.getLast?_eq_some_getLast nonempty,
    List.head?_eq_some_head nonempty]
  exact Nat.max_lt.mpr ⟨last.2, first.1⟩

/-- What holds of the spans of some tokens, and not of those behind them, counts their markers. -/
theorem countP_questions_append {holds : Span → Bool}
    (early : ∀ token ∈ before, holds token.span = true)
    (late : ∀ token ∈ after, ¬ holds token.span = true) :
    (questions (before ++ after)).countP holds = (questions before).length := by
  have all : (questions before).countP holds = (questions before).length := by
    rw [List.countP_eq_length]
    intro span member
    obtain ⟨token, found, rfl⟩ := mem_questions member
    exact early token found
  have none : (questions after).countP holds = 0 := by
    rw [List.countP_eq_zero]
    intro span member
    obtain ⟨token, found, rfl⟩ := mem_questions member
    exact late token found
  rw [questions_append, List.countP_append, all, none, Nat.add_zero]

/-- The markers up to the end of a stretch of tokens are those that start no later than the span
of the stretch stops. -/
theorem countP_questions
    (extents : ∀ token ∈ before ++ inner ++ after, token.span.start ≤ token.span.stop)
    (ordered : (before ++ inner ++ after).Pairwise Token.Precedes) (nonempty : inner ≠ []) :
    (questions (before ++ inner ++ after)).countP
        (fun span => span.start ≤ (Grammar.cover inner).stop) =
      (questions (before ++ inner)).length := by
  rw [List.pairwise_append] at ordered
  obtain ⟨orderedUpTo, _, behind⟩ := ordered
  have early : ∀ token ∈ before ++ inner, token.span.start ≤ (Grammar.cover inner).stop := by
    obtain ⟨initial, last, rfl⟩ := (List.eq_nil_or_concat' inner).resolve_left nonempty
    have reach := stop_le_cover initial last
    rw [← List.append_assoc, List.pairwise_append] at orderedUpTo
    intro token member
    have extent := extents token (List.mem_append_left _ member)
    rw [← List.append_assoc] at member
    rcases List.mem_append.mp member with member | member
    · have precedes := orderedUpTo.2.2 token member last List.mem_cons_self
      have lastExtent := extents last (by simp)
      rw [Token.Precedes] at precedes
      omega
    · rw [List.mem_singleton] at member
      subst member
      omega
  have late : ∀ token ∈ after, (Grammar.cover inner).stop < token.span.start := by
    intro token member
    apply cover_stop_lt nonempty
    intro other inside
    have precedes := behind other (List.mem_append_right _ inside) token member
    have extent := extents other (List.mem_append_left _ (List.mem_append_right _ inside))
    rw [Token.Precedes] at precedes
    omega
  refine countP_questions_append (fun token member => decide_eq_true (early token member)) ?_
  intro token member
  have beyond := late token member
  rw [decide_eq_true_iff]
  omega

/-! ### Whole statements -/

/-- The annotation yields a statement with the number of markers that it has come to. -/
def Counted (annotator : Annotator Statement) : Prop :=
  ∀ source progress statement after,
    annotator source progress = (.ok statement, after) → statement.markers = after.markers

theorem Counted.bind {Value : Type} {first : Annotator Value} {next : Value → Annotator Statement}
    (rest : ∀ value, Counted (next value)) : Counted (first >>= next) := by
  intro source progress statement after run
  rw [Annotator.bind_run] at run
  rcases split : first source progress with ⟨error | value, middle⟩
  · rw [split] at run
    cases run
  · rw [split] at run
    exact rest value source middle statement after run

namespace Annotate

theorem select_counted (node : Grammar.Select) : Counted (select node) := by
  obtain ⟨span, distinct, ⟨listSpan, items⟩, tableList, condition, grouping, filter,
    ordering⟩ := node
  rw [select]
  iterate 6
    apply Counted.bind
    intro _
  intro source progress statement after run
  obtain ⟨same, rfl⟩ := Prod.mk.inj run
  obtain rfl := Except.ok.inj same
  rfl

/-- A statement starts to count at zero. -/
theorem walks_statement {tree : Grammar.Select}
    (walked : (Grammar.Node.select tree).Walked source tokens) :
    Walks source 0 tokens (statement tree) fun result =>
      Keeps 0 tokens result.kept ∧ result.markers = (questions tokens).length := by
  have selected : Walks source 0 tokens (select tree) fun result =>
      Keeps 0 tokens result.kept ∧ result.markers = (questions tokens).length := by
    intro events result after run
    obtain ⟨count, reported, keeps⟩ := walked 0 events result after run
    have counted := select_counted tree source _ result after run
    rw [count, Nat.zero_add] at counted
    exact ⟨count, reported, keeps, counted⟩
  have reset : Walks source 0 [] (modify fun progress => { progress with markers := 0 })
      fun _ => True := by
    intro events value after run
    obtain ⟨_, rfl⟩ := Prod.mk.inj run
    exact ⟨rfl, (List.append_nil _).symm, trivial⟩
  rw [statement]
  apply reset.after
  intro _ _
  apply (walks_report rfl).after
  intro _ _
  apply selected.before
  intro result finished
  apply (walks_report rfl).after
  intro _ _
  exact walks_pure finished

end Annotate

/-- No token behind the statement of a text is a marker. -/
theorem questions_closing {closing : List Token} {ending : Token}
    (closes : Grammar.Parse.Closing closing) (last : ending.kind = .endOfInput) :
    questions (closing ++ [ending]) = [] := by
  have ends : questions [ending] = [] := by
    rw [questions_cons]
    · rfl
    · rw [last]
      nofun
  cases closes with
  | absent => exact ends
  | present semicolon =>
      rw [List.singleton_append, questions_cons (ne_question_of_symbol semicolon nofun)]
      exact ends

/-- The statement of a text comes from its grammar tree. -/
theorem annotateWithEvents_ok {statement : Statement} {events : List Event}
    (annotated : annotateWithEvents source = (.ok statement, events)) :
    ∃ tree after, Grammar.parse source = .ok tree ∧
      Annotate.statement tree source Progress.initial = (.ok statement, after) ∧
        events = after.events := by
  unfold annotateWithEvents at annotated
  rcases parsed : Grammar.parse source with error | tree
  · rw [parsed] at annotated
    cases annotated
  · rw [parsed] at annotated
    obtain ⟨succeeded, rfl⟩ := Prod.mk.inj annotated
    rcases run : Annotate.statement tree source Progress.initial with ⟨error | value, after⟩
    · rw [Annotator.runOn, run] at succeeded
      cases succeeded
    · rw [Annotator.runOn, run] at succeeded
      obtain rfl := Except.ok.inj succeeded
      refine ⟨tree, after, rfl, run, ?_⟩
      rw [Annotator.runOn, run]

/-- Parameter markers are numbered in the order of the source: the statement has as many of them as
there are `?` tokens, the annotation numbers each token once and in order, a marker that is kept
anywhere in the statement has the number of its token, and a nested statement counts the tokens up
to its end. -/
theorem markers_numbered_in_order (source : Text) (statement : Statement) (events : List Event)
    (annotated : annotateWithEvents source = (.ok statement, events)) :
    statement.markers = (questions (tokenize source)).length ∧
      numberings events = (questions (tokenize source)).zipIdx ∧
      (∀ span index, .marker span index ∈ statement.kept →
        ∀ place, (questions (tokenize source))[place]? = some span ↔ place = index) ∧
      ∀ nested, .statement nested ∈ statement.kept →
        nested.markers =
          (questions (tokenize source)).countP fun span => span.start ≤ nested.span.stop := by
  obtain ⟨tree, after, parsed, run, rfl⟩ := annotateWithEvents_ok annotated
  obtain ⟨tokens, closing, ending, whole, closes, last, derived⟩ := Grammar.parse_derives parsed
  rw [List.append_assoc] at whole
  have same : questions (tokenize source) = questions tokens := by
    rw [whole, questions_append, questions_closing closes last, List.append_nil]
  obtain ⟨_, reported, keeps, counted⟩ :=
    Annotate.walks_statement derived.walked [] statement after run
  rw [same]
  refine ⟨counted, reported, ?_, ?_⟩
  · intro span index member place
    have found : (questions tokens)[index]? = some span :=
      List.mem_zipIdx_iff_getElem?.mp (keeps _ member)
    constructor
    · intro other
      have distinct := questions_nodup source
      rw [same] at distinct
      have within := (List.getElem?_eq_some_iff.mp other).1
      exact (List.getElem?_inj within distinct).mp (other.trans found.symm)
    · rintro rfl
      exact found
  · intro nested member
    obtain ⟨before, inner, rest, split, nonempty, span, markers⟩ := keeps _ member
    obtain ⟨each, ordered⟩ := (Reader.ofSource source).tokens_ordered
    have parts : (Reader.ofSource source).tokens =
        before ++ inner ++ (rest ++ (closing ++ [ending])) := by
      rw [← List.append_assoc, ← split]
      exact whole
    rw [parts] at each ordered
    have count := countP_questions (fun token member => (each token member).2) ordered nonempty
    rw [← same, tokenize, parts, span, count, markers, Nat.zero_add]

/-- Markers in a text capture, in a subquery and behind XOR are numbered alike. -/
theorem markers_numbered_in_captures :
    ∃ statement events,
      annotateWithEvents "SELECT -?, (SELECT ?) FROM t WHERE a = ? XOR b = ?".toList =
          (.ok statement, events) ∧
        statement.markers = 4 ∧
        numberings events = [(⟨8, 8⟩, 0), (⟨19, 19⟩, 1), (⟨39, 39⟩, 2), (⟨49, 49⟩, 3)] := by
  have places : questions (tokenize "SELECT -?, (SELECT ?) FROM t WHERE a = ? XOR b = ?".toList) =
      [⟨8, 8⟩, ⟨19, 19⟩, ⟨39, 39⟩, ⟨49, 49⟩] := by decide +kernel
  have succeeds : (annotate "SELECT -?, (SELECT ?) FROM t WHERE a = ? XOR b = ?".toList).isOk := by
    decide +kernel
  rcases run : annotateWithEvents "SELECT -?, (SELECT ?) FROM t WHERE a = ? XOR b = ?".toList with
    ⟨error | statement, events⟩
  · rw [annotate, run] at succeeds
    exact absurd succeeds Bool.false_ne_true
  · obtain ⟨count, numbered, _, _⟩ := markers_numbered_in_order _ statement events run
    rw [places] at count numbered
    exact ⟨statement, events, rfl, count, numbered⟩

end AnnotatedSql
