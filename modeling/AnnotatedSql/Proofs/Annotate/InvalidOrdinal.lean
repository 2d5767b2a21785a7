/-
This file shows when a text that can be parsed cannot be annotated: exactly if a number token that
makes up an order item by itself names no position, and the error is about the first such token.
-/

import AnnotatedSql.Proofs.Annotate.Refusal
import AnnotatedSql.Proofs.Annotate.Session
import AnnotatedSql.Proofs.Annotate.SpanOrder
import AnnotatedSql.Proofs.Grammar.Choice
import AnnotatedSql.Proofs.Grammar.PartNode

namespace AnnotatedSql

open Grammar (Cursor DerivesWidely)

variable {source : Text} {tree : Grammar.Select} {tokens : List Token} {token : Token}

/-! ### Numbers that make up order items -/

/-- What the item orders by stands under this span. -/
def Grammar.OrderItem.target? (item : Grammar.OrderItem) : Option Span :=
  (item.column.map fun name => name.span).or
    (item.number.or (item.expr.map fun node => node.span))

/-- The token is a number that makes up by itself what an order item of the tree, at whatever depth,
orders by. -/
structure LoneNumber (source : Text) (tree : Grammar.Select) (token : Token) : Prop where
  member : token ∈ tokenize source
  number : token.kind = .number
  item : ∃ item, .item item ∈ tree.parts ∧ item.target? = some token.span

/-- The token makes up an order item by itself and names no position. -/
structure RejectedNumber (source : Text) (tree : Grammar.Select) (token : Token) : Prop where
  lone : LoneNumber source tree token
  rejected : Ordinal.ofText? token.text = none

theorem mem_numbers {span : Span} {parts : List Grammar.Part} :
    span ∈ Grammar.numbers parts ↔ ∃ item, .item item ∈ parts ∧ item.number = some span := by
  rw [Grammar.numbers, List.mem_filterMap]
  constructor
  · rintro ⟨_ | item | _, member, found⟩
    · cases found
    · exact ⟨item, member, found⟩
    · cases found
  · rintro ⟨item, member, found⟩
    exact ⟨.item item, member, found⟩

/-- A number token that an item orders by fills the slot of a number. -/
theorem Grammar.OrderItem.Chosen.number_eq {item : Grammar.OrderItem} (chosen : item.Chosen tokens)
    (laid : Laid source tokens) (member : token ∈ tokens) (number : token.kind = .number)
    (found : item.target? = some token.span) : item.number = some token.span := by
  obtain ⟨slots, _, infixed⟩ := chosen
  have infixed := (List.prefix_append _ _).isInfix.trans infixed
  have inside := laid.fewer infixed.sublist
  cases slots with
  | column derived =>
      have covered := (derived.span_eq inside).symm.trans (Option.some.inj found)
      obtain rfl := laid.eq_single infixed derived.nonempty member covered
      cases derived with
      | plain name =>
          rw [number] at name
          exact absurd name Bool.false_ne_true
  | number => exact found
  | expr derived other =>
      have covered := (derived.span_eq inside rfl).symm.trans (Option.some.inj found)
      have single := laid.eq_single infixed (derived.nonempty rfl) member covered
      exact absurd number (other token single)

section
variable (parsed : Grammar.parse source = .ok tree)
include parsed

/-- The numbers in the tree are the number tokens that make up order items. -/
theorem loneNumber_iff (member : token ∈ tokenize source) (number : token.kind = .number) :
    LoneNumber source tree token ↔ token.span ∈ Grammar.numbers tree.parts := by
  rw [mem_numbers]
  constructor
  · rintro ⟨_, _, item, isPart, target⟩
    have kept : item.Chosen _ := Grammar.parse_chosen parsed (Grammar.has_item parsed isPart)
    have unread := mem_ofTokens member (by rw [number]; nofun)
    exact ⟨item, isPart, kept.number_eq (laid_ofTokens source) unread number target⟩
  · rintro ⟨item, isPart, found⟩
    have kept : item.Chosen _ := Grammar.parse_chosen parsed (Grammar.has_item parsed isPart)
    refine ⟨member, number, item, isPart, ?_⟩
    obtain ⟨slots, _, _⟩ := kept
    cases slots with
    | column | expr => cases found
    | number => exact found

/-- A number in the tree is that of a number token. -/
theorem exists_loneNumber {span : Span} (found : span ∈ Grammar.numbers tree.parts) :
    ∃ token, LoneNumber source tree token ∧ token.span = span ∧
      span.text source = token.text := by
  obtain ⟨item, isPart, number⟩ := mem_numbers.mp found
  have kept : item.Chosen _ := Grammar.parse_chosen parsed (Grammar.has_item parsed isPart)
  obtain ⟨slots, _, infixed⟩ := kept
  cases slots with
  | column | expr => cases number
  | @number token kind =>
      obtain rfl := Option.some.inj number
      have member := infixed.subset List.mem_cons_self
      have stands := (laid_ofTokens source).stands token member
      exact ⟨token, ⟨mem_tokenize member, kind, _, isPart, rfl⟩, rfl, stands.span_text⟩

/-- The rejected tokens are those whose spans are rejected. -/
theorem rejectedNumber_iff (member : token ∈ tokenize source) (number : token.kind = .number) :
    RejectedNumber source tree token ↔ token.span ∈ rejected source tree.parts := by
  have unread := mem_ofTokens member (by rw [number]; nofun)
  have stands := (laid_ofTokens source).stands token unread
  rw [rejected, List.mem_filter, stands.span_text, Option.isNone_iff_eq_none,
    ← loneNumber_iff parsed member number]
  exact ⟨fun found => ⟨found.lone, found.rejected⟩, fun found => ⟨found.1, found.2⟩⟩

/-- Rejected numbers come in the order of the source. -/
theorem rejected_ordered :
    (rejected source tree.parts).Pairwise fun first second => first.start < second.start := by
  obtain ⟨tokens, closing, ending, whole, _, _, derived⟩ := Grammar.parse_derives parsed
  have ordered := tokenize_ordered source
  rw [whole, List.append_assoc, List.pairwise_append] at ordered
  have starts := (List.pairwise_map.mpr ordered.1).sublist derived.ordered
  exact (List.pairwise_map.mp starts).filter _

end

/-! ### Texts that cannot be annotated -/

/-- A statement is refused where its SELECT is. -/
theorem refuses_statement {spans : List Span}
    (select : Refuses source spans (Annotate.select tree)) :
    Refuses source spans (Annotate.statement tree) := by
  have reset : Succeeds source (modify fun progress => { progress with markers := 0 }) :=
    fun _ => ⟨_, _, rfl⟩
  refine reset.after fun _ => (Annotate.succeeds_report _).after fun _ => ?_
  exact select.before fun _ => (Annotate.succeeds_report _).after fun _ => succeeds_pure

section
variable {after : Progress} (parsed : Grammar.parse source = .ok tree)
include parsed

/-- The tree of a text is refused at the first of its rejected numbers. -/
theorem statement_refused :
    Refuses source (rejected source tree.parts) (Annotate.statement tree) := by
  obtain ⟨tokens, closing, ending, whole, _, _, derived⟩ := Grammar.parse_derives parsed
  rw [List.append_assoc] at whole
  exact refuses_statement (derived.refused (derived.laid whole))

/-- A text that can be parsed is annotated as its tree is. -/
theorem annotate_ok {statement : Statement}
    (run : Annotate.statement tree source Progress.initial = (.ok statement, after)) :
    annotate source = .ok statement := by
  rw [annotate, annotateWithEvents, parsed]
  change (Annotate.statement tree source Progress.initial).1.mapError _ = _
  rw [run]
  rfl

/-- A text that can be parsed is refused as its tree is. -/
theorem annotate_error {error : AnnotationError}
    (run : Annotate.statement tree source Progress.initial = (.error error, after)) :
    annotate source = .error (.rejected error) := by
  rw [annotate, annotateWithEvents, parsed]
  change (Annotate.statement tree source Progress.initial).1.mapError _ = _
  rw [run]
  rfl

end

/-- A text with a rejected number is not annotated. -/
theorem rejected_of_annotated {statement : Statement} (parsed : Grammar.parse source = .ok tree)
    (annotated : annotate source = .ok statement) : rejected source tree.parts = [] := by
  have refuses := statement_refused parsed
  rcases spans : rejected source tree.parts with _ | ⟨span, others⟩
  · rfl
  · rw [spans] at refuses
    obtain ⟨after, run⟩ := refuses Progress.initial
    rw [annotate_error parsed run] at annotated
    cases annotated

/-- The spans of a parsed tree lie in the text and split no character. -/
theorem Grammar.parse_spans_fit (parsed : Grammar.parse source = .ok tree) {span : Span}
    (member : .span span ∈ tree.parts) : span.Fits source := by
  obtain ⟨tokens, closing, ending, whole, _, _, derived⟩ := Grammar.parse_derives parsed
  rw [List.append_assoc] at whole
  exact ((derived.traced span member).fits (derived.laid whole)).1

/-- A text that can be parsed is annotated as what stands under the spans of its tree says: whatever
has the same texts there gives the same annotation or the same error for that tree. -/
theorem annotate_by_texts (parsed : Grammar.parse source = .ok tree) {other : Text}
    (agree : ∀ span, .span span ∈ tree.parts → span.text other = span.text source)
    (progress : Progress) :
    (Annotate.statement tree other progress).1.mapError Failure.rejected = annotate source := by
  have same := (Annotate.statement_by_texts agree Progress.initial progress).1
  rw [same, annotate, annotateWithEvents, parsed]
  rfl

/-- A text that can be parsed is annotated unless a number token that makes up an order item by
itself names no position; then the error is about the first such token. All spans in its tree lie
in the text and split no character. -/
theorem annotate_fails_at_number (source : Text) (tree : Grammar.Select)
    (parsed : Grammar.parse source = .ok tree) :
    (∀ span, .span span ∈ tree.parts → span.Fits source) ∧
      ((∃ failure, annotate source = .error failure) ↔
        ∃ token, RejectedNumber source tree token) ∧
      ∀ failure, annotate source = .error failure → ∃ token,
        RejectedNumber source tree token ∧
          (∀ other, RejectedNumber source tree other → token.span.start ≤ other.span.start) ∧
          failure = .rejected (.invalidOrdinal token.text token.span) := by
  have refuses := statement_refused parsed
  have ordered := rejected_ordered parsed
  refine ⟨fun span member => Grammar.parse_spans_fit parsed member, ?_⟩
  rcases spans : rejected source tree.parts with _ | ⟨span, others⟩
  · rw [spans] at refuses
    obtain ⟨statement, after, run⟩ := refuses Progress.initial
    rw [annotate_ok parsed run]
    have never (failure : Failure) : (Except.ok statement : Except _ _) ≠ .error failure := nofun
    refine ⟨⟨fun ⟨failure, same⟩ => absurd same (never failure), ?_⟩,
      fun failure same => absurd same (never failure)⟩
    rintro ⟨token, found⟩
    have listed := (rejectedNumber_iff parsed found.lone.member found.lone.number).mp found
    rw [spans] at listed
    exact absurd listed List.not_mem_nil
  · rw [spans] at refuses ordered
    obtain ⟨after, run⟩ := refuses Progress.initial
    rw [annotate_error parsed run]
    have member : span ∈ rejected source tree.parts := by
      rw [spans]
      exact List.mem_cons_self
    obtain ⟨token, lone, rfl, text⟩ := exists_loneNumber parsed (List.mem_filter.mp member).1
    have found := (rejectedNumber_iff parsed lone.member lone.number).mpr member
    refine ⟨⟨fun _ => ⟨token, found⟩, fun _ => ⟨_, rfl⟩⟩, ?_⟩
    intro failure same
    obtain rfl := Except.error.inj same
    refine ⟨token, found, ?_, by rw [text]⟩
    intro other rejected
    have listed := (rejectedNumber_iff parsed rejected.lone.member rejected.lone.number).mp rejected
    rw [spans] at listed
    rcases List.mem_cons.mp listed with same | later
    · rw [same]
    · exact Nat.le_of_lt ((List.pairwise_cons.mp ordered).1 _ later)

/-- A position in a nested select is refused before one that stands behind it, also if it is in an
operand that is dropped. -/
theorem annotate_fails_at_nested_number :
    ∃ source tree token, Grammar.parse source = .ok tree ∧ RejectedNumber source tree token ∧
      annotate source = .error (.rejected (.invalidOrdinal token.text token.span)) ∧
      token.span = ⟨62, 80⟩ := by
  let source : Text := ("SELECT a FROM t WHERE b XOR c IN (SELECT d FROM u ORDER BY 1, " ++
    "9223372036854775808) ORDER BY 1e99, e").toList
  have parses : (Grammar.parse source).isOk := by decide +kernel
  have fails : (match annotate source with
      | .error (.rejected (.invalidOrdinal _ span)) => decide (span = ⟨62, 80⟩)
      | _ => false) = true := by decide +kernel
  rcases parsed : Grammar.parse source with error | tree
  · rw [parsed] at parses
    exact absurd parses Bool.false_ne_true
  rcases run : annotate source with failure | statement
  · obtain ⟨token, found, _, rfl⟩ := (annotate_fails_at_number source tree parsed).2.2 failure run
    rw [run] at fails
    exact ⟨source, tree, token, parsed, found, run, of_decide_eq_true fails⟩
  · rw [run] at fails
    exact absurd fails Bool.false_ne_true

end AnnotatedSql
