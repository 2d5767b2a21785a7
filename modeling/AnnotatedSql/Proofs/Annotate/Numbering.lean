/-
This file shows that the annotation of a grammar tree numbers the parameter markers of its tokens
in the order of the source, whatever it keeps of the tree.
-/

import AnnotatedSql.Proofs.Annotate.Walk

namespace AnnotatedSql

open Grammar (Node Derives)

variable {source : Text} {offset : Nat} {tokens : List Token}

/-- The annotation of the tokens numbers their markers, from any number on, and what it keeps of
them is right. -/
def Collects {Value : Type} (source : Text) (tokens : List Token) (annotator : Annotator Value)
    (kept : Value → List Kept) : Prop :=
  ∀ offset, Walks source offset tokens annotator fun value => Keeps offset tokens (kept value)

/-- The annotation of the tokens numbers their markers and keeps none of them. -/
abbrev Passes {Value : Type} (source : Text) (tokens : List Token)
    (annotator : Annotator Value) : Prop := Collects source tokens annotator fun _ => []

section
variable {Value Result : Type} {annotator : Annotator Value} {kept : Value → List Kept}
  {others : List Token} {token : Token}

theorem Quiet.passes (quiet : Quiet source annotator) : Passes source [] annotator :=
  fun offset => (quiet offset).mono fun _ _ => Keeps.nil

theorem Collects.passes (collects : Collects source tokens annotator kept) :
    Passes source tokens annotator := fun offset => (collects offset).mono fun _ _ => Keeps.nil

/-- Tokens that are no markers may stand in front. -/
theorem Collects.cons (other : token.kind ≠ .symbol .question)
    (collects : Collects source tokens annotator kept) :
    Collects source (token :: tokens) annotator kept :=
  fun offset => ((collects offset).mono fun _ keeps => keeps.cons other).cons other

theorem Collects.plain (plain : Grammar.Plain others)
    (collects : Collects source tokens annotator kept) :
    Collects source (others ++ tokens) annotator kept :=
  fun offset => ((collects offset).mono fun _ keeps => keeps.plain plain).plain plain

/-- Tokens that are no markers may stand behind. -/
theorem Collects.behind (plain : Grammar.Plain others)
    (collects : Collects source tokens annotator kept) :
    Collects source (tokens ++ others) annotator kept := by
  intro offset events value after run
  obtain ⟨count, reported, keeps⟩ := collects offset events value after run
  have same : questions (tokens ++ others) = questions tokens := by
    rw [questions_append, questions_plain plain, List.append_nil]
  rw [same]
  exact ⟨count, reported, keeps.left⟩

/-- Parentheses may stand around. -/
theorem Collects.parenthesised {opening closing : Token}
    (opens : opening.kind = .symbol .leftParen) (closes : closing.kind = .symbol .rightParen)
    (collects : Collects source tokens annotator kept) :
    Collects source (opening :: tokens ++ [closing]) annotator kept := by
  apply Collects.behind (Grammar.plain_nil.cons (by simp [closes]))
  exact collects.cons (ne_question_of_symbol opens nofun)

/-- Parentheses may stand around, behind the name of a function. -/
theorem Collects.called {name opening closing : Token} (other : name.kind ≠ .symbol .question)
    (opens : opening.kind = .symbol .leftParen) (closes : closing.kind = .symbol .rightParen)
    (collects : Collects source tokens annotator kept) :
    Collects source (name :: opening :: tokens ++ [closing]) annotator kept :=
  (collects.parenthesised opens closes).cons other

/-- Where the value is dropped, the later steps go on from what was passed. -/
theorem Collects.drop {next : Value → Annotator Result} {further : Result → List Kept}
    (first : Passes source tokens annotator)
    (rest : ∀ value, Collects source others (next value) further) :
    Collects source (tokens ++ others) (annotator >>= next) further := by
  intro offset
  apply (first offset).bind
  intro value _
  exact (rest value _).mono fun _ keeps => keeps.right

/-- Where the value is dropped and no markers follow. -/
theorem Collects.dropLast {next : Value → Annotator Result} {further : Result → List Kept}
    (first : Passes source tokens annotator)
    (rest : ∀ value, Collects source [] (next value) further) :
    Collects source tokens (annotator >>= next) further := by
  rw [← List.append_nil tokens]
  exact first.drop rest

theorem Quiet.before {next : Value → Annotator Result} {further : Result → List Kept}
    (quiet : Quiet source annotator) (rest : ∀ value, Collects source tokens (next value) further) :
    Collects source tokens (annotator >>= next) further := by
  rw [← List.nil_append tokens]
  exact quiet.passes.drop rest

theorem collects_pure {value : Value} (none : kept value = []) :
    Collects source [] (pure value) kept := by
  intro offset
  apply walks_pure
  rw [none]
  exact Keeps.nil

end

/-- What a leaf that stands at a span keeps. -/
def Leaf.kept (span : Span) : Leaf → List Kept
  | .segment inner => inner.kept
  | .value (.marker index) => [.marker span index]
  | .value _ => []

/-- An optional expression is passed by itself and as a list of at most one. -/
structure PassesOptional (source : Text) (tokens : List Token) (node : Option Grammar.Expr) :
    Prop where
  alone : Passes source tokens (Annotate.expr? node)
  listed : Passes source tokens (Annotate.exprs node.toList)

/-- The annotation of a node of the grammar, for the tokens that the node derives. -/
def Grammar.Node.Walked (source : Text) : Node → List Token → Prop
  | .expr node, tokens => Collects source tokens (Annotate.expr node) Segment.kept
  | .primary node, tokens => Collects source tokens (Annotate.booleanPrimary node) Segment.kept
  | .predicate node, tokens => Collects source tokens (Annotate.predicate node) Segment.kept
  | .bitExpr node, tokens => Collects source tokens (Annotate.bitExpr node) Segment.kept
  | .simpleExpr node, tokens =>
      Collects source tokens (Annotate.simpleExpr node) (Leaf.kept node.span)
  | .exprs nodes, tokens | .regularArguments nodes _, tokens =>
      Collects source tokens (Annotate.exprs nodes) Segment.keptAmong
  | .expr? node, tokens | .ledExpr _ node, tokens | .separatedExpr _ node, tokens =>
      PassesOptional source tokens node
  | .simpleExpr? node, tokens | .escape node, tokens =>
      Passes source tokens (Annotate.simpleExpr? node)
  | .branches nodes, tokens => Passes source tokens (Annotate.caseBranches nodes)
  | .argumentChain nodes, tokens | .arguments nodes, tokens =>
      Passes source tokens (Annotate.aggregationArguments nodes)
  | .aggregation node, tokens => Passes source tokens (Annotate.aggregationCall node)
  | .special node, tokens => Passes source tokens (Annotate.specialCall node)
  | .regular node, tokens => Passes source tokens (Annotate.regularCall node)
  | .orderTarget column number inner, tokens => ∀ span ascending descending,
      Passes source tokens (Annotate.orderItem ⟨span, column, number, inner, ascending, descending⟩)
  | .orderItem node, tokens => Passes source tokens (Annotate.orderItem node)
  | .orderItems nodes, tokens => Passes source tokens (Annotate.orderItems nodes)
  | .ordering _ clause, tokens => Passes source tokens (Annotate.orderClause? clause)
  | .condition _ clause, tokens =>
      Collects source tokens (Annotate.conditionClause? clause) Condition.keptIn
  | .selectItem node, tokens => Collects source tokens (Annotate.selectItem node) SelectItem.kept
  | .selectItems nodes, tokens =>
      Collects source tokens (Annotate.selectItems nodes) SelectItem.keptAmong
  | .select node, tokens => Collects source tokens (Annotate.select node) Statement.kept
  | .subquery node, tokens => Collects source tokens (Annotate.subquery node) Statement.kept

namespace Annotate

/-! ### Steps behind the parts of a node -/

theorem quiet_report {event : Event} (other : numberings [event] = []) :
    Quiet source (report event) := fun _ => walks_report other

theorem walks_verbatimSegment (span : Span) :
    Walks source offset [] (verbatimSegment span) fun segment => segment.kept = [] := by
  have kept : Walks source offset [] (verbatim span) fun expression => expression.kept = [] := by
    apply (quiet_textAt span offset).after
    intro text _
    apply walks_pure
    rw [Expression.kept]
  apply kept.after
  intro expression same
  apply walks_pure
  rw [Segment.kept, same]

theorem collects_verbatimSegment (span : Span) :
    Collects source [] (verbatimSegment span) Segment.kept := by
  intro offset
  apply (walks_verbatimSegment span).mono
  intro segment none
  rw [none]
  exact Keeps.nil

theorem walks_keptPredicate (span : Span) :
    Walks source offset [] (keptPredicate span) fun segment => segment.kept = [] := by
  apply (walks_report rfl).after
  intro _ _
  exact walks_verbatimSegment span

/-- The segment of a leaf keeps what the leaf keeps. -/
theorem walks_leafSegment (span : Span) (leaf : Leaf) :
    Walks source offset [] (leafSegment span leaf) fun segment =>
      ∀ one ∈ segment.kept, one ∈ leaf.kept span := by
  unfold leafSegment
  split
  · apply walks_pure
    intro one member
    exact member
  · apply walks_pure
    intro one member
    rw [Segment.kept, Expression.kept] at member
    exact member
  · split
    · apply walks_pure
      intro one member
      rw [Segment.kept, Expression.kept] at member
      exact absurd member List.not_mem_nil
    · apply (walks_verbatimSegment span).mono
      intro segment none one member
      rw [none] at member
      exact absurd member List.not_mem_nil

/-- A comparison keeps what both of its sides keep. -/
theorem walks_comparison (span operator : Span) (left right : Segment) :
    Walks source offset [] (comparison span operator left right) fun segment =>
      ∀ one ∈ segment.kept, one ∈ left.kept ++ right.kept := by
  unfold comparison
  split
  · apply (walks_report rfl).after
    intro _ _
    apply walks_pure
    intro one member
    exact List.mem_append_left _ member
  · split
    · apply walks_pure
      intro one member
      rw [Segment.kept, Predicate.kept, Comparand.kept] at member
      exact absurd member List.not_mem_nil
    · apply (quiet_textAt operator offset).after
      intro sign _
      apply (quiet_read offset).after
      intro source _
      apply walks_pure
      intro one member
      rw [Segment.kept, Predicate.kept, Comparand.kept] at member
      exact List.mem_append_right _ (Segment.kept_toExpression right source one member)

/-- A test keeps what its comparand keeps. -/
theorem walks_test {first : Nat} {span : Span} {operand : Segment} {negation : Option Span}
    {comparand : Text → Comparand} (keeps : ∀ source, Keeps first tokens (comparand source).kept) :
    Walks source offset [] (test span operand negation comparand) fun segment =>
      Keeps first tokens segment.kept := by
  unfold test
  split
  · apply (quiet_read offset).after
    intro source _
    apply walks_pure
    rw [Segment.kept, Predicate.kept]
    exact keeps source
  · apply (walks_keptPredicate span).mono
    intro segment none
    rw [none]
    exact Keeps.nil

theorem quiet_aggregateUse (node : Grammar.AggregationCall) : Quiet source (aggregateUse node) := by
  apply (quiet_textAt node.name).bind
  intro name
  split
  · apply (quiet_report rfl).bind
    intro _
    exact quiet_verbatimCall node.span
  · apply (quiet_mapM _ quiet_textAt).bind
    intro texts
    apply (quiet_report rfl).bind
    intro _
    exact quiet_pure

end Annotate

end AnnotatedSql
