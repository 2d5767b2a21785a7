/-
This file shows that the annotation of a node of the grammar is placed well among the tokens that
the node derives.
-/

import AnnotatedSql.Proofs.Annotate.Outcome
import AnnotatedSql.Proofs.Grammar.Stretch

namespace AnnotatedSql

open Grammar (cover)

variable {source : Text} {tokens others before middle after : List Token} {token : Token}

/-- Over tokens that stand in the source, the annotation gives a placed value with spans inside the
tokens. -/
def Places {Value : Type} (source : Text) (tokens : List Token) (annotator : Annotator Value)
    (placed : Value → Prop) (spans : Value → List Span) : Prop :=
  Laid source tokens → ∀ progress,
    annotator.Ensures source progress fun value _ => placed value ∧ Siblings tokens (spans value)

/-- The annotation gives a segment that is placed inside the tokens. -/
abbrev PlacesSegment (source : Text) (tokens : List Token) (annotator : Annotator Segment) : Prop :=
  Places source tokens annotator (Segment.Placed source) fun segment => [segment.span]

/-- The annotation gives a call that is placed inside the tokens. -/
abbrev PlacesCall (source : Text) (tokens : List Token) (annotator : Annotator Call) : Prop :=
  Places source tokens annotator (Call.Placed source) fun use => [use.span]

/-- The annotation gives an order item that is placed inside the tokens. -/
abbrev PlacesItem (source : Text) (tokens : List Token) (annotator : Annotator OrderItem) : Prop :=
  Places source tokens annotator (OrderItem.Placed source) fun item => [item.span]

/-- The annotation gives a statement that is placed inside the tokens. -/
abbrev PlacesStatement (source : Text) (tokens : List Token) (annotator : Annotator Statement) :
    Prop :=
  Places source tokens annotator (Statement.Placed source) fun statement => [statement.span]

/-- The annotation of a node of the grammar, over the tokens that the node derives. Parts whose
value is dropped are of no matter. -/
def Grammar.Node.Placing (source : Text) : Grammar.Node → List Token → Prop
  | .expr node, tokens => PlacesSegment source tokens (Annotate.expr node)
  | .primary node, tokens => PlacesSegment source tokens (Annotate.booleanPrimary node)
  | .predicate node, tokens => PlacesSegment source tokens (Annotate.predicate node)
  | .bitExpr node, tokens => PlacesSegment source tokens (Annotate.bitExpr node)
  | .simpleExpr node, tokens => PlacesSegment source tokens (Annotate.bitExpr (.simple node))
  | .exprs nodes, tokens =>
      Places source tokens (Annotate.exprs nodes) (Segment.AllPlaced source)
        (List.map Segment.span)
  | .aggregation node, tokens => PlacesCall source tokens (Annotate.aggregationCall node)
  | .special node, tokens => PlacesCall source tokens (Annotate.specialCall node)
  | .regular node, tokens => PlacesCall source tokens (Annotate.regularCall node)
  | .orderTarget column number inner, tokens => ∀ span ascending descending,
      PlacesItem source tokens
        (Annotate.orderItem ⟨span, column, number, inner, ascending, descending⟩)
  | .orderItem node, tokens => PlacesItem source tokens (Annotate.orderItem node)
  | .orderItems nodes, tokens =>
      Places source tokens (Annotate.orderItems nodes) (fun items => ∀ item ∈ items,
        item.Placed source) (List.map AnnotatedSql.OrderItem.span)
  | .ordering _ clause, tokens =>
      Places source tokens (Annotate.orderClause? clause) (fun list => ∀ clause ∈ list,
        clause.Placed source) fun list => (list.map OrderList.span).toList
  | .condition _ clause, tokens =>
      Places source tokens (Annotate.conditionClause? clause) (Condition.PlacedIn source)
        fun condition => (condition.map Condition.span).toList
  | .selectItem node, tokens =>
      Places source tokens (Annotate.selectItem node) (SelectItem.Placed source)
        fun item => [item.span]
  | .selectItems nodes, tokens =>
      Places source tokens (Annotate.selectItems nodes) (SelectItem.AllPlaced source)
        (List.map AnnotatedSql.SelectItem.span)
  | .select node, tokens => PlacesStatement source tokens (Annotate.select node)
  | .subquery node, tokens => PlacesStatement source tokens (Annotate.subquery node)
  | _, _ => True

section
variable {Value Result : Type} {annotator : Annotator Value} {next : Value → Annotator Result}
  {placed : Value → Prop} {spans : Value → List Span} {progress : Progress}
  {holds : Result → Progress → Prop}

/-- The later steps may use that the value is placed. -/
theorem Places.bind (places : Places source tokens annotator placed spans)
    (laid : Laid source tokens)
    (rest : ∀ value after, placed value → Siblings tokens (spans value) →
      (next value).Ensures source after holds) :
    (annotator >>= next).Ensures source progress holds := by
  rw [Annotator.ensures_bind]
  exact (places laid progress).mono fun value after found => rest value after found.1 found.2

/-- The placed value may be looked at from a larger stretch. -/
theorem Places.mono {more : List Token} (places : Places source tokens annotator placed spans)
    (fewer : tokens.Sublist more) : Places source more annotator placed spans :=
  fun laid progress => (places (laid.fewer fewer) progress).mono fun _ _ found =>
    ⟨found.1, found.2.mono fun _ member => fewer.subset member⟩

end

/-! ### Tokens as spans -/

theorem Token.Stands.fits (stands : token.Stands source) : token.span.Fits source := by
  refine ⟨stands.extent, ?_⟩
  rw [stands.text?]
  rfl

/-- Under the span of a symbol with a single spelling stands that spelling. -/
theorem Token.Stands.spells_symbol {sign : Symbol} (stands : token.Stands source)
    (kind : token.kind = .symbol sign) (spelling : String)
    (only : ∀ entry ∈ Symbol.spellings, entry.2 = sign → entry.1 = spelling) :
    token.span.Spells source spelling.toList := by
  have spells := stands.spells
  rw [kind] at spells
  refine ⟨stands.fits, ?_⟩
  rw [stands.text?, spells.symbol spelling only]

theorem Token.Stands.opening (stands : token.Stands source)
    (kind : token.kind = .symbol .leftParen) : token.span.Spells source ['('] :=
  stands.spells_symbol kind "(" (by decide)

theorem Token.Stands.closing (stands : token.Stands source)
    (kind : token.kind = .symbol .rightParen) : token.span.Spells source [')'] :=
  stands.spells_symbol kind ")" (by decide)

/-- From its second token on a stretch stops where it stops as a whole. -/
theorem Laid.cover_tail (laid : Laid source (token :: tokens)) (nonempty : tokens ≠ []) :
    cover tokens = ⟨(tokens.head nonempty).span.start, (cover (token :: tokens)).stop⟩ := by
  rw [laid.tail.cover_eq nonempty, laid.cover_eq (List.cons_ne_nil _ _),
    List.getLast_cons nonempty]

/-! ### Names -/

theorem Grammar.QualifiedName.Derives.owner_placed {name : Grammar.QualifiedName}
    (derived : name.Derives tokens) (laid : Laid source tokens) :
    ∀ owner ∈ name.owner, owner.span.Fits source ∧ owner.span.Within name.span := by
  cases derived with
  | plain => nofun
  | @owned first =>
      intro owner member
      obtain rfl := Option.some.inj member
      exact ⟨(laid.stands first List.mem_cons_self).fits,
        laid.within (inside_of_mem List.mem_cons_self)⟩

/-- A span that lies inside another one adds nothing to it. -/
theorem Span.Within.join_eq {inner outer : Span} (within : inner.Within outer) :
    inner.join outer = outer := by
  obtain ⟨starts, stops⟩ := within
  rw [Span.join, Nat.min_eq_right starts, Nat.max_eq_right stops]

namespace Annotate

theorem placedName_spans? (node : Option Grammar.Label) (progress : Progress) :
    (placedName? node).Ensures source progress fun owner _ =>
      ∀ placed ∈ owner, ∃ label ∈ node, placed.span = label.span := by
  cases node with
  | none =>
      rw [placedName?, Annotator.ensures_pure]
      exact fun placed member => absurd member (Option.not_mem_none placed)
  | some label =>
      simp only [placedName?, placedName, Annotate.name, Annotator.ensures_bind,
        Annotator.ensures_textAt, Annotator.ensures_pure]
      intro placed member
      obtain rfl := Option.some.inj member
      exact ⟨label, rfl, rfl⟩

theorem column_spans (node : Grammar.QualifiedName) (progress : Progress) :
    (column node).Ensures source progress fun column _ => column.span = node.span ∧
      ∀ owner ∈ column.owner, ∃ label ∈ node.owner, owner.span = label.span := by
  rw [column]
  apply Annotator.ensures_drop
  intro name middle
  rw [Annotator.ensures_bind]
  refine (placedName_spans? node.owner middle).mono fun owner after spans => ?_
  rw [Annotator.ensures_pure]
  exact ⟨rfl, spans⟩

theorem table_spans (node : Grammar.QualifiedName) (progress : Progress) :
    (table node).Ensures source progress fun table _ => table.name.span = node.span ∧
      ∀ owner ∈ table.owner, ∃ label ∈ node.owner, owner.span = label.span := by
  rw [table]
  apply Annotator.ensures_drop
  intro name middle
  rw [Annotator.ensures_bind]
  refine (placedName_spans? node.owner middle).mono fun owner after spans => ?_
  rw [Annotator.ensures_pure]
  exact ⟨rfl, spans⟩

theorem column_places {name : Grammar.QualifiedName} (derived : name.Derives tokens) :
    Places source tokens (column name) (Column.Placed source) fun column => [column.span] := by
  intro laid progress
  refine (column_spans name progress).mono ?_
  rintro column _ ⟨span, owner⟩
  have covers := span.trans (derived.span_eq laid)
  refine ⟨⟨?_, ?_⟩, ?_⟩
  · rw [covers]
    exact laid.cover_fits derived.nonempty
  · intro placed member
    obtain ⟨label, isOwner, same⟩ := owner placed member
    rw [PlacedName.Placed, same, span]
    exact derived.owner_placed laid label isOwner
  · apply Siblings.single
    rw [covers]
    exact laid.inside_cover derived.nonempty

theorem table_places {name : Grammar.QualifiedName} (derived : name.Derives tokens) :
    Places source tokens (table name) (Table.Placed source) fun table => [table.span] := by
  intro laid progress
  refine (table_spans name progress).mono ?_
  rintro table _ ⟨span, owner⟩
  have fits := laid.cover_fits derived.nonempty
  have covers := derived.span_eq laid
  have owners : ∀ placed ∈ table.owner, placed.Placed source ∧
      placed.span.Within table.name.span := by
    intro placed member
    obtain ⟨label, isOwner, same⟩ := owner placed member
    rw [PlacedName.Placed, same, span]
    exact derived.owner_placed laid label isOwner
  have whole : table.span = table.name.span := by
    rw [Table.span]
    split
    next placed found => exact (owners placed found).2.join_eq
    next => rfl
  have inside : Inside tokens table.span := by
    rw [whole, span, covers]
    exact laid.inside_cover derived.nonempty
  rw [Table.Placed, PlacedName.Placed, whole, span, covers]
  rw [span, covers] at owners
  exact ⟨⟨fits, fits, ⟨Nat.le_refl _, Nat.le_refl _⟩, owners⟩, .single inside⟩

theorem mapM_table_places {names : List Grammar.QualifiedName}
    (list : Grammar.CommaList Grammar.QualifiedName.Derives names tokens) :
    Places source tokens (names.mapM table) (fun tables => ∀ table ∈ tables, table.Placed source)
      (List.map Table.span) := by
  induction list with
  | single first =>
      intro laid progress
      rw [List.mapM_cons, List.mapM_nil]
      refine (table_places first).bind laid ?_
      intro table _ placed siblings
      rw [pure_bind, Annotator.ensures_pure]
      refine ⟨?_, siblings⟩
      intro one member
      rw [List.mem_singleton.mp member]
      exact placed
  | cons first comma _ ih =>
      intro laid progress
      rw [List.mapM_cons]
      refine (table_places first).bind laid.left ?_
      intro table middle placed siblings
      refine ih.bind laid.right.tail ?_
      intro tables _ allPlaced others
      rw [Annotator.ensures_pure]
      refine ⟨?_, laid.siblings siblings others.cons⟩
      intro one member
      rcases List.mem_cons.mp member with rfl | member
      · exact placed
      · exact allPlaced one member

theorem tables_places {node : Option Grammar.NameList} (derived : Grammar.Tables node tokens) :
    Places source tokens (tables? node) (fun tables => ∀ table ∈ tables, table.Placed source)
      (List.map Table.span) := by
  cases derived with
  | absent =>
      intro laid progress
      rw [tables?, Annotator.ensures_pure]
      exact ⟨fun _ member => absurd member List.not_mem_nil, .nil⟩
  | present word list => exact (mapM_table_places list).mono (List.sublist_cons_self _ _)

/-! ### Segments -/

theorem verbatimSegment_places (nonempty : tokens ≠ []) :
    PlacesSegment source tokens (verbatimSegment (cover tokens)) := by
  intro laid progress
  rw [Annotator.ensures_verbatimSegment, Segment.Placed, Expression.Placed]
  exact ⟨(laid.cover_fits nonempty).spells, .single (laid.inside_cover nonempty)⟩

theorem verbatimCall_places (nonempty : tokens ≠ []) :
    PlacesCall source tokens (verbatimCall (cover tokens)) := by
  intro laid progress
  rw [Annotator.ensures_verbatimCall]
  exact ⟨(laid.cover_fits nonempty).spells, .single (laid.inside_cover nonempty)⟩

theorem keptPredicate_places (nonempty : tokens ≠ []) :
    PlacesSegment source tokens (keptPredicate (cover tokens)) := by
  intro laid progress
  rw [Annotator.ensures_keptPredicate, Segment.Placed, Expression.Placed]
  exact ⟨(laid.cover_fits nonempty).spells, .single (laid.inside_cover nonempty)⟩

/-- The parts of a chain are placed wherever the chain is. -/
theorem chainParts_placed {segment : Segment} (connective : Connective)
    (placed : segment.Placed source) (siblings : Siblings tokens [segment.span]) :
    Segment.AllPlaced source (segment.chainParts connective) ∧
      Siblings tokens ((segment.chainParts connective).map Segment.span) := by
  have alone : Segment.AllPlaced source [segment] := by
    rw [Segment.AllPlaced, Segment.AllPlaced]
    exact ⟨placed, trivial⟩
  unfold Segment.chainParts
  split
  next span inner parts =>
    split
    · rw [Segment.Placed] at placed
      obtain ⟨_, ⟨within, ordered⟩, each⟩ := placed
      exact ⟨each, fun part member => siblings.inside.within (within part member), ordered⟩
    · exact ⟨alone, siblings⟩
  · exact ⟨alone, siblings⟩

theorem logical_places {left right : Grammar.Expr} {operator : Token} {sign : Span}
    (first : PlacesSegment source before (expr left))
    (second : PlacesSegment source after (expr right)) :
    PlacesSegment source (before ++ operator :: after)
      (expr (.logical (cover (before ++ operator :: after)) left sign right)) := by
  intro laid progress
  have nonempty : before ++ operator :: after ≠ [] := by simp
  rw [expr]
  refine first.bind laid.left ?_
  intro left _ placedLeft siblingsLeft
  refine second.bind laid.right.tail ?_
  intro right _ placedRight siblingsRight
  rw [Annotator.ensures_bind, Annotator.ensures_textAt]
  split
  next connective _ =>
    obtain ⟨placedParts, siblingsParts⟩ := chainParts_placed connective placedLeft siblingsLeft
    rw [Annotator.ensures_pure, Segment.join, Segment.Placed, List.map_append]
    refine ⟨⟨laid.cover_fits nonempty, ?_, ?_⟩, .single (laid.inside_cover nonempty)⟩
    · exact laid.holds (laid.siblings siblingsParts siblingsRight.cons)
    · apply Segment.allPlaced_append placedParts
      rw [Segment.AllPlaced, Segment.AllPlaced]
      exact ⟨placedRight, trivial⟩
  next => exact Annotator.ensures_throw

theorem xor_places {left right : Grammar.Expr} {span : Span}
    (first : PlacesSegment source before (expr left)) :
    PlacesSegment source (before ++ after) (expr (.xor span left right)) := by
  intro laid progress
  rw [expr]
  refine first.bind laid.left ?_
  intro left _ placed siblings
  apply Annotator.ensures_drop
  intro _ _
  rw [Annotator.ensures_bind, Annotator.ensures_report, Annotator.ensures_pure]
  exact ⟨placed, siblings.left⟩

theorem isTest_places {operand : Grammar.BooleanPrimary} {negation : Option Span} {value : Span}
    (nonempty : tokens ≠ []) :
    PlacesSegment source tokens
      (booleanPrimary (.isTest (cover tokens) operand negation value)) := by
  intro laid progress
  rw [booleanPrimary]
  apply Annotator.ensures_drop
  intro _ _
  rw [Annotator.ensures_bind, Annotator.ensures_report]
  exact verbatimSegment_places nonempty laid _

theorem column_of_column? {segment : Segment} {column : Column}
    (found : segment.column? = some column) : segment = .expression (.column column) := by
  unfold Segment.column? at found
  split at found
  · rw [Option.some.inj found]
  · cases found

/-- A predicate is placed if its column and what it is compared with lie one after the other. -/
theorem predicate_placed {column : Column} {comparand : Comparand}
    (laid : Laid source (before ++ after)) (nonempty : before ++ after ≠ [])
    (placed : (Segment.expression (.column column)).Placed source)
    (siblings : Siblings before [column.span]) (compared : comparand.Placed source)
    (others : Siblings after comparand.spans) :
    (Segment.predicate ⟨cover (before ++ after), column, comparand⟩).Placed source ∧
      Siblings (before ++ after) [cover (before ++ after)] := by
  rw [Segment.Placed, Expression.Placed] at placed
  rw [Segment.Placed, Predicate.Placed]
  exact ⟨⟨laid.cover_fits nonempty, placed, compared, laid.holds (laid.siblings siblings others)⟩,
    .single (laid.inside_cover nonempty)⟩

theorem comparison_places {left : Grammar.BooleanPrimary} {right : Grammar.Predicate}
    {operator : Token} {sign : Span}
    (first : PlacesSegment source before (booleanPrimary left))
    (second : PlacesSegment source after (predicate right)) :
    PlacesSegment source (before ++ operator :: after)
      (booleanPrimary (.comparison (cover (before ++ operator :: after)) left sign right)) := by
  intro laid progress
  have nonempty : before ++ operator :: after ≠ [] := by simp
  rw [booleanPrimary]
  refine first.bind laid.left ?_
  intro left _ placedLeft siblingsLeft
  refine second.bind laid.right.tail ?_
  intro right _ placedRight siblingsRight
  unfold comparison
  split
  · rw [Annotator.ensures_bind, Annotator.ensures_report, Annotator.ensures_pure]
    exact ⟨placedLeft, siblingsLeft.left⟩
  next column found =>
    obtain rfl := column_of_column? found
    split
    next other foundOther =>
      obtain rfl := column_of_column? foundOther
      rw [Annotator.ensures_pure]
      apply predicate_placed laid nonempty placedLeft siblingsLeft _ siblingsRight.cons
      rw [Segment.Placed, Expression.Placed] at placedRight
      rw [Comparand.Placed]
      exact placedRight
    next =>
      rw [Annotator.ensures_bind, Annotator.ensures_textAt, Annotator.ensures_bind,
        Annotator.ensures_read, Annotator.ensures_pure]
      obtain ⟨placedValue, span⟩ := placedRight.toExpression
      apply predicate_placed laid nonempty placedLeft siblingsLeft
      · rw [Comparand.Placed]
        exact placedValue
      · rw [Comparand.spans, span]
        exact siblingsRight.cons

/-- A test is placed if its operand and what it is tested with lie one after the other. -/
theorem test_places {operand : Segment} {negation : Option Span} {comparand : Text → Comparand}
    {progress : Progress} (laid : Laid source (before ++ after)) (nonempty : before ++ after ≠ [])
    (placed : operand.Placed source) (siblings : Siblings before [operand.span])
    (compared : (comparand source).Placed source)
    (others : Siblings after (comparand source).spans) :
    (test (cover (before ++ after)) operand negation comparand).Ensures source progress
      fun segment _ => segment.Placed source ∧ Siblings (before ++ after) [segment.span] := by
  unfold test
  split
  next column found =>
    obtain rfl := column_of_column? found
    rw [Annotator.ensures_bind, Annotator.ensures_read, Annotator.ensures_pure]
    exact predicate_placed laid nonempty placed siblings compared others
  · exact keptPredicate_places nonempty laid _

/-! ### Predicates -/

section
variable {operand : Grammar.BitExpr} {negation : Option Span}

/-- A list of candidates between parentheses is placed with them. -/
theorem among_placed {opening closing : Token} {candidates : List Expression}
    (laid : Laid source (opening :: (tokens ++ [closing])))
    (opens : opening.kind = .symbol .leftParen) (closes : closing.kind = .symbol .rightParen)
    (placed : Expression.AllPlaced source candidates)
    (siblings : Siblings (opening :: (tokens ++ [closing])) (candidates.map Expression.span)) :
    (Comparand.among opening.span closing.span candidates).Placed source ∧
      Siblings (opening :: (tokens ++ [closing]))
        (Comparand.among opening.span closing.span candidates).spans := by
  have nonempty : opening :: (tokens ++ [closing]) ≠ [] := List.cons_ne_nil _ _
  have region : Span.mk opening.span.start closing.span.stop =
      cover (opening :: (tokens ++ [closing])) := by
    rw [laid.cover_eq nonempty]
    simp
  rw [Comparand.Placed, Comparand.spans, region]
  refine ⟨⟨?_, ?_, laid.cover_fits nonempty, laid.holds siblings, placed⟩,
    .single (laid.inside_cover nonempty)⟩
  · exact (laid.stands opening List.mem_cons_self).opening opens
  · exact (laid.stands closing (by simp)).closing closes

theorem inSubquery_places {query : Grammar.Subquery} {word : Token} {flag : List Token}
    (first : PlacesSegment source before (bitExpr operand))
    (second : PlacesStatement source after (subquery query))
    (derived : Grammar.DerivesWidely (.subquery query) after) :
    PlacesSegment source (before ++ flag ++ word :: after)
      (predicate (.inSubquery (cover (before ++ flag ++ word :: after)) operand negation
        query)) := by
  rw [List.append_assoc]
  intro laid progress
  rw [predicate]
  refine first.bind laid.left ?_
  intro operand _ placed siblings
  have queryLaid := laid.right.right.tail
  refine second.bind queryLaid ?_
  intro statement _ placedStatement siblingsStatement
  have span := derived.span_eq queryLaid rfl
  have inside := queryLaid.inside_cover (derived.nonempty rfl)
  have fits := queryLaid.cover_fits (derived.nonempty rfl)
  rw [← span] at inside fits
  have candidate : Expression.AllPlaced source [.subquery query.span statement] := by
    rw [Expression.AllPlaced, Expression.AllPlaced, Expression.Placed]
    refine ⟨⟨fits, ?_, placedStatement⟩, trivial⟩
    rw [span]
    exact queryLaid.within siblingsStatement.inside
  cases derived with
  | subquery opens _ closes =>
      obtain ⟨compared, others⟩ := among_placed queryLaid opens closes candidate (.single inside)
      exact test_places laid (by simp) placed siblings compared others.cons.right

theorem inList_places {items : List Grammar.Expr} {word opening closing : Token}
    {flag : List Token} (first : PlacesSegment source before (bitExpr operand))
    (opens : opening.kind = .symbol .leftParen)
    (second : Places source after (exprs items) (Segment.AllPlaced source) (List.map Segment.span))
    (closes : closing.kind = .symbol .rightParen) :
    PlacesSegment source (before ++ flag ++ word :: opening :: after ++ [closing])
      (predicate (.inList (cover (before ++ flag ++ word :: opening :: after ++ [closing])) operand
        negation opening.span items closing.span)) := by
  rw [List.append_assoc, List.append_assoc, List.cons_append, List.cons_append]
  intro laid progress
  rw [predicate]
  refine first.bind laid.left ?_
  intro operand _ placed siblings
  have listLaid := laid.right.right.tail
  refine second.bind listLaid.tail.left ?_
  intro candidates _ placedEach siblingsEach
  obtain ⟨placedAll, spans⟩ := Expression.allPlaced_toExpression placedEach
  have inside : Siblings (opening :: (after ++ [closing]))
      ((candidates.map fun segment => segment.toExpression source).map Expression.span) := by
    rw [spans]
    exact siblingsEach.left.cons
  obtain ⟨compared, others⟩ := among_placed listLaid opens closes placedAll inside
  exact test_places laid (by simp) placed siblings compared others.cons.right

theorem between_places {lower : Grammar.BitExpr} {upper : Grammar.Predicate}
    {word operator : Token} {flag : List Token}
    (first : PlacesSegment source before (bitExpr operand))
    (second : PlacesSegment source middle (bitExpr lower))
    (third : PlacesSegment source after (predicate upper)) :
    PlacesSegment source (before ++ flag ++ word :: middle ++ operator :: after)
      (predicate (.between (cover (before ++ flag ++ word :: middle ++ operator :: after)) operand
        negation lower upper)) := by
  rw [List.append_assoc, List.append_assoc, List.cons_append]
  intro laid progress
  rw [predicate]
  refine first.bind laid.left ?_
  intro operand _ placed siblings
  have boundsLaid := laid.right.right.tail
  refine second.bind boundsLaid.left ?_
  intro lower _ placedLower siblingsLower
  refine third.bind boundsLaid.right.tail ?_
  intro upper _ placedUpper siblingsUpper
  obtain ⟨lowerPlaced, lowerSpan⟩ := placedLower.toExpression
  obtain ⟨upperPlaced, upperSpan⟩ := placedUpper.toExpression
  apply test_places laid (by simp) placed siblings
  · rw [Comparand.Placed]
    exact ⟨lowerPlaced, upperPlaced⟩
  · rw [Comparand.spans, lowerSpan, upperSpan]
    exact (boundsLaid.siblings siblingsLower siblingsUpper.cons).cons.right

theorem like_places {pattern : Grammar.SimpleExpr} {escape : Option Grammar.SimpleExpr}
    (nonempty : tokens ≠ []) :
    PlacesSegment source tokens
      (predicate (.like (cover tokens) operand negation pattern escape)) := by
  intro laid progress
  rw [predicate]
  apply Annotator.ensures_drop
  intro _ _
  apply Annotator.ensures_drop
  intro _ _
  apply Annotator.ensures_drop
  intro _ _
  exact keptPredicate_places nonempty laid _

end

theorem quantified_places {left : Grammar.BooleanPrimary} {query : Grammar.Subquery}
    {operator quantifier : Token} {sign word : Span}
    (second : PlacesStatement source after (subquery query)) :
    PlacesSegment source (before ++ operator :: quantifier :: after)
      (booleanPrimary (.quantified (cover (before ++ operator :: quantifier :: after)) left sign
        word query)) := by
  intro laid progress
  have nonempty : before ++ operator :: quantifier :: after ≠ [] := by simp
  rw [booleanPrimary]
  apply Annotator.ensures_drop
  intro _ _
  refine second.bind laid.right.tail.tail ?_
  intro statement _ placed siblings
  rw [Annotator.ensures_pure, Segment.Placed, Expression.Placed]
  exact ⟨⟨laid.cover_fits nonempty, laid.within siblings.cons.cons.right.inside, placed⟩,
    .single (laid.inside_cover nonempty)⟩

/-! ### Simple expressions -/

theorem binary_places {left right : Grammar.BitExpr} {sign : Span} (nonempty : tokens ≠ []) :
    PlacesSegment source tokens (bitExpr (.binary (cover tokens) left sign right)) := by
  intro laid progress
  rw [bitExpr]
  apply Annotator.ensures_drop
  intro _ _
  apply Annotator.ensures_drop
  intro _ _
  exact verbatimSegment_places nonempty laid _

/-- A value of its own is placed at the span of its leaf. -/
theorem leafSegment_places {value : Value} (nonempty : tokens ≠ []) :
    PlacesSegment source tokens (leafSegment (cover tokens) (.value value)) := by
  intro laid progress
  have fits := laid.cover_fits nonempty
  have siblings : Siblings tokens [cover tokens] := .single (laid.inside_cover nonempty)
  unfold leafSegment
  split
  next found => cases found
  · rw [Annotator.ensures_pure, Segment.Placed, Expression.Placed]
    exact ⟨fits, siblings⟩
  · split
    · rw [Annotator.ensures_pure, Segment.Placed, Expression.Placed]
      exact ⟨fits, siblings⟩
    · exact verbatimSegment_places nonempty laid _

theorem markerLeaf_places {operator : Token} :
    PlacesSegment source [operator] (bitExpr (.simple (.marker operator.span))) := by
  intro laid progress
  rw [bitExpr, simpleExpr, bind_assoc]
  apply Annotator.ensures_drop
  intro index _
  rw [pure_bind, Grammar.SimpleExpr.span, ← laid.cover_single]
  exact leafSegment_places (List.cons_ne_nil _ _) laid _

theorem literalLeaf_places {literal : Grammar.Literal} (derived : literal.Derives tokens) :
    PlacesSegment source tokens (bitExpr (.simple (.literal literal))) := by
  intro laid progress
  rw [bitExpr, simpleExpr, bind_assoc]
  apply Annotator.ensures_drop
  intro value _
  rw [pure_bind, Grammar.SimpleExpr.span, derived.span_eq laid]
  exact leafSegment_places derived.nonempty laid _

theorem subqueryLeaf_places {query : Grammar.Subquery} {span : Span} {existsWord : Option Span}
    (statement : PlacesStatement source tokens (subquery query)) (nonempty : tokens ≠ [])
    (covers : Laid source tokens → span = cover tokens) :
    PlacesSegment source tokens (bitExpr (.simple (.subquery span existsWord query))) := by
  intro laid progress
  rw [bitExpr, simpleExpr, bind_assoc]
  refine statement.bind laid ?_
  intro statement _ placed siblings
  rw [pure_bind, leafSegment, Annotator.ensures_pure, Segment.Placed, Expression.Placed,
    covers laid]
  exact ⟨⟨laid.cover_fits nonempty, laid.within siblings.inside, placed⟩,
    .single (laid.inside_cover nonempty)⟩

theorem callLeaf_places {call : Grammar.FunctionCall}
    (places : PlacesCall source tokens (functionCall call)) :
    PlacesSegment source tokens (bitExpr (.simple (.call call))) := by
  intro laid progress
  rw [bitExpr, simpleExpr, bind_assoc]
  refine places.bind laid ?_
  intro use _ placed siblings
  rw [pure_bind, leafSegment, Annotator.ensures_pure, Segment.Placed, Expression.Placed]
  exact ⟨placed, siblings⟩

theorem columnLeaf_places {name : Grammar.QualifiedName} (derived : name.Derives tokens) :
    PlacesSegment source tokens (bitExpr (.simple (.column name))) := by
  intro laid progress
  rw [bitExpr, simpleExpr, bind_assoc]
  refine (column_places derived).bind laid ?_
  intro column _ placed siblings
  rw [pure_bind, leafSegment, Annotator.ensures_pure, Segment.Placed, Expression.Placed]
  exact ⟨placed, siblings⟩

/-- A leaf that is kept as text. -/
theorem verbatimLeaf_places {operand : Grammar.SimpleExpr} (visit : Annotator Unit)
    (nonempty : tokens ≠ []) (covers : operand.span = cover tokens)
    (kept : simpleExpr operand = visit >>= fun _ => do
      return .segment (← verbatimSegment operand.span)) :
    PlacesSegment source tokens (bitExpr (.simple operand)) := by
  intro laid progress
  rw [bitExpr, kept, covers, bind_assoc]
  apply Annotator.ensures_drop
  intro _ _
  rw [bind_assoc]
  refine (verbatimSegment_places nonempty).bind laid ?_
  intro segment _ placed siblings
  rw [pure_bind, leafSegment, Annotator.ensures_pure]
  exact ⟨placed, siblings⟩

theorem unary_places {operand : Grammar.SimpleExpr} {sign : Span} (nonempty : tokens ≠ []) :
    PlacesSegment source tokens (bitExpr (.simple (.unary (cover tokens) sign operand))) := by
  apply verbatimLeaf_places (do let _ ← simpleExpr operand) nonempty rfl
  simp [simpleExpr, Grammar.SimpleExpr.span]

theorem row_places {items : List Grammar.Expr} (nonempty : tokens ≠ []) :
    PlacesSegment source tokens (bitExpr (.simple (.row (cover tokens) items))) := by
  apply verbatimLeaf_places (do let _ ← exprs items) nonempty rfl
  simp [simpleExpr, Grammar.SimpleExpr.span]

theorem caseOf_places {operand : Option Grammar.SimpleExpr} {branches : List Grammar.CaseBranch}
    {otherwise : Option Grammar.Expr} (nonempty : tokens ≠ []) :
    PlacesSegment source tokens
      (bitExpr (.simple (.caseOf (cover tokens) operand branches otherwise))) := by
  apply verbatimLeaf_places
    (do simpleExpr? operand; caseBranches branches; expr? otherwise) nonempty rfl
  simp [simpleExpr, Grammar.SimpleExpr.span]

end Annotate

end AnnotatedSql
