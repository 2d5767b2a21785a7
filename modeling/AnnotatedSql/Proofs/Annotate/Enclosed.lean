/-
This file shows that parentheses around the condition of a text change nothing in its statement but
the offsets.
-/

import AnnotatedSql.Proofs.Annotate.Excerpt
import AnnotatedSql.Proofs.Grammar.Locality.Condition

namespace AnnotatedSql

open Grammar (Filter Head Tail Expr ConditionClause Surrounded cover)

/-! ### Parts of a text that move -/

/-- Of two starts of a text, the one with fewer bytes starts the other one. -/
theorem Text.prefix_of_byteLength_le {first second rest others : Text}
    (same : first ++ rest = second ++ others) (least : first.byteLength ≤ second.byteLength) :
    ∃ more, second = first ++ more ∧ rest = more ++ others := by
  rcases List.append_eq_append_iff.mp same with ⟨more, rfl, behind⟩ | ⟨excess, rfl, behind⟩
  · exact ⟨more, rfl, behind⟩
  · rw [Text.byteLength_append] at least
    obtain rfl : excess = [] := by
      by_contra nonempty
      have positive := Text.byteLength_pos nonempty
      omega
    exact ⟨[], by rw [List.append_nil, List.append_nil], behind.symm⟩

theorem Text.byteLength_replicate {character : Char} (width : character.utf8Size = 1)
    (count : Nat) : Text.byteLength (List.replicate count character) = count := by
  induction count with
  | zero => rfl
  | succ count ih => rw [List.replicate_succ, Text.byteLength_cons, ih, width, Nat.add_comm]

/-- A span over a part of a text fits this part by itself. -/
theorem Span.Fits.within {span : Span} {front text behind : Text}
    (fits : span.Fits (front ++ text ++ behind)) (start : front.byteLength ≤ span.start)
    (stop : span.stop < front.byteLength + text.byteLength) :
    ∃ own : Span, own.Fits text ∧ span = own.relocate (· + front.byteLength) := by
  obtain ⟨before, middle, after, whole, nonempty, rfl⟩ := fits.parts
  have start : front.byteLength ≤ before.byteLength := start
  rw [List.append_assoc, List.append_assoc] at whole
  obtain ⟨lead, rfl, inner⟩ := Text.prefix_of_byteLength_le whole.symm.symm start
  have stop : (front ++ lead).byteLength + middle.byteLength - 1 <
      front.byteLength + text.byteLength := stop
  rw [Text.byteLength_append] at stop
  rw [← List.append_assoc] at inner
  obtain ⟨trail, rfl, _⟩ := Text.prefix_of_byteLength_le inner.symm (by
    rw [Text.byteLength_append]
    omega)
  refine ⟨Span.ofRange lead.byteLength (lead.byteLength + middle.byteLength), ⟨?_, ?_⟩, ?_⟩
  · change lead.byteLength ≤ _ - 1
    omega
  · rw [Span.text_of_parts _ _ _ nonempty]
    rfl
  · simp only [Span.relocate, Span.ofRange, Text.byteLength_append, Span.mk.injEq]
    omega

theorem Span.Fits.stop_lt {span : Span} {text : Text} (fits : span.Fits text) :
    span.stop < text.byteLength := by
  obtain ⟨before, middle, after, rfl, nonempty, rfl⟩ := fits.parts
  change _ - 1 < _
  rw [Text.byteLength_append, Text.byteLength_append]
  omega

/-- A part of a text that comes to stand in another one takes the texts of its spans along. -/
theorem Change.shows_part {change : Change} {source target front text behind other further : Text}
    {span : Span} (plain : change.recasing = Recasing.none) (whole : source = front ++ text ++ behind)
    (moved : target = other ++ text ++ further)
    (moves : ∀ offset < text.byteLength,
      change.move (offset + front.byteLength) = offset + other.byteLength)
    (fits : span.Fits source) (start : front.byteLength ≤ span.start)
    (stop : span.stop < front.byteLength + text.byteLength) : change.Shows target source span := by
  subst whole moved
  obtain ⟨own, ownFits, rfl⟩ := fits.within start stop
  have inside : own.stop < text.byteLength := Nat.lt_of_add_lt_add_right
    (show own.stop + front.byteLength < text.byteLength + front.byteLength by
      rw [Nat.add_comm text.byteLength]
      exact stop)
  have place : (own.relocate (· + front.byteLength)).relocate change.move =
      own.relocate (· + other.byteLength) := by
    rw [Span.relocate, Span.relocate, moves _ (Nat.lt_of_le_of_lt ownFits.1 inside),
      moves _ inside, Span.relocate]
  rw [Change.Shows, place, Span.text_excerpt other further ownFits,
    Span.text_excerpt front behind ownFits, plain]
  exact (List.map_id _).symm

/-! ### The spans of the pieces -/

/-- As many parentheses come on either side of the span. -/
def Change.room (inside : Span) (count : Nat) : Change := ⟨inside.makeRoom count, 0, Recasing.none⟩

/-- The parts around a condition and inside it are shown, and so is the SELECT that they make up. -/
theorem Grammar.Filter.shown_assemble {filter : Filter} {head : Head} {tail : Tail} {node : Expr}
    {span other : Span} {change : Change} {whole part : Text}
    (inFront : AllShown change whole part (filter.alone other head).parts)
    (inside : AllShown change whole part node.parts) (after : AllShown change whole part tail.parts)
    (shows : change.Shows whole part span) :
    AllShown change whole part (filter.assemble span head (some ⟨span, node⟩) tail).parts := by
  obtain ⟨_, ⟨_, _⟩, _, _, _⟩ := head
  cases filter <;>
    simp_all [Filter.alone, Filter.assemble, Grammar.Select.parts, Tail.parts,
      ConditionClause.partsIn, Grammar.OrderClause.partsIn]

namespace Grammar.Surrounded

variable {filter : Filter} {source : Text} (surrounded : Surrounded filter source)

theorem shows_front (count : Nat) {span : Span} (marks : Marks surrounded.around.front span) :
    (Change.room surrounded.span count).Shows (surrounded.under.enclosed count) source span := by
  obtain ⟨fits, _, last, isLast, stop⟩ := marks.fits surrounded.around.laid.left.left
  have before := surrounded.under.stop_before last (List.mem_append_left _ isLast)
  have whole : source = [] ++ surrounded.under.front ++
      (surrounded.under.text ++ surrounded.under.behind) :=
    surrounded.under.parts.trans (List.append_assoc ..)
  have moved : surrounded.under.enclosed count = [] ++ surrounded.under.front ++
      (List.replicate count '(' ++ surrounded.under.text ++ List.replicate count ')' ++
        surrounded.under.behind) := by
    simp only [TextUnder.enclosed, List.append_assoc, List.nil_append]
  refine Change.shows_part rfl whole moved ?_ fits (Nat.zero_le _) ?_
  · exact fun offset inFront => Span.makeRoom_before inFront
  · rw [Text.byteLength_nil]
    omega

theorem shows_inside (count : Nat) {span : Span} (marks : Marks surrounded.around.inside span) :
    (Change.room surrounded.span count).Shows (surrounded.under.enclosed count) source span := by
  obtain ⟨fits, ⟨first, isFirst, start⟩, last, isLast, stop⟩ :=
    marks.fits surrounded.around.laid.right.left
  have behind := surrounded.under.within first isFirst
  have before := surrounded.under.within last isLast
  have moved : surrounded.under.enclosed count =
      surrounded.under.front ++ List.replicate count '(' ++ surrounded.under.text ++
        (List.replicate count ')' ++ surrounded.under.behind) := by
    rw [TextUnder.enclosed, List.append_assoc _ (List.replicate count ')')]
  refine Change.shows_part rfl surrounded.under.parts moved ?_ fits (by omega) (by omega)
  intro offset inside
  rw [Text.byteLength_append, Text.byteLength_replicate rfl]
  exact surrounded.move_inside count inside

theorem shows_clauses (count : Nat) {span : Span} (marks : Marks surrounded.around.clauses span) :
    (Change.room surrounded.span count).Shows (surrounded.under.enclosed count) source span := by
  obtain ⟨fits, ⟨first, isFirst, start⟩, _⟩ := marks.fits surrounded.around.laid.right.right.left
  have moved : surrounded.under.enclosed count = surrounded.under.front ++
      List.replicate count '(' ++ surrounded.under.text ++ List.replicate count ')' ++
        surrounded.under.behind ++ [] := (List.append_nil _).symm
  have whole : source = surrounded.under.front ++ surrounded.under.text ++
      surrounded.under.behind ++ [] :=
    surrounded.under.parts.trans (List.append_nil _).symm
  have behind : surrounded.under.front.byteLength + surrounded.under.text.byteLength ≤
      first.span.start := surrounded.behind_start first isFirst
  rw [← Text.byteLength_append] at behind
  refine Change.shows_part rfl whole moved ?_ fits (Nat.le_trans behind start) ?_
  · intro offset _
    have opening := @Text.byteLength_replicate '(' rfl count
    have closing := @Text.byteLength_replicate ')' rfl count
    rw [Text.byteLength_append surrounded.under.front]
    refine (surrounded.move_behind count offset).trans ?_
    rw [Text.byteLength_append, Text.byteLength_append, Text.byteLength_append]
    omega
  · have size := congrArg Text.byteLength surrounded.under.parts
    rw [Text.byteLength_append] at size
    have stop := fits.stop_lt
    omega

/-- The spans of the SELECT are shown, where the condition stands for itself and its clause. -/
theorem shown (count : Nat) :
    AllShown (.room surrounded.span count) (surrounded.under.enclosed count) source
      (filter.assemble surrounded.span surrounded.around.head
        (some ⟨surrounded.span, surrounded.around.node⟩) surrounded.around.tail).parts := by
  have inFront : AllShown (.room surrounded.span count) (surrounded.under.enclosed count) source
      (filter.alone (cover surrounded.around.front) surrounded.around.head).parts :=
    fun span member => surrounded.shows_front count (surrounded.around.derivedHead.traced span member)
  have inside : AllShown (.room surrounded.span count) (surrounded.under.enclosed count) source
      surrounded.around.node.parts :=
    fun span member => surrounded.shows_inside count (surrounded.around.derivedNode.traced span member)
  have behind : AllShown (.room surrounded.span count) (surrounded.under.enclosed count) source
      surrounded.around.tail.parts :=
    fun span member => surrounded.shows_clauses count (surrounded.around.traced span member)
  refine Filter.shown_assemble inFront inside behind ?_
  have shows := inside _ (Expr.span_mem_parts _)
  rwa [surrounded.node_span] at shows

end Grammar.Surrounded

/-! ### The statement of the tree in parentheses -/

/-- The statement with other spans for itself and for its clause. -/
def Statement.respan (filter : Filter) (span clause : Span) (statement : Statement) : Statement :=
  match filter with
  | .rows => { statement with
      span := span
      condition := statement.condition.map fun found => ⟨clause, found.segment⟩ }
  | .groups => { statement with
      span := span
      having := statement.having.map fun found => ⟨clause, found.segment⟩ }

/-- The condition of a clause with as many parentheses around it. -/
def Condition.enclose (inside : Span) (count : Nat) (clause : Condition) : Condition :=
  ⟨clause.span.grow (2 * count), clause.segment.carry (.room inside count)⟩

/-- The statement of a text with as many parentheses on either side of the condition that stands
under the span: everything moves along, and the statement and the clause also cover the parentheses. -/
def Statement.enclose (filter : Filter) (inside : Span) (count : Nat) (statement : Statement) :
    Statement :=
  match filter with
  | .rows => { statement.carry (.room inside count) with
      span := statement.span.grow (2 * count)
      condition := statement.condition.map (Condition.enclose inside count) }
  | .groups => { statement.carry (.room inside count) with
      span := statement.span.grow (2 * count)
      having := statement.having.map (Condition.enclose inside count) }

theorem Statement.enclose_respan (filter : Filter) (span place inside : Span) (count : Nat)
    (statement : Statement) :
    (statement.respan filter span place).enclose filter inside count =
      (statement.carry (.room inside count)).respan filter (span.grow (2 * count))
        (place.grow (2 * count)) := by
  obtain ⟨_, ⟨_, _, _⟩, _, condition, _, having_, _, _⟩ := statement
  cases filter
  · rcases condition with _ | ⟨_, _⟩ <;>
      simp [respan, enclose, Condition.enclose, carry, Condition.carryIn]
  · rcases having_ with _ | ⟨_, _⟩ <;>
      simp [respan, enclose, Condition.enclose, carry, Condition.carryIn]

namespace Annotate

/-- Parentheses around an expression have no annotation of their own. -/
theorem expr_enclosed (node : Expr) (spans : List Span) : expr (node.enclosed spans) = expr node := by
  induction spans with
  | nil => rfl
  | cons span spans ih => rw [Expr.enclosed, expr, ih]

/-- The spans of a SELECT and of a clause of it are those of its statement, and nothing else depends
on them. -/
theorem select_assemble {filter : Filter} {head : Head} {tail : Tail} {node inner : Expr}
    (same : expr node = expr inner) (span other place another : Span) :
    select (filter.assemble span head (some ⟨place, node⟩) tail) =
      Statement.respan filter span place <$>
        select (filter.assemble other head (some ⟨another, inner⟩) tail) := by
  obtain ⟨_, ⟨_, _⟩, _, _, _⟩ := head
  cases filter <;> simp [Filter.assemble, select, conditionClause?, same, Statement.respan]

end Annotate

theorem Annotator.map_run {Value Result : Type} (finish : Value → Result)
    (annotator : Annotator Value) (source : Text) (progress : Progress) :
    ((finish <$> annotator) source progress).1 = (annotator source progress).1.map finish := by
  rw [← bind_pure_comp, Annotator.bind_run]
  rcases annotator source progress with ⟨_ | _, _⟩ <;> rfl

/-- The statement of a text is the one of its SELECT. -/
theorem annotate_iff {source : Text} {statement : Statement} {tree : Grammar.Select}
    (parsed : Grammar.parse source = .ok tree) : annotate source = .ok statement ↔
      (Annotate.select tree source ⟨0, [.statementStarted tree.span]⟩).1 = .ok statement := by
  have outcome := Annotate.statement_outcome tree source Progress.initial
  rw [Progress.initial, List.nil_append] at outcome
  rw [annotate, annotateWithEvents, parsed]
  change (Annotate.statement tree source Progress.initial).1.mapError _ = _ ↔ _
  rw [Progress.initial, outcome]
  cases (Annotate.select tree source ⟨0, [.statementStarted tree.span]⟩).1 with
  | error =>
      constructor
      · rintro ⟨⟩
      · rintro ⟨⟩
  | ok found =>
      exact ⟨fun same => congrArg _ (Except.ok.inj same),
        fun same => congrArg _ (Except.ok.inj same)⟩

namespace Grammar.Surrounded

variable {filter : Filter} {source : Text} {statement : Statement}
  (surrounded : Surrounded filter source)

/-- The SELECT without parentheses, where the span of the condition stands for its own one and for
that of the clause. -/
def bare (count : Nat) : Select :=
  filter.assemble (surrounded.span.relocate (surrounded.move count))
    (surrounded.pieces.head.relocate (surrounded.layout count).first)
    (some ⟨surrounded.span.relocate (surrounded.move count),
      surrounded.pieces.node.relocate (surrounded.layout count).inner⟩)
    (surrounded.pieces.tail.relocate (· + (surrounded.layout count).shift))

theorem span_stays : surrounded.span.relocate (surrounded.move 0) = surrounded.span := by
  rw [move, Span.makeRoom_zero, Span.relocate_id, id]

theorem bare_moves (count : Nat) :
    (surrounded.bare 0).relocate (surrounded.move count) = surrounded.bare count := by
  rw [bare, Filter.relocate_assemble, Option.map_some, ConditionClause.relocate,
    surrounded.span_stays, surrounded.head_moves, surrounded.node_moves, surrounded.tail_moves, bare]

theorem bare_shown (isTree : parse source = .ok surrounded.around.select) (count : Nat) :
    AllShown (.room surrounded.span count) (surrounded.under.enclosed count) source
      (surrounded.bare 0).parts := by
  have same : surrounded.around.select = (surrounded.layout 0).select [] :=
    Except.ok.inj (isTree.symm.trans surrounded.parse_alone)
  obtain ⟨_, whole⟩ := Filter.assemble_spans same surrounded.span surrounded.span
  have shown := surrounded.shown count
  rw [whole] at shown
  rw [bare, surrounded.span_stays]
  exact shown

/-- The parentheses show in the spans of the statement and of the clause only. -/
theorem select_layout (count : Nat) (spans : List Span) :
    Annotate.select ((surrounded.layout count).select spans) =
      Statement.respan filter (cover (surrounded.layout count).covered)
        (cover (surrounded.layout count).clause) <$> Annotate.select (surrounded.bare count) :=
  Annotate.select_assemble (Annotate.expr_enclosed _ spans) _ _ _ _

/-- The tree of a text with its condition in parentheses comes out as that of the text itself. -/
theorem select_enclosed (isTree : parse source = .ok surrounded.around.select) (count : Nat)
    (spans : List Span) {progress later : Progress}
    (run : (Annotate.select ((surrounded.layout 0).select []) source progress).1 = .ok statement)
    (markers : later.markers = progress.markers) :
    (Annotate.select ((surrounded.layout count).select spans) (surrounded.under.enclosed count)
      later).1 = .ok (statement.enclose filter surrounded.span count) := by
  obtain ⟨outcome, _⟩ :=
    Annotate.follows_select (surrounded.bare_shown isTree count) progress later markers
  change (Annotate.select ((surrounded.bare 0).relocate (surrounded.move count)) _ later).1 = _
    at outcome
  rw [surrounded.bare_moves] at outcome
  rw [surrounded.select_layout, Annotator.map_run] at run ⊢
  rcases found : (Annotate.select (surrounded.bare 0) source progress).1 with _ | bare
  · rw [found] at run
    cases run
  · rw [found] at run outcome
    obtain rfl := Except.ok.inj run
    rw [outcome, Statement.enclose_respan, ← surrounded.cover_covered, ← surrounded.cover_clause]
    rfl

/-- With its condition in parentheses, an accepted text has the same statement, moved along. -/
theorem annotated (isTree : parse source = .ok surrounded.around.select)
    (annotated : annotate source = .ok statement) (count : Nat) :
    annotate (surrounded.under.enclosed count) =
      .ok (statement.enclose filter surrounded.span count) := by
  obtain ⟨spans, _, parsed⟩ := surrounded.parse_enclosed count
  exact (annotate_iff parsed).mpr (surrounded.select_enclosed isTree count spans
    ((annotate_iff surrounded.parse_alone).mp annotated) rfl)

end Grammar.Surrounded

/-- Parentheses around a condition change nothing: with any number of them on either side of the
text of the condition of WHERE or HAVING, an accepted text has the same statement, with offsets and
markers moved along, where only the statement and the clause also cover the parentheses. -/
theorem enclosed_condition_alike (source : Text) (statement : Statement) (tree : Grammar.Select)
    (filter : Filter) (clause : ConditionClause) (annotated : annotate source = .ok statement)
    (parsed : Grammar.parse source = .ok tree) (found : tree.filter filter = some clause) :
    ∃ before text after, source = before ++ text ++ after ∧
      clause.expr.span.start = before.byteLength ∧ clause.expr.span.text? source = some text ∧
        ∀ count, annotate (before ++ List.replicate count '(' ++ text ++
          List.replicate count ')' ++ after) =
            .ok (statement.enclose filter clause.expr.span count) := by
  obtain ⟨surrounded, rfl, isNode⟩ := Grammar.exists_surrounded parsed found
  have span : clause.expr.span = surrounded.span := by rw [isNode, surrounded.node_span]
  have under := Span.text_of_parts surrounded.under.front surrounded.under.text
    surrounded.under.behind surrounded.text_pos
  refine ⟨surrounded.under.front, surrounded.under.text, surrounded.under.behind,
    surrounded.under.parts, congrArg Span.start span, ?_, ?_⟩
  · rw [span]
    exact (congrArg _ surrounded.under.parts).trans under
  · rw [span]
    exact surrounded.annotated parsed annotated

/-- A condition with a marker in front of a position. -/
theorem enclosed_condition_alike_ordered :
    ∃ statement, annotate "SELECT a FROM t WHERE b = ? OR c ORDER BY 1".toList = .ok statement ∧
      annotate "SELECT a FROM t WHERE ((b = ? OR c)) ORDER BY 1".toList =
        .ok (statement.enclose .rows ⟨22, 31⟩ 2) := by
  let source := "SELECT a FROM t WHERE b = ? OR c ORDER BY 1".toList
  have accepts : (annotate source).isOk = true := by decide +kernel
  have filtered : ((Grammar.parse source).toOption.bind (·.filter .rows)).map (·.expr.span) =
      some ⟨22, 31⟩ := by decide +kernel
  rcases run : annotate source with failure | statement
  · rw [run] at accepts
    exact absurd accepts Bool.false_ne_true
  · obtain ⟨tree, _, parsed, _⟩ := annotateWithEvents_ok (Prod.ext run rfl)
    rw [parsed] at filtered
    obtain ⟨clause, found, span⟩ := Option.map_eq_some_iff.mp filtered
    obtain ⟨before, text, after, whole, start, under, alike⟩ :=
      enclosed_condition_alike source statement tree .rows clause run parsed found
    rw [span] at start under alike
    have start : before.byteLength = 22 := start.symm
    -- the three parts are those of the text around the span
    have taken := Text.takeBytes_append before (text ++ after)
    rw [← List.append_assoc, ← whole, start] at taken
    obtain rfl : "SELECT a FROM t WHERE ".toList = before :=
      Option.some.inj (Eq.trans (by decide +kernel) taken)
    obtain rfl : "b = ? OR c".toList = text :=
      Option.some.inj (Eq.trans (by decide +kernel) under)
    obtain rfl : " ORDER BY 1".toList = after :=
      List.append_cancel_left (Eq.trans (by decide +kernel) whole)
    exact ⟨statement, rfl, alike 2⟩

end AnnotatedSql
