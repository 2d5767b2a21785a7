/-
This file shows that a session is uniform in its counter: what is annotated after other nodes comes
out as it does first, but that its markers count on from those seen before.
-/

import AnnotatedSql.Proofs.Annotate.Carried
import AnnotatedSql.Proofs.Annotate.Tally
import AnnotatedSql.Proofs.Grammar.Locality.Composition

namespace AnnotatedSql

/-! ### More markers in front -/

/-- More markers in front; offsets and letters stay. -/
def Change.counting (count : Nat) : Change := ⟨id, count, Recasing.none⟩

section
variable {count : Nat} {source : Text}

@[simp] theorem Recasing.text_none (text : Text) : Recasing.none.text text = text := List.map_id text

@[simp] theorem Recasing.name_none (name : Name) : Recasing.none.name name = name := by
  simp [Recasing.name]

@[simp] theorem PlacedName.carry_counting : PlacedName.carry (.counting count) = id := by
  funext placed
  simp [PlacedName.carry, Change.counting]

@[simp] theorem Column.carry_counting : Column.carry (.counting count) = id := by
  funext column
  simp [Column.carry]
  simp [Change.counting]

@[simp] theorem Table.carry_counting : Table.carry (.counting count) = id := by
  funext table
  simp [Table.carry]

@[simp] theorem Call.carry_counting : Call.carry (.counting count) = id := by
  funext call
  have texts : (Change.counting count).recasing.text = id := funext Recasing.text_none
  cases call with
  | aggregate use => simp [Call.carry, AggregateUse.carry, texts]; simp [Change.counting]
  | verbatim span text => simp [Call.carry, texts]; simp [Change.counting]

@[simp] theorem OrderItem.carry_counting : OrderItem.carry (.counting count) = id := by
  funext item
  cases item <;> simp [OrderItem.carry] <;> simp [Change.counting]

@[simp] theorem AnnotationError.carry_counting (error : AnnotationError) :
    error.carry (.counting count) = error := by
  cases error <;> simp [AnnotationError.carry, Change.counting]

/-- The error is the same, and the value is changed. -/
theorem Change.outcome_counting {Value : Type} (carry : Value → Value)
    (outcome : Except AnnotationError Value) :
    (Change.counting count).outcome carry outcome = outcome.map carry := by
  cases outcome with
  | error error => exact congrArg Except.error error.carry_counting
  | ok value => rfl

/-- All texts stay where they are. -/
theorem allShown_counting {whole : Text} {parts : List Grammar.Part}
    (agree : ∀ span, .span span ∈ parts → span.text whole = span.text source) :
    AllShown (.counting count) whole source parts :=
  fun span member => (agree span member).trans (Recasing.text_none (span.text source)).symm

end

/-- A tree that is not moved is annotated once more; what is carried over is known otherwise. -/
theorem Follows.counted {Node Value : Type} {count : Nat} {whole part : Text} {node moved : Node}
    {step : Node → Annotator Value} {carry other : Value → Value}
    (follows : Follows (.counting count) whole part carry (step moved) (step node))
    (same : moved = node) (carried : carry = other) :
    Follows (.counting count) whole part other (step node) (step node) := by
  rw [← carried]
  rwa [same] at follows

namespace Annotate

/-! ### Visits -/

/-- A node that is annotated in a session, with the sort of value that comes of it.
A statement of its own is none of them: it starts to count anew. -/
inductive Visit : Type → Type
  | literal (node : Grammar.Literal) : Visit Value
  | marker (span : Span) : Visit Nat
  | name (node : Grammar.Identifier) : Visit Name
  | placedName (node : Grammar.Label) : Visit Name
  | dataType (span : Span) : Visit Text
  | column (node : Grammar.QualifiedName) : Visit Column
  | columns (node : Grammar.NameList) : Visit (List Column)
  | table (node : Grammar.QualifiedName) : Visit Table
  | tables (node : Grammar.NameList) : Visit (List Table)
  | expr (node : Grammar.Expr) : Visit Segment
  | booleanPrimary (node : Grammar.BooleanPrimary) : Visit Segment
  | predicate (node : Grammar.Predicate) : Visit Segment
  | bitExpr (node : Grammar.BitExpr) : Visit Segment
  | simpleExpr (node : Grammar.SimpleExpr) : Visit Leaf
  | functionCall (node : Grammar.FunctionCall) : Visit Call
  | aggregationCall (node : Grammar.AggregationCall) : Visit Call
  | specialCall (node : Grammar.SpecialCall) : Visit Call
  | castCall (node : Grammar.CastCall) : Visit Call
  | regularCall (node : Grammar.RegularCall) : Visit Call
  | orderItem (node : Grammar.OrderItem) : Visit OrderItem
  | orderClause (node : Grammar.OrderClause) : Visit OrderList
  | select (node : Grammar.Select) : Visit Statement
  | subquery (node : Grammar.Subquery) : Visit Statement

namespace Visit

variable {Result : Type}

def annotator : Visit Result → Annotator Result
  | .literal node => Annotate.literal node
  | .marker span => Annotate.marker span
  | .name node => Annotate.name node
  | .placedName node => Annotate.name node.identifier
  | .dataType span => Annotate.dataType span
  | .column node => Annotate.column node
  | .columns node => Annotate.columns node
  | .table node => Annotate.table node
  | .tables node => Annotate.tables node
  | .expr node => Annotate.expr node
  | .booleanPrimary node => Annotate.booleanPrimary node
  | .predicate node => Annotate.predicate node
  | .bitExpr node => Annotate.bitExpr node
  | .simpleExpr node => Annotate.simpleExpr node
  | .functionCall node => Annotate.functionCall node
  | .aggregationCall node => Annotate.aggregationCall node
  | .specialCall node => Annotate.specialCall node
  | .castCall node => Annotate.castCall node
  | .regularCall node => Annotate.regularCall node
  | .orderItem node => Annotate.orderItem node
  | .orderClause node => Annotate.orderClause node
  | .select node => Annotate.select node
  | .subquery node => Annotate.subquery node

/-- The value with the number added to every marker and to every count of markers in it. Names,
calls and order items have none. -/
def renumber (count : Nat) : Visit Result → Result → Result
  | .literal _ => Value.carry (.counting count)
  | .marker _ => (· + count)
  | .name _ | .placedName _ | .dataType _ | .column _ | .columns _ | .table _ | .tables _ => id
  | .expr _ | .booleanPrimary _ | .predicate _ | .bitExpr _ => Segment.carry (.counting count)
  | .simpleExpr _ => Leaf.carry (.counting count)
  | .functionCall _ | .aggregationCall _ | .specialCall _ | .castCall _ | .regularCall _ => id
  | .orderItem _ | .orderClause _ => id
  | .select _ | .subquery _ => Statement.carry (.counting count)

/-- The number of parameter markers under the node. -/
def markerCount : Visit Result → Nat
  | .marker _ => 1
  | .literal _ | .name _ | .placedName _ | .dataType _ | .column _ | .columns _ | .table _
  | .tables _ => 0
  | .expr node => node.markerCount
  | .booleanPrimary node => node.markerCount
  | .predicate node => node.markerCount
  | .bitExpr node => node.markerCount
  | .simpleExpr node => node.markerCount
  | .functionCall node => node.markerCount
  | .aggregationCall node => node.markerCount
  | .specialCall node => node.markerCount
  | .castCall node => node.markerCount
  | .regularCall node => node.markerCount
  | .orderItem node => node.markerCount
  | .orderClause node => node.markerCount
  | .select node => node.markerCount
  | .subquery node => node.markerCount

variable {source : Text} {count : Nat}

/-- Behind other markers the annotation follows the one that starts to count. -/
theorem follows (visit : Visit Result) :
    Follows (.counting count) source source (visit.renumber count) visit.annotator
      visit.annotator := by
  have shown (parts : List Grammar.Part) : AllShown (.counting count) source source parts :=
    allShown_counting fun _ _ => rfl
  have named (node : Grammar.Identifier) : Follows (.counting count) source source id
      (Annotate.name node) (Annotate.name node) :=
    (follows_name (shown node.parts)).counted (congrFun Grammar.Identifier.relocate_id node)
      (funext Recasing.name_none)
  have columned (node : Grammar.QualifiedName) : Follows (.counting count) source source id
      (Annotate.column node) (Annotate.column node) :=
    (follows_column (shown node.parts)).counted (congrFun Grammar.QualifiedName.relocate_id node)
      Column.carry_counting
  have tabled (node : Grammar.QualifiedName) : Follows (.counting count) source source id
      (Annotate.table node) (Annotate.table node) :=
    (follows_table (shown node.parts)).counted (congrFun Grammar.QualifiedName.relocate_id node)
      Table.carry_counting
  cases visit with
  | literal node =>
      exact (follows_literal (shown node.parts)).counted
        (congrFun Grammar.Literal.relocate_id node) rfl
  | marker span => exact follows_marker
  | name node => exact named node
  | placedName node => exact named node.identifier
  | dataType span =>
      exact (follows_textAt (shown [.span span] span List.mem_cons_self)).counted
        (congrFun Span.relocate_id span) (funext Recasing.text_none)
  | column node => exact columned node
  | columns node =>
      exact (follows_mapM fun name _ => columned name).counted (List.map_id node.names)
        List.map_id_fun
  | table node => exact tabled node
  | tables node =>
      exact (follows_mapM fun name _ => tabled name).counted (List.map_id node.names)
        List.map_id_fun
  | expr node => exact (follows_expr (shown node.parts)).counted node.relocate_id rfl
  | booleanPrimary node =>
      exact (follows_booleanPrimary (shown node.parts)).counted node.relocate_id rfl
  | predicate node => exact (follows_predicate (shown node.parts)).counted node.relocate_id rfl
  | bitExpr node => exact (follows_bitExpr (shown node.parts)).counted node.relocate_id rfl
  | simpleExpr node => exact (follows_simpleExpr (shown node.parts)).counted node.relocate_id rfl
  | functionCall node =>
      exact (follows_functionCall (shown node.parts)).counted node.relocate_id Call.carry_counting
  | aggregationCall node =>
      exact (follows_aggregationCall (shown node.parts)).counted node.relocate_id
        Call.carry_counting
  | specialCall node =>
      exact (follows_specialCall (shown node.parts)).counted node.relocate_id Call.carry_counting
  | castCall node =>
      exact (follows_castCall (shown node.parts)).counted node.relocate_id Call.carry_counting
  | regularCall node =>
      exact (follows_regularCall (shown node.parts)).counted node.relocate_id Call.carry_counting
  | orderItem node =>
      exact (follows_orderItem (shown node.parts)).counted node.relocate_id
        OrderItem.carry_counting
  | orderClause node =>
      obtain ⟨span, nodes⟩ := node
      have items : Follows (.counting count) source source id (orderItems nodes)
          (orderItems nodes) := by
        refine (follows_orderItems (shown _)).counted (Grammar.OrderItem.relocateAmong_id nodes) ?_
        rw [OrderItem.carry_counting, List.map_id_fun]
      simp only [annotator, Annotate.orderClause]
      exact items.bind fun _ _ => follows_pure rfl
  | select node => exact (follows_select (shown node.parts)).counted node.relocate_id rfl
  | subquery node => exact (follows_subquery (shown node.parts)).counted node.relocate_id rfl

/-- A visit that succeeds has come on by the markers under its node. -/
theorem counts (visit : Visit Result) : Counts source visit.markerCount visit.annotator := by
  cases visit with
  | literal node => exact (quiet_literal node).counts
  | marker span => exact marker_counts span
  | name node => exact (quiet_name node).counts
  | placedName node => exact (quiet_name node.identifier).counts
  | dataType span => exact (quiet_textAt span).counts
  | column node => exact (quiet_column node).counts
  | columns node => exact (quiet_columns node).counts
  | table node => exact (quiet_table node).counts
  | tables node => exact (quiet_tables node).counts
  | expr node => exact expr_counts node
  | booleanPrimary node => exact booleanPrimary_counts node
  | predicate node => exact predicate_counts node
  | bitExpr node => exact bitExpr_counts node
  | simpleExpr node => exact simpleExpr_counts node
  | functionCall node => exact functionCall_counts node
  | aggregationCall node => exact aggregationCall_counts node
  | specialCall node => exact specialCall_counts node
  | castCall node => exact castCall_counts node
  | regularCall node => exact regularCall_counts node
  | orderItem node => exact orderItem_counts node
  | orderClause node => exact orderClause_counts node
  | select node => exact select_counts node
  | subquery node => exact subquery_counts node

end Visit

/-- What a statement of its own comes to is drawn from the texts under the spans of its tree. It
depends neither on the rest of the source nor on what was seen before. -/
theorem statement_by_texts {node : Grammar.Select} {source other : Text}
    (agree : ∀ span, .span span ∈ node.parts → span.text other = span.text source)
    (progress later : Progress) :
    (statement node other later).1 = (statement node source progress).1 ∧
      (statement node other later).2.markers = (statement node source progress).2.markers := by
  let finish : Annotator Statement := do
    let result ← select node
    report (.statementFinished result.markers)
    return result
  let started (before : Progress) : Progress :=
    ⟨0, before.events ++ [.statementStarted node.span]⟩
  have along {whole : Text}
      (agree : ∀ span, .span span ∈ node.parts → span.text whole = span.text source) :
      Follows (.counting 0) whole source (Statement.carry (.counting 0)) finish finish := by
    have shown : AllShown (.counting 0) whole source node.parts := allShown_counting agree
    refine ((follows_select shown).counted node.relocate_id rfl).bind fun result _ => ?_
    exact (follows_report _ _).bind fun _ _ => follows_pure rfl
  -- Either source comes to what follows the annotation from the second one.
  obtain ⟨outcome, markers⟩ := along agree (started progress) (started later) rfl
  obtain ⟨same, rest⟩ := along (fun _ _ => rfl) (started progress) (started progress) rfl
  exact ⟨outcome.trans same.symm, markers.trans rest.symm⟩

/-- A session is uniform in its counter. A node that is annotated when some markers were seen gives
the value that it gives at first, with that number added to its markers, or the same error, and the
counter comes as far beyond; after a value it has come on by the markers under the node. A statement
of its own comes out the same, with the same counter, wherever the session has come to. -/
theorem session_uniform (source : Text) :
    (∀ (Result : Type) (visit : Visit Result) (count : Nat) (events others : List Event),
      let later := visit.annotator.runOn source ⟨count, events⟩
      let first := visit.annotator.runOn source ⟨0, others⟩
      later.1 = first.1.map (visit.renumber count) ∧
        later.2.markers = first.2.markers + count ∧
        ∀ value, first.1 = .ok value → first.2.markers = visit.markerCount) ∧
      ∀ (node : Grammar.Select) (progress other : Progress),
        let later := (statement node).runOn source progress
        let first := (statement node).runOn source other
        later.1 = first.1 ∧ later.2.markers = first.2.markers := by
  refine ⟨fun Result visit count events others => ?_, fun node progress other =>
    statement_by_texts (fun _ _ => rfl) other progress⟩
  obtain ⟨outcome, markers⟩ := visit.follows ⟨0, others⟩ ⟨count, events⟩ (Nat.zero_add count).symm
  rw [Change.outcome_counting] at outcome
  refine ⟨outcome, markers, fun value found => ?_⟩
  have counted := visit.counts ⟨0, others⟩ value _ (Prod.ext found rfl)
  rwa [Nat.zero_add] at counted

/-- A call with two slots set, of which the second one is of no matter. -/
def twofoldCall : Grammar.FunctionCall :=
  let marker : Grammar.Expr := .primary (.predicate (.bitExpr (.simple (.marker ⟨4, 4⟩))))
  { span := ⟨0, 5⟩
    aggregation := some ⟨⟨0, 5⟩, ⟨0, 2⟩, ⟨3, 3⟩, none, [.expr marker], ⟨5, 5⟩⟩
    special := none
    regular := some ⟨⟨0, 5⟩, ⟨⟨0, 2⟩, none⟩, [marker, marker], none⟩ }

/-- Behind two other markers the call comes to the third one, though three stand in its slots. -/
theorem session_uniform_twofold :
    ((functionCall twofoldCall).runOn "MAX(?)".toList ⟨0, []⟩).1 =
        .ok (.aggregate ⟨⟨0, 5⟩, .max, 3, none⟩) ∧
      ((functionCall twofoldCall).runOn "MAX(?)".toList ⟨2, []⟩).2.markers = 3 := by
  have found : ((functionCall twofoldCall).runOn "MAX(?)".toList ⟨0, []⟩).1 =
      .ok (.aggregate ⟨⟨0, 5⟩, .max, 3, none⟩) := by rfl
  obtain ⟨_, come, counted⟩ :=
    (session_uniform "MAX(?)".toList).1 Call (.functionCall twofoldCall) 2 [] []
  exact ⟨found, come.trans (congrArg (· + 2) (counted _ found))⟩

end Annotate

end AnnotatedSql
