/-
This file shows that selects are parsed alike in a whole text and in a part of it.
-/

import AnnotatedSql.Proofs.Grammar.Locality.Expression

namespace AnnotatedSql.Grammar.Parse

variable {cut : Cut} {least bound : Nat} {first second : Nested}

/-! ### Items -/

/-- After a label, one token less is known to be left. -/
theorem mirrors_label_bind {Result : Type} {after : Nat} {carry : Result → Result}
    {firstNext secondNext : Label → Parser Result} (some : 1 ≤ least)
    (next : ∀ name, Mirrors cut (least - 1) bound after (firstNext (name.relocate cut.move))
      (secondNext name) carry) :
    Mirrors cut least (bound + 1) after (label >>= firstNext) (label >>= secondNext) carry := by
  rw [label, identifier, bind_assoc, bind_assoc, bind_assoc, bind_assoc]
  refine mirrors_current_bind some fun token own alike => ?_
  have takes (word : Option Span) :
      Mirrors cut least (bound + 1) after
        (advance >>= fun _ => firstNext (Label.relocate cut.move ⟨own.span, ⟨own.span, word⟩⟩))
        (advance >>= fun _ => secondNext ⟨own.span, ⟨own.span, word⟩⟩) carry :=
    mirrors_advance_bind some (next _)
  rw [alike.kind, alike.span]
  cases own.kind with
  | identifier | quotedIdentifier => exact takes none
  | keyword word =>
      dsimp only
      split
      · exact takes (Option.some own.span)
      · exact mirrors_fail _
  | _ => exact mirrors_fail _

theorem qualifiedShorthand_mirrors (three : 3 ≤ least) :
    Mirrors cut least bound bound qualifiedShorthand qualifiedShorthand
      (SelectItem.relocate cut.move) := by
  refine mirrors_offset_bind (by omega) fun start => ?_
  refine (mirrors_label_bind (by omega) fun owner => ?_).here
  refine (mirrors_advance_bind (by omega) ?_).here
  refine (mirrors_advance_bind (by omega) ?_).here
  exact (mirrors_spanFrom start).bind fun span => mirrors_pure rfl

theorem exprItem_mirrors (inner : Nested.Mirrors cut bound first second) (some : 1 ≤ least) :
    Mirrors cut least bound bound (exprItem first) (exprItem second)
      (SelectItem.relocate cut.move) := by
  refine mirrors_offset_bind some fun start => (inner.expr 0).anywhere.bind fun node => ?_
  refine itemLabel_mirrors.bind fun itemLabel => (mirrors_spanFrom start).bind fun span => ?_
  exact mirrors_pure rfl

theorem selectItem_failsAtEnd {nested : Nested} (fails : nested.FailsAtEnd) :
    FailsAtEnd .expression (selectItem nested) := by
  refine FailsAtEnd.after_kindAhead fun cursor atEnd => ?_
  rw [bind_look (kindAhead_run 1), bind_look (kindAhead_run 2)]
  exact FailsAtEnd.after_offset (fun _ => FailsAtEnd.bind (fails.expr 0)) cursor atEnd

/-- What is parsed as an item after a look at the next three tokens. -/
def itemFor (nested : Nested) (kind following third : TokenKind) : Parser SelectItem :=
  if kind = .symbol .star then do
    let star ← terminal
    return .shorthand star
  else if kind.isName && following = .symbol .dot && third = .symbol .star then
    qualifiedShorthand
  else
    exprItem nested

theorem itemFor_undotted {nested : Nested} {kind following another : TokenKind}
    (third other : TokenKind) (plain : following ≠ .symbol .dot)
    (otherPlain : another ≠ .symbol .dot) :
    itemFor nested kind following third = itemFor nested kind another other := by
  simp [itemFor, plain, otherPlain]

theorem itemFor_unstarred {nested : Nested} {kind following third other : TokenKind}
    (plain : third ≠ .symbol .star) (otherPlain : other ≠ .symbol .star) :
    itemFor nested kind following third = itemFor nested kind following other := by
  simp [itemFor, plain, otherPlain]

theorem itemFor_mirrors {kind following third : TokenKind}
    (inner : Nested.Mirrors cut bound first second) (some : 1 ≤ least)
    (three : third = .symbol .star → 3 ≤ least) :
    Mirrors cut least bound bound (itemFor first kind following third)
      (itemFor second kind following third) (SelectItem.relocate cut.move) := by
  refine mirrors_ite (fun _ => ?_) fun _ => mirrors_ite (fun qualified => ?_) fun _ => ?_
  · exact (mirrors_terminal some).here.bind fun star => mirrors_pure rfl
  · rw [Bool.and_eq_true, decide_eq_true_iff] at qualified
    exact qualifiedShorthand_mirrors (three qualified.2)
  · exact exprItem_mirrors inner some

theorem selectItem_mirrors (inner : Nested.Mirrors cut bound first second)
    (firstFails : first.FailsAtEnd) :
    Mirrors cut 0 bound bound (selectItem first) (selectItem second)
      (SelectItem.relocate cut.move) := by
  refine Mirrors.lift ?_ (selectItem_failsAtEnd firstFails) (selectItem_failsAtEnd inner.fails)
  refine mirrors_kindAhead_bind_inside (Nat.le_refl 1) fun kind => ?_
  refine mirrors_kindAhead_bind (Nat.le_refl 1) (fun following enough more some => ?_)
    fun following ends => ?_
  · change Mirrors cut enough bound bound (kindAhead 2 >>= itemFor first kind following)
      (kindAhead 2 >>= itemFor second kind following) (SelectItem.relocate cut.move)
    by_cases dotted : following = .symbol .dot
    · rw [dotted] at more
      refine mirrors_kindAhead_bind (more nofun) (fun third enough more least => ?_)
        fun third ends => ?_
      · refine itemFor_mirrors inner (Nat.le_trans some least) fun starred => ?_
        rw [starred] at more
        exact more nofun
      · exact itemFor_unstarred (ne_of_endsClause ends rfl) (by decide)
    · refine mirrors_kindAhead_bind_of_blind fun third other => ?_
      have ended : TokenKind.endOfInput ≠ .symbol .dot := by decide
      rw [itemFor_undotted third .endOfInput dotted ended,
        itemFor_undotted other .endOfInput dotted ended]
      exact itemFor_mirrors inner some nofun
  · change kindAhead 2 >>= itemFor first kind following =
      kindAhead 2 >>= itemFor first kind .endOfInput
    have undotted : itemFor first kind following = itemFor first kind .endOfInput := by
      funext third
      exact itemFor_undotted third third (ne_of_endsClause ends rfl) (by decide)
    rw [undotted]

theorem selectList_mirrors (inner : Nested.Mirrors cut bound first second)
    (firstFails : first.FailsAtEnd) :
    Mirrors cut 0 bound bound (selectList first) (selectList second)
      (SelectList.relocate cut.move) := by
  have fails {nested : Nested} (fails : nested.FailsAtEnd) :
      FailsAtEnd .expression (selectList nested) :=
    FailsAtEnd.after_offset fun _ => (commaList_failsAtEnd (selectItem_failsAtEnd fails)).bind
  refine Mirrors.lift ?_ (fails firstFails) (fails inner.fails)
  refine mirrors_offset_bind (Nat.le_refl 1) fun start => ?_
  refine (commaList_mirrors (selectItem_mirrors inner firstFails)).anywhere.bind fun items => ?_
  refine (mirrors_spanFrom start).bind fun span => mirrors_pure ?_
  simp [SelectList.relocate]

/-! ### Order items -/

theorem endsOrderItem_beside (ends : Precedence.endsOrderItem cut.stop.kind)
    {whole part : Cursor} (beside : cut.Beside whole part) :
    Precedence.endsOrderItem whole.current.kind = Precedence.endsOrderItem part.current.kind := by
  rcases Nat.eq_zero_or_pos part.position with nothing | some
  · obtain ⟨stop, ownStop⟩ := beside.stops
    rw [nothing] at stop ownStop
    rw [Cursor.current, Cursor.current, stop, ownStop, cut.ownEnds, ends]
    rfl
  · rw [Cursor.current, Cursor.current, (beside.alike some).kind]

theorem orderColumn_mirrors (ends : Precedence.endsOrderItem cut.stop.kind) :
    Mirrors cut 1 bound bound orderColumn? orderColumn?
      (Option.map (QualifiedName.relocate cut.move)) := by
  intro whole part beside some few
  obtain ⟨found, fails⟩ :=
    qualifiedName_mirrors whole part beside some (Nat.le_succ_of_le few)
  have same : whole.current.kind = part.current.kind := (beside.alike some).kind
  rw [orderColumn_run, orderColumn_run, same]
  split
  · rcases run : qualifiedName part with ⟨error | name, later⟩
    · refine echoes_error fun exact => ?_
      obtain ⟨place, wholeRun, same⟩ := fails exact _ _ run
      exact ⟨place, by rw [wholeRun]; rfl, same⟩
    · obtain ⟨place, wholeRun, besideLater, fewer, shorter⟩ := found name later run
      rw [wholeRun, afterName, afterName, endsOrderItem_beside ends besideLater]
      split
      · exact echoes_ok rfl besideLater fewer shorter
      · exact echoes_ok rfl (beside.giving place.rejected later.rejected) few (Nat.le_refl _)
  · exact echoes_ok rfl beside few (Nat.le_refl _)

theorem orderTarget_failsAtEnd {nested : Nested} (fails : nested.FailsAtEnd) :
    FailsAtEnd .expression (orderTarget nested) := by
  refine FailsAtEnd.after_kindAhead fun cursor atEnd => ?_
  have ahead : cursor.current.kind = .endOfInput := atEnd.ahead 0
  rw [bind_look (kindAhead_run 1)]
  change (orderColumn? >>= _) cursor = _
  have column : orderColumn? cursor = (.ok none, cursor) := by
    rw [orderColumn_run, ahead]
    rfl
  rw [bind_run, column]
  exact FailsAtEnd.bind (fails.expr 0) cursor atEnd

theorem orderTarget_mirrors (inner : Nested.Mirrors cut bound first second)
    (firstFails : first.FailsAtEnd) (ends : Precedence.endsOrderItem cut.stop.kind) :
    Mirrors cut 0 bound bound (orderTarget first) (orderTarget second)
      (Prod.map (Option.map (QualifiedName.relocate cut.move))
        (Prod.map (Option.map (Span.relocate cut.move)) (Option.map (Expr.relocate cut.move)))) := by
  refine Mirrors.lift ?_ (orderTarget_failsAtEnd firstFails) (orderTarget_failsAtEnd inner.fails)
  refine mirrors_kindAhead_bind_inside (Nat.le_refl 1) fun kind => ?_
  refine mirrors_kindAhead_bind_of_stop (Nat.le_refl 1) (fun following enough _ some => ?_) ?_
  · refine mirrors_ite (fun _ => ?_) fun _ => ?_
    · exact (mirrors_terminal some).here.bind fun number => mirrors_pure rfl
    · refine ((orderColumn_mirrors ends).mono some (Nat.le_refl _) (Nat.le_refl _)).bind fun column => ?_
      cases column with
      | some name => exact mirrors_pure rfl
      | none => exact (inner.expr 0).bind fun node => mirrors_pure rfl
  · rw [ends]
    rfl

theorem direction_mirrors :
    Mirrors cut least bound bound direction direction
      (Prod.map (Option.map (Span.relocate cut.move)) (Option.map (Span.relocate cut.move))) := by
  refine (keyword_mirrors rfl).bind fun ascending => ?_
  cases ascending with
  | some span => exact mirrors_pure rfl
  | none => exact (keyword_mirrors rfl).bind fun descending => mirrors_pure rfl

theorem orderItem_mirrors (inner : Nested.Mirrors cut bound first second)
    (firstFails : first.FailsAtEnd) (ends : Precedence.endsOrderItem cut.stop.kind) :
    Mirrors cut 0 bound bound (orderItem first) (orderItem second)
      (OrderItem.relocate cut.move) := by
  have fails {nested : Nested} (fails : nested.FailsAtEnd) :
      FailsAtEnd .expression (orderItem nested) :=
    FailsAtEnd.after_offset fun _ => (orderTarget_failsAtEnd fails).bind
  refine Mirrors.lift ?_ (fails firstFails) (fails inner.fails)
  refine mirrors_offset_bind (Nat.le_refl 1) fun start => ?_
  refine (orderTarget_mirrors inner firstFails ends).anywhere.bind fun target => ?_
  refine direction_mirrors.bind fun directions => (mirrors_spanFrom start).bind fun span => ?_
  exact mirrors_pure (by simp [OrderItem.relocate])

/-! ### Clauses -/

theorem orderClause_mirrors (inner : Nested.Mirrors cut bound first second)
    (firstFails : first.FailsAtEnd) (ends : Precedence.endsOrderItem cut.stop.kind) {word : Keyword}
    (missing : cut.stop.kind ≠ .keyword word) :
    Mirrors cut least bound bound (orderClause? first word) (orderClause? second word)
      (Option.map (OrderClause.relocate cut.move)) := by
  refine mirrors_atKind_bind_of_ne missing nofun ?_ (mirrors_pure rfl)
  refine mirrors_offset_bind (Nat.le_max_right ..) fun start => ?_
  refine (mirrors_advance (Nat.le_max_right ..)).here.bind fun _ => ?_
  refine (mirrors_expectKeyword _).here.bind fun byWord => ?_
  refine (commaList_mirrors (orderItem_mirrors inner firstFails ends)).bind fun items => ?_
  refine (mirrors_spanFrom start).bind fun span => mirrors_pure ?_
  simp [OrderClause.relocate]

theorem conditionClause_mirrors (inner : Nested.Mirrors cut bound first second) {word : Keyword}
    (missing : cut.stop.kind ≠ .keyword word) :
    Mirrors cut least bound bound (conditionClause? first word) (conditionClause? second word)
      (Option.map (ConditionClause.relocate cut.move)) := by
  refine mirrors_atKind_bind_of_ne missing nofun ?_ (mirrors_pure rfl)
  refine mirrors_offset_bind (Nat.le_max_right ..) fun start => ?_
  refine (mirrors_advance (Nat.le_max_right ..)).here.bind fun _ => ?_
  refine (inner.expr 0).bind fun node => ?_
  exact (mirrors_spanFrom start).bind fun span => mirrors_pure rfl

theorem tables_mirrors :
    Mirrors cut least bound bound tables? tables? (Option.map (NameList.relocate cut.move)) := by
  refine mirrors_atKind_ite rfl ?_ (mirrors_pure rfl)
  refine (mirrors_advance (Nat.le_max_right ..)).here.bind fun _ => ?_
  exact nameList_mirrors.bind fun names => mirrors_pure rfl

theorem distinct_mirrors :
    Mirrors cut least bound bound distinct? distinct? (Option.map (Span.relocate cut.move)) := by
  refine (keyword_mirrors rfl).bind fun distinct => ?_
  cases distinct with
  | some span => exact mirrors_pure rfl
  | none => exact (keyword_mirrors rfl).bind fun all => mirrors_pure rfl

theorem endsClause_of_endsSelect {kind : TokenKind} (ends : endsSelect kind) : endsClause 1 kind := by
  unfold endsSelect at ends
  split at ends <;> first | rfl | exact absurd ends Bool.false_ne_true

theorem ne_keyword_of_endsSelect {kind : TokenKind} (ends : endsSelect kind) (word : Keyword) :
    kind ≠ .keyword word := by
  rintro rfl
  exact absurd ends Bool.false_ne_true

theorem select_mirrors (inner : Nested.Mirrors cut bound first second)
    (firstFails : first.FailsAtEnd) (closes : endsSelect cut.stop.kind) :
    Mirrors cut 0 (bound + 1) bound (select first) (select second) (Select.relocate cut.move) := by
  have fails (nested : Nested) : FailsAtEnd (.keyword .SELECT) (select nested) :=
    fun _ => select_atEnd nested
  have ends := endsOrderItem_of_endsSelect closes
  have missing := ne_keyword_of_endsSelect closes
  refine Mirrors.lift ?_ (fails first) (fails second)
  refine mirrors_offset_bind (Nat.le_refl 1) fun start => ?_
  refine (mirrors_expectKeyword _).bind fun word => distinct_mirrors.bind fun distinct => ?_
  refine (selectList_mirrors inner firstFails).bind fun items => tables_mirrors.bind fun tables => ?_
  refine (conditionClause_mirrors inner (missing _)).bind fun condition => ?_
  refine (orderClause_mirrors inner firstFails ends (missing _)).bind fun grouping => ?_
  refine (conditionClause_mirrors inner (missing _)).bind fun having_ => ?_
  refine (orderClause_mirrors inner firstFails ends (missing _)).bind fun ordering => ?_
  refine (mirrors_spanFrom start).bind fun span => mirrors_pure ?_
  simp [Select.relocate]

theorem closedSelect_mirrors {depth other : Nat}
    (inner : Nested.Mirrors cut bound (nested .always depth) (nested .always other))
    (closes : endsSelect cut.stop.kind) :
    Mirrors cut 0 (bound + 1) (bound + 1) (closedSelect (nested .always (depth + 1)))
      (closedSelect (nested .always (other + 1)))
      (Prod.map (Select.relocate cut.move) (Span.relocate cut.move)) := by
  refine (select_mirrors inner (nested_failsAtEnd .always depth) closes).bind fun query => ?_
  refine (mirrors_expectSymbol _).here.bind fun closing => Mirrors.wide ?_
  exact mirrors_pure rfl

/-! ### All depths -/

/-- Where nothing of the part is left, what fails mirrors. -/
theorem mirrors_nothing {Value : Type} {expected : Expected} {parser other : Parser Value}
    {carry : Value → Value} (fails : FailsAtEnd expected parser)
    (otherFails : FailsAtEnd expected other) : Mirrors cut 0 0 0 parser other carry := by
  refine Mirrors.lift ?_ fails otherFails
  intro _ part _ some none
  exact absurd (Nat.le_trans some none) (Nat.not_succ_le_zero 0)

/-- Nested parsers that may look as deep as there are tokens of the part do the same. -/
theorem nested_mirrors
    (resolves : ∀ bound depth other, bound ≤ depth → bound ≤ other →
      Nested.Mirrors cut bound (nested .always depth) (nested .always other) →
        Resolves cut bound (nested .always depth) (nested .always other))
    (queries : ∀ bound depth other, bound ≤ depth → bound ≤ other →
      Nested.Mirrors cut bound (nested .always depth) (nested .always other) →
        Mirrors cut 0 (bound + 1) (bound + 1) (closedSelect (nested .always (depth + 1)))
          (closedSelect (nested .always (other + 1)))
          (Prod.map (Select.relocate cut.move) (Span.relocate cut.move)))
    (bound : Nat) :
    ∀ depth other, bound ≤ depth → bound ≤ other →
      Nested.Mirrors cut bound (nested .always depth) (nested .always other) := by
  induction bound with
  | zero =>
      intro depth other _ _
      have fails := nested_failsAtEnd .always depth
      have otherFails := nested_failsAtEnd .always other
      exact ⟨otherFails,
        fun minimum => mirrors_nothing (fails.expr minimum) (otherFails.expr minimum),
        mirrors_nothing fails.predicate otherFails.predicate,
        fun minimum => mirrors_nothing (fails.bitExpr minimum) (otherFails.bitExpr minimum),
        mirrors_nothing fails.simpleExpr otherFails.simpleExpr,
        mirrors_nothing (FailsAtEnd.bind fails.select) (FailsAtEnd.bind otherFails.select)⟩
  | succ bound ih =>
      intro depth other deep otherDeep
      obtain ⟨depth, rfl⟩ := Nat.exists_eq_succ_of_ne_zero (Nat.ne_zero_of_lt deep)
      obtain ⟨other, rfl⟩ := Nat.exists_eq_succ_of_ne_zero (Nat.ne_zero_of_lt otherDeep)
      have inner := ih depth other (by omega) (by omega)
      have resolved := resolves bound depth other (by omega) (by omega) inner
      exact ⟨nested_failsAtEnd .always _, expr_mirrors inner resolved, predicate_mirrors inner,
        bitExpr_mirrors inner, simpleExpr_mirrors inner,
        queries bound depth other (by omega) (by omega) inner⟩

end AnnotatedSql.Grammar.Parse
