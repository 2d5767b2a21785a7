/-
This file shows that names, lists and function calls are parsed alike in a whole text and in a part
of it.
-/

import AnnotatedSql.Proofs.Grammar.Locality.Mirror

namespace AnnotatedSql.Grammar.Parse

variable {cut : Cut} {least bound : Nat} {first second : Nested}

/-! ### Names and lists -/

theorem isName_of_endsClause {kind : TokenKind} (ends : endsClause 1 kind) : kind.isName = false := by
  rcases kind_of_endsClause ends with rfl | rfl | rfl | rfl | rfl | rfl | rfl <;> rfl

theorem keyword_mirrors {word : Keyword} (notStop : endsClause 1 (.keyword word) = false) :
    Mirrors cut least bound bound (keyword? word) (keyword? word)
      (Option.map (Span.relocate cut.move)) := by
  refine mirrors_atKind_ite notStop ?_ (mirrors_pure rfl)
  exact (mirrors_terminal (Nat.le_max_right ..)).here.bind fun span => mirrors_pure rfl

theorem identifier_failsAtEnd : FailsAtEnd .identifier identifier := by
  intro cursor atEnd
  have run : Parse.current cursor = (.ok cursor.current, cursor) := rfl
  have ending : cursor.current.kind = .endOfInput := atEnd.ahead 0
  rw [identifier, bind_look run, ending]

theorem identifier_mirrors :
    Mirrors cut least (bound + 1) bound identifier identifier (Identifier.relocate cut.move) := by
  refine (Mirrors.lift ?_ identifier_failsAtEnd identifier_failsAtEnd).anywhere
  refine mirrors_current_bind (Nat.le_refl 1) fun token own alike => ?_
  have takes (word : Option Span) :
      Mirrors cut 1 (bound + 1) bound
        (advance >>= fun _ => pure (⟨token.span, word.map (Span.relocate cut.move)⟩ : Identifier))
        (advance >>= fun _ => pure ⟨own.span, word⟩) (Identifier.relocate cut.move) := by
    refine (mirrors_advance (Nat.le_refl 1)).bind fun _ => mirrors_pure ?_
    rw [alike.span]
    rfl
  rw [alike.kind]
  cases own.kind with
  | identifier | quotedIdentifier => exact takes none
  | keyword word =>
      refine mirrors_ite (fun _ => ?_) fun _ => mirrors_fail _
      have taken := takes (some own.span)
      rw [Option.map_some, ← alike.span] at taken
      exact taken
  | _ => exact mirrors_fail _

theorem label_mirrors :
    Mirrors cut least (bound + 1) bound label label (Label.relocate cut.move) :=
  identifier_mirrors.bind fun _ => mirrors_pure rfl

theorem qualifiedName_failsAtEnd : FailsAtEnd .identifier qualifiedName :=
  FailsAtEnd.after_offset fun _ => identifier_failsAtEnd.bind

theorem qualifiedName_mirrors :
    Mirrors cut least (bound + 1) bound qualifiedName qualifiedName
      (QualifiedName.relocate cut.move) := by
  refine (Mirrors.lift ?_ qualifiedName_failsAtEnd qualifiedName_failsAtEnd).anywhere
  refine mirrors_offset_bind (Nat.le_refl 1) fun start => identifier_mirrors.bind fun owner => ?_
  have plain (least : Nat) : Mirrors cut least bound bound
      (pure (⟨(owner.relocate cut.move).span, none, owner.relocate cut.move⟩ : QualifiedName))
      (pure ⟨owner.span, none, owner⟩) (QualifiedName.relocate cut.move) := mirrors_pure rfl
  refine mirrors_atKind_bind rfl ?_ ?_
  · refine mirrors_kindAhead_bind (Nat.le_refl 1) (fun kind enough _ some => ?_) fun kind ends => ?_
    · refine mirrors_ite (fun _ => ?_) fun _ => plain enough
      refine (mirrors_advance some).here.bind fun _ => ?_
      refine identifier_mirrors.here.bind fun name => ?_
      exact (mirrors_spanFrom start).bind fun span => mirrors_pure rfl
    · rw [isName_of_endsClause ends]
      rfl
  · exact mirrors_kindAhead_bind_of_blind fun _ _ => plain 0

theorem itemLabel_mirrors :
    Mirrors cut least bound bound itemLabel? itemLabel? (Option.map (Label.relocate cut.move)) := by
  refine mirrors_atKind_ite rfl ?_ ?_
  · refine (mirrors_advance (Nat.le_max_right ..)).here.bind fun _ => ?_
    exact label_mirrors.here.bind fun name => mirrors_pure rfl
  · refine mirrors_kindAhead_bind (Nat.zero_le _) (fun kind enough _ _ => ?_) fun kind ends => ?_
    · refine mirrors_ite (fun _ => ?_) fun _ => mirrors_pure rfl
      exact label_mirrors.here.bind fun name => mirrors_pure rfl
    · rw [isName_of_endsClause ends]
      rfl

theorem commaListUpTo_mirrors {Item : Type} {item other : Parser Item} {carry : Item → Item}
    (each : Mirrors cut 0 bound bound item other carry) {size rounds : Nat} (few : size ≤ bound)
    (enough : size ≤ rounds) :
    Mirrors cut 0 size size (commaListUpTo item rounds) (commaListUpTo other size)
      (List.map carry) := by
  induction size generalizing rounds with
  | zero =>
      cases rounds with
      | zero => exact (each.fewer few).bind fun node => mirrors_pure rfl
      | succ rounds =>
          refine (each.fewer few).bind fun node => ?_
          exact mirrors_atKind_atEnd rfl (mirrors_pure rfl)
  | succ size ih =>
      obtain ⟨rounds, rfl⟩ := Nat.exists_eq_succ_of_ne_zero (Nat.ne_zero_of_lt enough)
      refine (each.fewer few).bind fun node => mirrors_atKind_ite rfl ?_ (mirrors_pure rfl)
      refine (mirrors_advance (Nat.le_max_right ..)).bind fun _ => ?_
      refine (ih (by omega) (by omega)).bind fun others => Mirrors.wide ?_
      exact mirrors_pure rfl

theorem commaList_mirrors {Item : Type} {item other : Parser Item} {carry : Item → Item}
    (each : Mirrors cut 0 bound bound item other carry) :
    Mirrors cut 0 bound bound (commaList item) (commaList other) (List.map carry) := by
  refine mirrors_remaining_bind fun size few rounds enough => ?_
  exact (commaListUpTo_mirrors each few enough).mono (Nat.le_refl _) (Nat.le_refl _) few

theorem commaList_failsAtEnd {Item : Type} {item : Parser Item} {expected : Expected}
    (fails : FailsAtEnd expected item) : FailsAtEnd expected (commaList item) := by
  refine FailsAtEnd.after_remaining fun rounds => ?_
  cases rounds <;> exact fails.bind

theorem nameList_mirrors :
    Mirrors cut 0 bound bound nameList nameList (NameList.relocate cut.move) := by
  have fails : FailsAtEnd .identifier nameList :=
    FailsAtEnd.after_offset fun _ => (commaList_failsAtEnd qualifiedName_failsAtEnd).bind
  refine Mirrors.lift (mirrors_offset_bind (Nat.le_refl 1) fun start => ?_) fails fails
  refine (commaList_mirrors qualifiedName_mirrors.here).anywhere.bind fun names => ?_
  exact (mirrors_spanFrom start).bind fun span => mirrors_pure rfl

/-! ### Data types -/

theorem skipIdentifiers_mirrors {size rounds : Nat} (enough : size ≤ rounds) :
    Mirrors cut least size size (skipIdentifiers rounds) (skipIdentifiers size) id := by
  induction size generalizing rounds least with
  | zero =>
      cases rounds with
      | zero => exact mirrors_pure rfl
      | succ rounds => exact mirrors_atKind_atEnd rfl (mirrors_pure rfl)
  | succ size ih =>
      obtain ⟨rounds, rfl⟩ := Nat.exists_eq_succ_of_ne_zero (Nat.ne_zero_of_lt enough)
      refine mirrors_atKind_ite rfl ?_ (mirrors_pure rfl)
      exact ((mirrors_advance (Nat.le_max_right ..)).bind fun _ => ih (by omega)).wide

theorem dataTypeLength_mirrors (some : 1 ≤ least) :
    Mirrors cut least bound bound dataTypeLength dataTypeLength id := by
  refine (mirrors_advance some).here.bind fun _ => ?_
  refine mirrors_expectNumber.here.bind fun length => ?_
  have closes : Mirrors cut 0 bound bound
      (do let _ ← expectSymbol .rightParen) (do let _ ← expectSymbol .rightParen) id :=
    (mirrors_expectSymbol _).here.bind fun _ => mirrors_pure rfl
  refine mirrors_atKind_ite rfl ?_ closes
  refine (mirrors_advance (Nat.le_max_right ..)).here.bind fun _ => ?_
  exact mirrors_expectNumber.here.bind fun scale => closes

theorem dataType_failsAtEnd : FailsAtEnd .dataType dataType :=
  FailsAtEnd.after_offset fun _ => FailsAtEnd.after_atKind failsAtEnd_fail

theorem dataType_mirrors :
    Mirrors cut 0 bound bound dataType dataType (DataType.relocate cut.move) := by
  refine Mirrors.lift ?_ dataType_failsAtEnd dataType_failsAtEnd
  refine mirrors_offset_bind (Nat.le_refl 1) fun start => ?_
  refine mirrors_atKind_ite rfl ?_ (mirrors_fail _)
  refine mirrors_remaining_bind fun size few rounds enough => ?_
  refine ((skipIdentifiers_mirrors enough).mono (Nat.le_refl _) (Nat.le_refl _) few).bind fun _ => ?_
  refine (mirrors_spanFrom start).bind fun name => ?_
  have covers : Mirrors cut 0 bound bound
      (do let span ← spanFrom (cut.move start)
          return (⟨span, name.relocate cut.move⟩ : DataType))
      (do let span ← spanFrom start; return ⟨span, name⟩) (DataType.relocate cut.move) :=
    (mirrors_spanFrom start).bind fun span => mirrors_pure rfl
  refine mirrors_atKind_ite rfl ?_ covers
  exact (dataTypeLength_mirrors (Nat.le_max_right ..)).bind fun _ => covers

/-! ### Calls -/

theorem subquery_failsAtEnd (nested : Nested) :
    FailsAtEnd (.token (.symbol .leftParen)) (subquery nested) :=
  FailsAtEnd.after_offset fun _ => (failsAtEnd_expectSymbol _).bind

theorem subquery_eq (nested : Nested) :
    subquery nested = do
      let start ← offset
      let leftParen ← expectSymbol .leftParen
      let closed ← closedSelect nested
      let span ← spanFrom start
      return ⟨span, leftParen, closed.1, closed.2⟩ := by
  simp only [subquery, closedSelect, bind_assoc, pure_bind]

theorem subquery_mirrors (inner : Nested.Mirrors cut bound first second) :
    Mirrors cut least (bound + 1) bound (subquery first) (subquery second)
      (Subquery.relocate cut.move) := by
  refine (Mirrors.lift ?_ (subquery_failsAtEnd _) (subquery_failsAtEnd _)).anywhere
  rw [subquery_eq, subquery_eq]
  refine mirrors_offset_bind (Nat.le_refl 1) fun start => ?_
  refine (mirrors_expectSymbol _).bind fun opening => inner.closedSelect.bind fun closed => ?_
  exact (mirrors_spanFrom start).bind fun span => mirrors_pure rfl

theorem exprList_mirrors (inner : Nested.Mirrors cut bound first second) :
    Mirrors cut 0 bound bound (exprList first) (exprList second)
      (List.map (Expr.relocate cut.move)) :=
  commaList_mirrors (inner.expr 0)

theorem argumentsUpTo_mirrors (inner : Nested.Mirrors cut bound first second) {size rounds : Nat}
    (few : size ≤ bound) (enough : size ≤ rounds) :
    Mirrors cut 0 size size (argumentsUpTo first rounds) (argumentsUpTo second size)
      (List.map (AggregationArgument.relocate cut.move)) := by
  induction size generalizing rounds with
  | zero =>
      cases rounds with
      | zero => exact ((inner.expr 0).fewer few).bind fun node => mirrors_pure rfl
      | succ rounds =>
          refine ((inner.expr 0).fewer few).bind fun node => ?_
          exact mirrors_atKind_atEnd rfl (mirrors_pure rfl)
  | succ size ih =>
      obtain ⟨rounds, rfl⟩ := Nat.exists_eq_succ_of_ne_zero (Nat.ne_zero_of_lt enough)
      refine ((inner.expr 0).fewer few).bind fun node => ?_
      refine mirrors_atKind_ite rfl ?_ (mirrors_pure rfl)
      refine (mirrors_terminal (Nat.le_max_right ..)).bind fun comma => ?_
      refine (ih (by omega) (by omega)).bind fun others => Mirrors.wide ?_
      exact mirrors_pure rfl

theorem argumentsUpTo_failsAtEnd {nested : Nested} (fails : nested.FailsAtEnd) (rounds : Nat) :
    FailsAtEnd .expression (argumentsUpTo nested rounds) := by
  cases rounds <;> exact FailsAtEnd.bind (fails.expr 0)

theorem aggregationArguments_mirrors (inner : Nested.Mirrors cut bound first second) :
    Mirrors cut 0 bound bound (aggregationArguments first) (aggregationArguments second)
      (List.map (AggregationArgument.relocate cut.move)) := by
  refine mirrors_atKind_ite rfl ?_ ?_
  · exact (mirrors_terminal (Nat.le_max_right ..)).here.bind fun star => mirrors_pure rfl
  · have fails := FailsAtEnd.after_remaining (argumentsUpTo_failsAtEnd inner.fails)
    refine mirrors_atKind_ite_of_fails nofun (mirrors_pure rfl) ?_ fails
    refine mirrors_remaining_bind fun size few rounds enough => ?_
    exact (argumentsUpTo_mirrors inner few enough).mono (Nat.le_refl _) (Nat.le_refl _) few

theorem aggregationCall_mirrors (inner : Nested.Mirrors cut bound first second)
    (some : 1 ≤ least) :
    Mirrors cut least (bound + 1) bound (aggregationCall first) (aggregationCall second)
      (AggregationCall.relocate cut.move) := by
  refine mirrors_offset_bind some fun start => (mirrors_terminal some).bind fun name => ?_
  refine (mirrors_expectSymbol _).here.bind fun opening => ?_
  refine (keyword_mirrors rfl).bind fun distinct => ?_
  refine (aggregationArguments_mirrors inner).bind fun arguments => ?_
  refine (mirrors_expectSymbol _).here.bind fun closing => ?_
  refine (mirrors_spanFrom start).bind fun span => mirrors_pure ?_
  simp [AggregationCall.relocate]

theorem castCall_mirrors (inner : Nested.Mirrors cut bound first second) (some : 1 ≤ least) :
    Mirrors cut least (bound + 1) bound (castCall first) (castCall second)
      (CastCall.relocate cut.move) := by
  refine mirrors_offset_bind some fun start => (mirrors_advance some).bind fun _ => ?_
  refine (mirrors_expectSymbol _).here.bind fun opening => (inner.expr 0).bind fun operand => ?_
  refine (mirrors_expectKeyword _).here.bind fun word => dataType_mirrors.bind fun target => ?_
  refine (mirrors_expectSymbol _).here.bind fun closing => ?_
  exact (mirrors_spanFrom start).bind fun span => mirrors_pure rfl

theorem argumentAfter_mirrors (inner : Nested.Mirrors cut bound first second) {word : Keyword}
    (notStop : endsClause 1 (.keyword word) = false) :
    Mirrors cut 0 bound bound (argumentAfter? first word) (argumentAfter? second word)
      (Option.map (Expr.relocate cut.move)) := by
  have takes : Mirrors cut 1 bound bound
      (do advance; let argument ← first.expr 0; return some argument)
      (do advance; let argument ← second.expr 0; return some argument)
      (Option.map (Expr.relocate cut.move)) := by
    refine (mirrors_advance (Nat.le_refl 1)).here.bind fun _ => ?_
    exact (inner.expr 0).bind fun node => mirrors_pure rfl
  refine mirrors_atKind_bind notStop ?_ ?_
  · refine mirrors_atKind_bind rfl ?_ ?_
    · exact takes
    · exact takes
  · refine mirrors_atKind_bind rfl ?_ ?_
    · exact takes
    · exact mirrors_pure rfl

theorem substringCall_mirrors (inner : Nested.Mirrors cut bound first second) (some : 1 ≤ least) :
    Mirrors cut least (bound + 1) bound (substringCall first) (substringCall second)
      (SpecialCall.relocate cut.move) := by
  refine mirrors_offset_bind some fun start => (mirrors_advance some).bind fun _ => ?_
  refine (mirrors_expectSymbol _).here.bind fun opening => (inner.expr 0).bind fun source => ?_
  refine (argumentAfter_mirrors inner rfl).bind fun from? => ?_
  have closes (third : Option Expr) : Mirrors cut 0 bound bound
      (do let _ ← expectSymbol .rightParen; let span ← spanFrom (cut.move start)
          return SpecialCall.substring span
            (source.relocate cut.move :: (from?.map (Expr.relocate cut.move)).toList ++
              (third.map (Expr.relocate cut.move)).toList))
      (do let _ ← expectSymbol .rightParen; let span ← spanFrom start
          return SpecialCall.substring span (source :: from?.toList ++ third.toList))
      (SpecialCall.relocate cut.move) := by
    refine (mirrors_expectSymbol _).here.bind fun _ => (mirrors_spanFrom start).bind fun _ => ?_
    exact mirrors_pure (by simp [SpecialCall.relocate, Option.toList_map])
  cases from? with
  | none => exact closes none
  | some found => exact (argumentAfter_mirrors inner rfl).bind closes

theorem extractCall_mirrors (inner : Nested.Mirrors cut bound first second) (some : 1 ≤ least) :
    Mirrors cut least (bound + 1) bound (extractCall first) (extractCall second)
      (SpecialCall.relocate cut.move) := by
  refine mirrors_offset_bind some fun start => (mirrors_advance some).bind fun _ => ?_
  refine (mirrors_expectSymbol _).here.bind fun opening => ?_
  refine identifier_mirrors.here.bind fun field => ?_
  refine (mirrors_expectKeyword _).here.bind fun word => (inner.expr 0).bind fun source => ?_
  refine (mirrors_expectSymbol _).here.bind fun closing => ?_
  exact (mirrors_spanFrom start).bind fun span => mirrors_pure rfl

theorem skipTrimSide_mirrors : Mirrors cut least bound bound skipTrimSide skipTrimSide id := by
  refine mirrors_kindAhead_bind (Nat.zero_le _) (fun kind enough some _ => ?_) fun kind ends => ?_
  · split
    case h_4 => exact mirrors_pure rfl
    all_goals exact (mirrors_advance (some nofun)).here
  · rcases kind_of_endsClause ends with rfl | rfl | rfl | rfl | rfl | rfl | rfl <;> rfl

theorem trimmed_mirrors (inner : Nested.Mirrors cut bound first second) :
    Mirrors cut 0 bound bound (trimmed? first) (trimmed? second)
      (Option.map (Expr.relocate cut.move)) := by
  refine mirrors_kindAhead_bind_of_fails (fun kind enough _ _ => ?_)
    (FailsAtEnd.bind (inner.fails.expr 0))
  split
  · exact mirrors_pure rfl
  · exact mirrors_pure rfl
  · have taken : Mirrors cut 0 bound bound (do let argument ← first.expr 0; return some argument)
        (do let argument ← second.expr 0; return some argument)
        (Option.map (Expr.relocate cut.move)) :=
      (inner.expr 0).bind fun node => mirrors_pure rfl
    exact taken.anywhere

theorem trimSource_mirrors (inner : Nested.Mirrors cut bound first second) :
    Mirrors cut 0 bound bound (trimSource? first) (trimSource? second)
      (Option.map (Expr.relocate cut.move)) := by
  refine mirrors_atKind_ite rfl ?_ (mirrors_pure rfl)
  refine (mirrors_advance (Nat.le_max_right ..)).here.bind fun _ => ?_
  exact (inner.expr 0).bind fun node => mirrors_pure rfl

theorem trimCall_mirrors (inner : Nested.Mirrors cut bound first second) (some : 1 ≤ least) :
    Mirrors cut least (bound + 1) bound (trimCall first) (trimCall second)
      (SpecialCall.relocate cut.move) := by
  refine mirrors_offset_bind some fun start => (mirrors_advance some).bind fun _ => ?_
  refine (mirrors_expectSymbol _).here.bind fun opening => skipTrimSide_mirrors.bind fun _ => ?_
  refine (trimmed_mirrors inner).bind fun trimmed => ?_
  refine (trimSource_mirrors inner).bind fun source => ?_
  refine (mirrors_expectSymbol _).here.bind fun closing => ?_
  refine (mirrors_spanFrom start).bind fun span => mirrors_pure ?_
  simp [SpecialCall.relocate, Option.toList_map]

theorem regularArguments_mirrors (inner : Nested.Mirrors cut bound first second) :
    Mirrors cut 0 bound bound (regularArguments first) (regularArguments second)
      (Prod.map (List.map (Expr.relocate cut.move)) (Option.map (Span.relocate cut.move))) := by
  refine mirrors_atKind_ite rfl ?_ ?_
  · exact (mirrors_terminal (Nat.le_max_right ..)).here.bind fun star => mirrors_pure rfl
  · have fails : FailsAtEnd .expression (exprList second) :=
      commaList_failsAtEnd (inner.fails.expr 0)
    refine mirrors_atKind_ite_of_fails nofun (mirrors_pure rfl) ?_ fails.bind
    exact (exprList_mirrors inner).bind fun arguments => mirrors_pure rfl

theorem regularCall_mirrors (inner : Nested.Mirrors cut bound first second) (some : 1 ≤ least) :
    Mirrors cut least (bound + 1) bound (regularCall first) (regularCall second)
      (RegularCall.relocate cut.move) := by
  refine mirrors_offset_bind some fun start => identifier_mirrors.bind fun name => ?_
  refine (mirrors_expectSymbol _).here.bind fun opening => ?_
  refine (regularArguments_mirrors inner).bind fun nodes => ?_
  refine (mirrors_expectSymbol _).here.bind fun closing => ?_
  refine (mirrors_spanFrom start).bind fun span => mirrors_pure ?_
  simp [RegularCall.relocate]

end AnnotatedSql.Grammar.Parse
