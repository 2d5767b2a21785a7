/-
This file shows that the parsers of the clauses and of a whole SELECT take what the grammar
derives.
-/

import AnnotatedSql.Proofs.Grammar.Backtracking.Statement
import AnnotatedSql.Proofs.Grammar.Completeness.Expression

namespace AnnotatedSql.Grammar.Parse

open Precedence

variable {Result : Type} {bound : Nat} {nested : Nested} {token : Token}
  {tokens others : List Token} {follow : TokenKind → Bool} {finish : Result → List Token → Prop}
  {kind : TokenKind}

/-! ### Items of the select list -/

/-- What may follow an item of the select list. -/
def endsItem (kind : TokenKind) : Bool := kind == .symbol .comma || endsClause 0 kind

theorem endsItem.expr (ends : endsItem kind) : endsExpr kind := by
  rcases Bool.or_eq_true_iff.mp ends with comma | clause
  · rw [beq_iff_eq.mp comma]
    rfl
  · exact endsExpr_of_endsClause clause

theorem endsItem.unnamed (ends : endsItem kind) :
    kind.isName = false ∧ kind ≠ .keyword .AS := by
  rcases Bool.or_eq_true_iff.mp ends with comma | clause
  · rw [beq_iff_eq.mp comma]
    exact ⟨rfl, by decide⟩
  · unfold endsClause clauseRank at clause
    split at clause <;> first | exact ⟨rfl, by decide⟩ | exact absurd clause (by decide)

theorem label_ahead {itemLabel : Option Label} (derived : ItemLabel itemLabel tokens)
    (ahead : Ahead endsItem 0 tokens kind) : endsExpr kind := by
  cases derived with
  | absent => exact endsItem.expr ahead
  | @bare token name =>
      rw [← show kind = token.kind from ahead] at name
      exact endsExpr_of_isName name
  | led word => exact ahead_token word rfl kind ahead

theorem endsExpr.undotted (ends : endsExpr kind) : kind ≠ .symbol .dot := by
  intro dot
  rw [dot] at ends
  exact Bool.false_ne_true ends

theorem undotted_of_extendsExpr (extends' : extendsExpr kind) : kind ≠ .symbol .dot := by
  intro dot
  rw [dot] at extends'
  exact Bool.false_ne_true extends'

/-- Where some tokens come next, an operator comes first or there are none of them. -/
theorem extended_ahead (further : ∀ next ∈ tokens.head?, extendsExpr next.kind)
    (ahead : Ahead follow 0 (tokens ++ others) kind) :
    extendsExpr kind ∨ tokens = [] ∧ Ahead follow 0 others kind := by
  cases tokens with
  | nil => exact .inr ⟨rfl, ahead⟩
  | cons next rest =>
      rw [show kind = next.kind from ahead]
      exact .inl (further next rfl)

/-- No expression starts with a name, a dot and a star. -/
theorem expr_unstarred {second third : TokenKind} (expr : IsExpr (token :: tokens))
    (name : token.kind.isName) (ends : ∀ kind, Ahead follow 0 others kind → endsExpr kind)
    (next : Ahead follow 0 (tokens ++ others) second)
    (last : Ahead follow 1 (tokens ++ others) third) :
    ¬ (second = .symbol .dot ∧ third = .symbol .star) := by
  intro starred
  obtain ⟨dot, star⟩ := starred
  rcases expr_of_name expr name with found | ⟨opening, rest, rfl, opens⟩
  · obtain ⟨column, corner, tail, whole, derived, further⟩ := found
    cases derived with
    | plain =>
        obtain ⟨rfl, rfl⟩ := List.cons.inj whole
        rcases extended_ahead further next with operator | ⟨_, ahead⟩
        · exact undotted_of_extendsExpr operator dot
        · exact endsExpr.undotted (ends second ahead) dot
    | @owned _ _ column _ _ named =>
        obtain ⟨rfl, rfl⟩ := List.cons.inj whole
        rw [← show third = column.kind from last, star] at named
        exact Bool.false_ne_true named
  · rw [show second = opening.kind from next, opens] at dot
    exact absurd dot (by decide)

theorem exprItem_accepts {node : Expr} {itemLabel : Option Label} {before after : List Token}
    (inner : nested.Complete bound) (derived : DerivesWidely (.expr node) before)
    (labelled : ItemLabel itemLabel after) :
    Accepts bound (exprItem nested) (before ++ after) endsItem := by
  apply parses_offset_bind
  intro start
  apply (inner.whole derived).append_bind fun _ => label_ahead labelled
  intro value
  exact (itemLabel_accepts labelled fun _ => endsItem.unnamed).covered

theorem qualifiedShorthand_accepts {owner dot star : Token} (named : owner.kind.isName) :
    Accepts (bound + 1) qualifiedShorthand [owner, dot, star] follow := by
  apply parses_offset_bind
  intro start
  apply parses_label_bind named
  intro value
  apply Parses.here
  apply parses_advance_bind
  apply Parses.here
  apply parses_advance_bind
  exact parses_covered fun _ => rfl

theorem selectItem_accepts {item : SelectItem} (inner : nested.Complete bound)
    (derived : DerivesWidely (.selectItem item) tokens) :
    Accepts bound (selectItem nested) tokens endsItem := by
  apply parses_kindAhead_bind 0
  intro first ahead
  apply parses_kindAhead_bind 1
  intro second next
  apply parses_kindAhead_bind 2
  intro third last
  cases derived with
  | @shorthand operator star =>
      rw [if_pos (show first = .symbol .star from Eq.trans ahead star)]
      apply Parses.here
      apply parses_terminal_bind
      exact parses_pure rfl
  | @qualifiedShorthand owner dot star named dotted starred =>
      have second : second = .symbol .dot := Eq.trans next dotted
      have third : third = .symbol .star := Eq.trans last starred
      rw [← show first = owner.kind from ahead] at named
      have unstarred : first ≠ .symbol .star := by
        intro same
        rw [same] at named
        exact Bool.false_ne_true named
      rw [if_neg unstarred, named, decide_eq_true second, decide_eq_true third, Bool.and_self,
        Bool.and_self, if_pos rfl]
      rw [show first = owner.kind from ahead] at named
      exact (qualifiedShorthand_accepts named).here
  | @exprItem _ _ before after expr labelled =>
      have started : startsOperand first := expr.ahead rfl ahead
      have unstarred : first ≠ .symbol .star := by
        intro same
        rw [same] at started
        exact Bool.false_ne_true started
      obtain ⟨token, more, rfl⟩ := List.exists_cons_of_ne_nil (expr.nonempty rfl)
      have expression :
          ¬ (first.isName && second = .symbol .dot && third = .symbol .star) = true := by
        intro dotted
        simp only [Bool.and_eq_true, decide_eq_true_eq] at dotted
        rw [show first = token.kind from ahead] at dotted
        exact expr_unstarred ⟨_, expr⟩ dotted.1.1 (fun _ => label_ahead labelled) next last
          ⟨dotted.1.2, dotted.2⟩
      rw [if_neg unstarred, if_neg expression]
      exact exprItem_accepts inner expr labelled

theorem selectList_accepts {items : List SelectItem} (inner : nested.Complete bound)
    (derived : DerivesWidely (.selectItems items) tokens) :
    Accepts bound (selectList nested) tokens (endsClause 0) := by
  apply parses_offset_bind
  intro start
  have taken : Accepts bound (commaList (selectItem nested)) tokens (endsClause 0) := by
    have list := derives_selectItems_iff.mp derived
    apply (commaList_accepts (fun _ _ item => selectItem_accepts inner item) rfl list).narrow
    exact fun _ ends => endsList_of_endsClause ends (Bool.or_eq_true_iff.mpr (.inr ends))
  exact taken.covered

/-! ### Order items -/

/-- Whatever an order item sorts by can be read as an expression. -/
theorem isExpr_of_orderTarget {column : Option QualifiedName} {number : Option Span}
    {expr : Option Expr} (derived : DerivesWidely (.orderTarget column number expr) tokens) :
    IsExpr tokens := by
  cases derived with
  | orderColumn name => exact ⟨_, .primary (.predicate (.bitExpr (.simple (.column name))))⟩
  | orderNumber literal _ =>
      exact ⟨_, .primary (.predicate (.bitExpr (.simple (.literal literal))))⟩
  | orderExpr expr => exact ⟨_, expr⟩

theorem endsExpr_of_endsOrderItem (ends : endsOrderItem kind) : endsExpr kind := by
  unfold endsOrderItem at ends
  split at ends <;> first | rfl | exact absurd ends Bool.false_ne_true

theorem unordered_of_extendsExpr (operator : extendsExpr kind) : endsOrderItem kind = false := by
  unfold endsOrderItem
  split <;> first | rfl | exact absurd operator Bool.false_ne_true

/-- A name that is the whole item is taken as a column. -/
theorem orderColumn_taken (named : token.kind.isName)
    (taken : Accepts bound qualifiedName (token :: tokens) endsOrderItem) :
    Parses bound orderColumn? (token :: tokens) endsOrderItem fun value left =>
      value.isSome ∧ left = [] := by
  intro cursor few offers
  obtain ⟨value, after, consumed, left, run, whole, reads, rfl⟩ := taken cursor few offers
  rw [List.append_nil] at whole
  rw [whole] at offers
  have ends : endsOrderItem after.current.kind := by
    have ahead := reads.ahead 0
    rw [Nat.add_zero] at ahead
    rw [Cursor.current, ahead]
    exact offers.follow
  refine ⟨some value, after, consumed, [], ?_, ?_, reads, rfl, rfl⟩
  · rw [← whole] at offers
    rw [orderColumn_run, offers.current, if_pos named, run, afterName, if_pos ends]
  · rw [List.append_nil]
    exact whole

/-- A name behind which the item goes on is left. -/
theorem orderColumn_left {rest : Option QualifiedName → Parser Result}
    (named : token.kind.isName)
    (taken : Parses bound qualifiedName (token :: tokens) follow fun _ left =>
      ∀ kind, Ahead follow 0 left kind → endsOrderItem kind = false)
    (next : Parses bound (rest none) (token :: tokens) follow finish) :
    Parses bound (orderColumn? >>= rest) (token :: tokens) follow finish := by
  intro cursor few offers
  obtain ⟨value, later, consumed, left, run, whole, reads, further⟩ := taken cursor few offers
  have behind : later.Offers left follow := by
    rw [whole] at offers
    exact offers.after reads
  have continues := further _ (behind.ahead 0)
  change endsOrderItem later.current.kind = false at continues
  have place : Cursor.Offers { cursor with rejected := later.rejected } (token :: tokens) follow :=
    ⟨offers.unread, offers.follow⟩
  obtain ⟨result, after, taken, remains, lastRun, split, lastReads, held⟩ :=
    next { cursor with rejected := later.rejected } few place
  refine ⟨result, after, taken, remains, ?_, split,
    ⟨lastReads.unread, lastReads.ending, lastReads.lastStop⟩, held⟩
  rw [bind_run, orderColumn_run, offers.current, if_pos named, run, afterName, continues]
  exact lastRun

theorem orderColumn_absent {rest : Option QualifiedName → Parser Result}
    (unnamed : token.kind.isName = false)
    (next : Parses bound (rest none) (token :: tokens) follow finish) :
    Parses bound (orderColumn? >>= rest) (token :: tokens) follow finish := by
  intro cursor few offers
  obtain ⟨result, after, consumed, left, run, found⟩ := next cursor few offers
  refine ⟨result, after, consumed, left, ?_, found⟩
  rw [bind_run, orderColumn_run, offers.current, unnamed, if_neg Bool.false_ne_true]
  exact run

/-- An order item led by a name is a column or an expression. -/
theorem orderColumn_accepts {rest : Option QualifiedName → Parser Result}
    (expr : IsExpr (token :: tokens)) (named : token.kind.isName)
    (column : ∀ name, Parses bound (rest (some name)) [] endsOrderItem finish)
    (expression : Parses bound (rest none) (token :: tokens) endsOrderItem finish) :
    Parses bound (orderColumn? >>= rest) (token :: tokens) endsOrderItem finish := by
  rcases expr_of_name expr named with found | ⟨opening, others, rfl, opens⟩
  · obtain ⟨name, corner, tail, whole, derived, further⟩ := found
    have taken : Accepts bound qualifiedName corner (· != .symbol .dot) :=
      qualifiedName_accepts derived
    cases tail with
    | nil =>
        rw [List.append_nil] at whole
        rw [← whole] at taken
        have alone := orderColumn_taken named (taken.narrow fun _ ends =>
          bne_iff_ne.mpr (endsExpr.undotted (endsExpr_of_endsOrderItem ends)))
        apply alone.bind
        intro value left found
        obtain ⟨some, rfl⟩ := found
        obtain ⟨name, rfl⟩ := Option.isSome_iff_exists.mp some
        exact column name
    | cons next more =>
        have operator := further next rfl
        apply orderColumn_left named _ expression
        rw [whole]
        have undotted := bne_iff_ne.mpr (undotted_of_extendsExpr operator)
        apply (taken.append (ahead_token rfl undotted)).mono
        intro value left same kind ahead
        rw [same] at ahead
        rw [show kind = next.kind from ahead]
        exact unordered_of_extendsExpr operator
  · have taken : Accepts bound qualifiedName [token] (· != .symbol .dot) :=
      qualifiedName_accepts (.plain named)
    apply orderColumn_left named _ expression
    apply (taken.append (ahead_token opens rfl)).mono
    intro value left same kind ahead
    rw [same] at ahead
    rw [show kind = opening.kind from ahead, opens]
    rfl

/-- A number or a column that is the whole item is taken as such, and else an expression. -/
theorem orderTarget_accepts (inner : nested.Complete bound) (expr : IsExpr tokens) :
    Accepts bound (orderTarget nested) tokens endsOrderItem := by
  obtain ⟨node, derived⟩ := expr
  obtain ⟨token, rest, rfl⟩ := List.exists_cons_of_ne_nil (derived.nonempty rfl)
  have expression : Accepts bound
      (do let expr ← nested.expr 0
          return ((none, none, some expr) : Option QualifiedName × Option Span × Option Expr))
      (token :: rest) endsOrderItem := by
    have taken : Accepts bound (nested.expr 0) (token :: rest) endsOrderItem :=
      (inner.whole derived).narrow fun _ => endsExpr_of_endsOrderItem
    exact taken.bind fun _ _ none => parses_pure none
  apply parses_kindAhead_bind 0
  intro kind ahead
  apply parses_kindAhead_bind 1
  intro following next
  by_cases number : (kind = .number && endsOrderItem following) = true
  · rw [if_pos number]
    simp only [Bool.and_eq_true, decide_eq_true_eq] at number
    obtain ⟨found, ends⟩ := number
    rw [show kind = token.kind from ahead] at found
    rw [Ahead, ← List.append_nil rest] at next
    rcases extended_ahead (expr_of_number ⟨_, derived⟩ found) next with operator | ⟨rfl, _⟩
    · rw [unordered_of_extendsExpr operator] at ends
      exact absurd ends Bool.false_ne_true
    · apply Parses.here
      apply parses_terminal_bind
      exact parses_pure rfl
  · rw [if_neg number]
    cases named : token.kind.isName with
    | true =>
        exact orderColumn_accepts ⟨_, derived⟩ named (fun _ => parses_pure rfl) expression
    | false => exact orderColumn_absent named expression

/-- What may follow an order item. -/
def endsDirected (kind : TokenKind) : Bool := kind == .symbol .comma || endsClause 3 kind

theorem endsDirected.target (ends : endsDirected kind) : endsOrderItem kind := by
  rcases Bool.or_eq_true_iff.mp ends with comma | clause
  · rw [beq_iff_eq.mp comma]
    rfl
  · unfold endsClause clauseRank at clause
    split at clause <;> first | rfl | exact absurd clause (by decide)

theorem endsDirected.undirected (ends : endsDirected kind) :
    kind ≠ .keyword .ASC ∧ kind ≠ .keyword .DESC := by
  constructor <;> intro same <;> rw [same] at ends <;> exact Bool.false_ne_true ends

theorem direction_accepts {ascending descending : Option Span}
    (derived : DirectionWord ascending descending tokens) :
    Accepts bound direction tokens endsDirected := by
  apply Parses.here
  cases derived with
  | absent =>
      apply parses_keyword_absent
      · exact fun kind ends => (endsDirected.undirected ends).1
      · apply parses_keyword_absent
        · exact fun kind ends => (endsDirected.undirected ends).2
        · exact parses_pure rfl
  | ascending word => exact parses_keyword_present word (parses_pure rfl)
  | descending word =>
      apply parses_keyword_absent (ahead_ne word (by decide))
      exact parses_keyword_present word (parses_pure rfl)

theorem direction_ahead {ascending descending : Option Span}
    (derived : DirectionWord ascending descending tokens)
    (ahead : Ahead endsDirected 0 tokens kind) : endsOrderItem kind := by
  cases derived with
  | absent => exact endsDirected.target ahead
  | ascending word => exact ahead_token word rfl kind ahead
  | descending word => exact ahead_token word rfl kind ahead

theorem orderItem_accepts {item : OrderItem} (inner : nested.Complete bound)
    (derived : DerivesWidely (.orderItem item) tokens) :
    Accepts bound (orderItem nested) tokens endsDirected := by
  cases derived with
  | orderItem target directed =>
      apply parses_offset_bind
      intro start
      have taken := orderTarget_accepts inner (isExpr_of_orderTarget target)
      apply taken.append_bind fun _ => direction_ahead directed
      intro value
      exact (direction_accepts directed).covered

/-! ### Clauses -/

theorem endsClause.ne_keyword {rank : Nat} {word : Keyword} (ends : endsClause rank kind)
    (least : clauseRank (.keyword word) ≤ rank) : kind ≠ .keyword word := by
  intro same
  rw [same] at ends
  exact absurd (of_decide_eq_true ends) (Nat.not_lt.mpr least)

theorem tables_accepts {tables : Option NameList} (derived : Tables tables tokens) :
    Accepts bound tables? tokens (endsClause 1) := by
  apply Parses.here
  cases derived with
  | absent =>
      apply parses_atKind_absent
      · exact fun kind ends => endsClause.ne_keyword ends (by decide)
      · exact parses_pure rfl
  | @present _ _ names word list =>
      apply parses_atKind_present word
      apply parses_advance_bind
      have taken : Accepts bound nameList names (endsClause 1) := by
        apply (nameList_accepts list).narrow
        intro kind ends
        apply endsList_of_endsClause ends
        exact bne_iff_ne.mpr (endsExpr.undotted (endsExpr_of_endsClause ends))
      exact taken.bind fun _ _ none => parses_pure none

theorem conditionClause_accepts {word : Keyword} {clause : Option ConditionClause}
    (inner : nested.Complete bound) (derived : DerivesWidely (.condition word clause) tokens) :
    Accepts bound (conditionClause? nested word) tokens
      (endsClause (clauseRank (.keyword word))) := by
  apply Parses.here
  cases derived with
  | noCondition =>
      apply parses_atKind_absent
      · exact fun kind ends => endsClause.ne_keyword ends (Nat.le_refl _)
      · exact parses_pure rfl
  | condition opening expr =>
      apply parses_atKind_present opening
      apply parses_offset_bind
      intro start
      apply parses_advance_bind
      have taken : Accepts bound (nested.expr 0) _ (endsClause (clauseRank (.keyword word))) :=
        (inner.whole expr).narrow fun _ => endsExpr_of_endsClause
      exact taken.covered

theorem orderClause_accepts {word : Keyword} {clause : Option OrderClause}
    (inner : nested.Complete bound) (late : 3 ≤ clauseRank (.keyword word))
    (derived : DerivesWidely (.ordering word clause) tokens) :
    Accepts bound (orderClause? nested word) tokens (endsClause (clauseRank (.keyword word))) := by
  apply Parses.here
  cases derived with
  | noOrdering =>
      apply parses_atKind_absent
      · exact fun kind ends => endsClause.ne_keyword ends (Nat.le_refl _)
      · exact parses_pure rfl
  | @ordering _ _ _ _ listed opening byWord items =>
      apply parses_atKind_present opening
      apply parses_offset_bind
      intro start
      apply parses_advance_bind
      apply Parses.here
      apply parses_expectKeyword_bind byWord
      have taken : Accepts bound (commaList (orderItem nested)) listed
          (endsClause (clauseRank (.keyword word))) := by
        have list := derives_orderItems_iff.mp items
        apply (commaList_accepts (fun _ _ item => orderItem_accepts inner item) rfl list).narrow
        intro kind ends
        apply endsList_of_endsClause ends
        exact Bool.or_eq_true_iff.mpr (.inr (endsClause.mono ends late))
      exact taken.covered

/-! ### SELECT -/

theorem parses_distinct_bind {distinct : Option Span} {distinctTokens : List Token}
    {rest : Option Span → Parser Result} (word : DistinctWord distinct distinctTokens)
    (missing : ∀ kind, Ahead follow 0 tokens kind →
      kind ≠ .keyword .DISTINCT ∧ kind ≠ .keyword .ALL)
    (next : ∀ found, Parses bound (rest found) tokens follow finish) :
    Parses bound (distinct? >>= rest) (distinctTokens ++ tokens) follow finish := by
  rw [distinct?, bind_assoc]
  cases word with
  | absent =>
      apply parses_keyword_absent
      · exact fun kind ahead => (missing kind ahead).1
      · dsimp only
        rw [bind_assoc]
        apply parses_keyword_absent
        · exact fun kind ahead => (missing kind ahead).2
        · exact next none
  | distinct word =>
      apply Parses.here
      apply parses_keyword_present word
      exact next _
  | all word =>
      apply Parses.here
      apply parses_keyword_absent (ahead_ne word (by decide))
      dsimp only
      rw [bind_assoc]
      exact parses_keyword_present word (next none)

/-- Where a clause is missing, a later one comes or the SELECT ends. -/
theorem clause_ahead {rank : Nat} {word : Keyword}
    (led : ∀ first ∈ tokens.head?, first.kind = .keyword word)
    (ranked : clauseRank (.keyword word) = rank + 1)
    (after : ∀ kind, Ahead follow 0 others kind → endsClause (rank + 1) kind) :
    ∀ kind, Ahead follow 0 (tokens ++ others) kind → endsClause rank kind := by
  intro kind ahead
  cases tokens with
  | nil => exact endsClause.mono (after kind ahead) (Nat.le_succ rank)
  | cons first rest =>
      rw [show kind = first.kind from ahead, led first rfl, endsClause, ranked]
      exact decide_eq_true (Nat.lt_succ_self rank)

theorem Tables.led {tables : Option NameList} (derived : Tables tables tokens) :
    ∀ first ∈ tokens.head?, first.kind = .keyword .FROM := by
  intro first member
  cases derived with
  | absent => simp at member
  | present word =>
      obtain rfl := Option.some.inj member
      exact word

theorem Derives.condition_led {word : Keyword} {clause : Option ConditionClause}
    (derived : DerivesWidely (.condition word clause) tokens) :
    ∀ first ∈ tokens.head?, first.kind = .keyword word :=
  fun first member => beq_iff_eq.mp (derived.starts first member)

theorem Derives.ordering_led {word : Keyword} {clause : Option OrderClause}
    (derived : DerivesWidely (.ordering word clause) tokens) :
    ∀ first ∈ tokens.head?, first.kind = .keyword word :=
  fun first member => beq_iff_eq.mp (derived.starts first member)

theorem selectItems_ahead {items : List SelectItem}
    (derived : DerivesWidely (.selectItems items) tokens)
    (ahead : Ahead follow 0 (tokens ++ others) kind) :
    kind ≠ .keyword .DISTINCT ∧ kind ≠ .keyword .ALL := by
  have started := derived.ahead rfl ahead
  constructor <;> intro same <;> rw [same] at started <;> exact Bool.false_ne_true started

theorem select_accepts {node : Select} (inner : nested.Complete bound)
    (derived : DerivesWidely (.select node) tokens) :
    Accepts (bound + 1) (Parse.select nested) tokens (endsClause 5) := by
  cases derived with
  | @select _ _ _ _ _ _ _ _ itemTokens tableTokens conditionTokens groupingTokens havingTokens
      orderingTokens _ word distinct items tables condition grouping filter ordering =>
      have ordered (kind : TokenKind) (ahead : Ahead (endsClause 5) 0 orderingTokens kind) :
          endsClause 4 kind := by
        rw [← List.append_nil orderingTokens] at ahead
        have ended (kind : TokenKind) (ends : Ahead (endsClause 5) 0 [] kind) : endsClause 5 kind :=
          ends
        exact clause_ahead (Derives.ordering_led ordering) rfl ended kind ahead
      have filtered := clause_ahead (Derives.condition_led filter) rfl ordered
      have grouped := clause_ahead (Derives.ordering_led grouping) rfl filtered
      have conditioned := clause_ahead (Derives.condition_led condition) rfl grouped
      have listed := clause_ahead (Tables.led tables) rfl conditioned
      simp only [List.append_assoc, List.cons_append]
      apply parses_offset_bind
      intro start
      apply parses_expectKeyword_bind word
      apply parses_distinct_bind distinct fun _ => selectItems_ahead items
      intro found
      apply (selectList_accepts inner items).append_bind listed
      intro list
      apply (tables_accepts tables).append_bind conditioned
      intro names
      apply (conditionClause_accepts inner condition).append_bind grouped
      intro value
      apply (orderClause_accepts inner (by decide) grouping).append_bind filtered
      intro value
      apply (conditionClause_accepts inner filter).append_bind ordered
      intro value
      exact (orderClause_accepts inner (by decide) ordering).covered

/-! ### All levels -/

/-- At a place with no tokens left no phrase comes next. -/
theorem parses_atEnd {Value : Type} {parser : Parser Value} {holds : Value → List Token → Prop}
    (nonempty : tokens ≠ []) : Parses 0 parser tokens follow holds := by
  intro cursor few offers
  have position := offers.position
  have length := List.length_pos_iff.mpr nonempty
  omega

/-- At every depth the nested parsers take the phrases that have no more tokens than that. -/
theorem nested_complete (depth : Nat) : (Parse.nested .always depth).Complete depth := by
  induction depth with
  | zero =>
      constructor
      · intro minimum tokens chain
        obtain ⟨first, _, left, operand, _, rfl⟩ := Joined.split chain
        exact parses_atEnd fun none => operand.nonempty (List.append_eq_nil_iff.mp none).1
      · intro tokens predicate
        obtain ⟨node, derived⟩ := predicate
        exact parses_atEnd (derived.nonempty rfl)
      · intro minimum tokens joined
        obtain ⟨first, _, left, simple, _, rfl⟩ := Joined.split joined
        exact parses_atEnd fun none => simple.nonempty (List.append_eq_nil_iff.mp none).1
      · intro tokens simple
        exact parses_atEnd simple.nonempty
      · intro node tokens derived
        exact parses_atEnd (derived.nonempty rfl)
  | succ depth ih =>
      constructor
      · intro minimum tokens chain
        exact expr_accepts minimum ih chain
      · intro tokens predicate
        exact predicate_accepts ih predicate
      · intro minimum tokens joined
        exact bitExpr_accepts minimum ih joined
      · intro tokens simple
        exact simpleExpr_accepts ih simple
      · intro node tokens derived
        exact select_accepts ih derived

end AnnotatedSql.Grammar.Parse
