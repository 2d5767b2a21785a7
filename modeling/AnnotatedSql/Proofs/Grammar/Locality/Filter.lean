/-
This file takes a SELECT apart around one of its conditions: what is parsed in front of the clause is
found alike in front of any other text of the clause, and what is parsed behind it, too.
-/

import AnnotatedSql.Proofs.Grammar.Locality.Fragment
import AnnotatedSql.Proofs.Grammar.PartPlace

namespace AnnotatedSql.Grammar

/-! ### The clauses around a condition -/

/-- The clauses that hold a condition: on rows, behind WHERE, and on groups, behind HAVING. -/
inductive Filter
  | rows
  | groups
deriving DecidableEq, Repr

def Filter.word : Filter → Keyword
  | .rows => .WHERE
  | .groups => .HAVING

/-- The clause of the SELECT. -/
def Select.filter (tree : Select) : Filter → Option ConditionClause
  | .rows => tree.condition
  | .groups => tree.having

/-- What stands in front of a condition; the last two parts stand only in front of one on groups. -/
@[ext]
structure Head where
  distinct : Option Span
  selectList : SelectList
  tables : Option NameList
  condition : Option ConditionClause
  grouping : Option OrderClause

/-- What stands behind a condition; the first two parts stand only behind one on rows. -/
@[ext]
structure Tail where
  grouping : Option OrderClause
  having : Option ConditionClause
  ordering : Option OrderClause

def Head.relocate (move : Nat → Nat) (head : Head) : Head :=
  ⟨head.distinct.map (Span.relocate move), head.selectList.relocate move,
    head.tables.map (NameList.relocate move), head.condition.map (ConditionClause.relocate move),
    head.grouping.map (OrderClause.relocate move)⟩

def Tail.relocate (move : Nat → Nat) (tail : Tail) : Tail :=
  ⟨tail.grouping.map (OrderClause.relocate move), tail.having.map (ConditionClause.relocate move),
    tail.ordering.map (OrderClause.relocate move)⟩

/-- The parts of the clauses behind a condition. -/
def Tail.parts (tail : Tail) : List Part :=
  OrderClause.partsIn tail.grouping ++ ConditionClause.partsIn tail.having ++
    OrderClause.partsIn tail.ordering

/-- The SELECT with the given clause between its parts. -/
def Filter.assemble (filter : Filter) (span : Span) (head : Head) (clause : Option ConditionClause)
    (tail : Tail) : Select :=
  match filter with
  | .rows => ⟨span, head.distinct, head.selectList, head.tables, clause, tail.grouping, tail.having,
      tail.ordering⟩
  | .groups => ⟨span, head.distinct, head.selectList, head.tables, head.condition, head.grouping,
      clause, tail.ordering⟩

/-- The SELECT that ends in front of the clause. -/
def Filter.alone (filter : Filter) (span : Span) (head : Head) : Select :=
  filter.assemble span head none ⟨none, none, none⟩

/-- How many clauses stand in front. -/
def Filter.rank : Filter → Nat
  | .rows => 1
  | .groups => 3

/-- The parts around a clause do not depend on the spans of the SELECT and of the clause. -/
theorem Filter.assemble_spans {filter : Filter} {span other place another : Span}
    {head front : Head} {node inner : Expr} {tail behind : Tail}
    (same : filter.assemble span head (some ⟨place, node⟩) tail =
      filter.assemble other front (some ⟨another, inner⟩) behind) (own clause : Span) :
    node = inner ∧ filter.assemble own head (some ⟨clause, node⟩) tail =
      filter.assemble own front (some ⟨clause, inner⟩) behind := by
  cases filter <;>
    simp only [assemble, Select.mk.injEq, Option.some.injEq, ConditionClause.mk.injEq] at same ⊢ <;>
      simp only [same, and_self]

/-! ### Clauses that move -/

theorem Filter.relocate_assemble (filter : Filter) (span : Span) (head : Head)
    (clause : Option ConditionClause) (tail : Tail) (move : Nat → Nat) :
    (filter.assemble span head clause tail).relocate move =
      filter.assemble (span.relocate move) (head.relocate move)
        (clause.map (ConditionClause.relocate move)) (tail.relocate move) := by
  cases filter <;> simp [Filter.assemble, Select.relocate, Head.relocate, Tail.relocate]

theorem Head.relocate_relocate (head : Head) (move further : Nat → Nat) :
    (head.relocate move).relocate further = head.relocate (further ∘ move) := by
  have whole := (Filter.groups.alone ⟨0, 0⟩ head).relocate_relocate move further
  rw [Filter.alone, Filter.relocate_assemble, Filter.relocate_assemble,
    Filter.relocate_assemble] at whole
  obtain ⟨_, distinct, list, tables, condition, grouping, _⟩ := Select.mk.inj whole
  exact Head.ext distinct list tables condition grouping

theorem Tail.relocate_relocate (tail : Tail) (move further : Nat → Nat) :
    (tail.relocate move).relocate further = tail.relocate (further ∘ move) := by
  have whole := (Filter.rows.assemble ⟨0, 0⟩ ⟨none, ⟨⟨0, 0⟩, []⟩, none, none, none⟩ none tail
    ).relocate_relocate move further
  rw [Filter.relocate_assemble, Filter.relocate_assemble, Filter.relocate_assemble] at whole
  obtain ⟨_, _, _, _, _, grouping, having_, ordering⟩ := Select.mk.inj whole
  exact Tail.ext grouping having_ ordering

namespace Parse

/-- `SELECT (DISTINCT | ALL)? items (FROM tables)?` -/
def front (nested : Nested) : Parser Head := do
  let _ ← expectKeyword .SELECT
  let distinct ← distinct?
  let selectList ← selectList nested
  let tables ← tables?
  return ⟨distinct, selectList, tables, none, none⟩

/-- Parses what stands in front of a condition. -/
def head (nested : Nested) : Filter → Parser Head
  | .rows => front nested
  | .groups => do
      let front ← front nested
      let condition ← conditionClause? nested .WHERE
      let grouping ← orderClause? nested .GROUP
      return { front with condition := condition, grouping := grouping }

/-- Parses what stands behind a condition. -/
def tail (nested : Nested) : Filter → Parser Tail
  | .rows => do
      let grouping ← orderClause? nested .GROUP
      let having ← conditionClause? nested .HAVING
      let ordering ← orderClause? nested .ORDER
      return ⟨grouping, having, ordering⟩
  | .groups => do
      let ordering ← orderClause? nested .ORDER
      return ⟨none, none, ordering⟩

theorem select_eq (nested : Nested) (filter : Filter) :
    select nested = do
      let start ← offset
      let head ← head nested filter
      let clause ← conditionClause? nested filter.word
      let tail ← tail nested filter
      let span ← spanFrom start
      return filter.assemble span head clause tail := by
  cases filter <;>
    simp only [select, head, front, tail, Filter.word, Filter.assemble, bind_assoc, pure_bind]

variable {tokens : List Token} {filter : Filter}

/-! ### What the parts derive -/

section
variable {nested : Nested}

/-- What stands in front of WHERE, with the next two clauses behind it. -/
theorem front_finds (inner : nested.Sound) :
    Finds (front nested) fun found tokens =>
      ∀ condition grouping filtered grouped, DerivesWidely (.condition .WHERE condition) filtered →
        DerivesWidely (.ordering .GROUP grouping) grouped →
          DerivesWidely (.select (Filter.groups.alone (cover (tokens ++ filtered ++ grouped))
            ⟨found.distinct, found.selectList, found.tables, condition, grouping⟩))
            (tokens ++ filtered ++ grouped) := by
  intro cursor ends
  simp only [front, ensures_bind, ensures_expectKeyword, ensures_pure]
  intro word
  have readsWord := Cursor.reads_advance_of_kind ends word (by decide)
  have ends := readsWord.ends ends
  refine (distinct_finds ends).mono ?_
  intro distinct _ taken
  obtain ⟨_, readsDistinct, distinguished⟩ := taken
  have ends := readsDistinct.ends ends
  refine (selectList_finds inner ends).mono ?_
  intro _ _ taken
  obtain ⟨_, readsItems, items, rfl, derivedItems⟩ := taken
  refine (tables_finds (readsItems.ends ends)).mono ?_
  intro tables _ taken
  obtain ⟨_, readsTables, fromTables⟩ := taken
  refine ⟨_, ((readsWord.trans readsDistinct).trans readsItems).trans readsTables, ?_⟩
  intro condition grouping filtered grouped derivedCondition derivedGrouping
  have derived := Derives.select word distinguished derivedItems fromTables derivedCondition
    derivedGrouping .noCondition .noOrdering
  simp only [List.append_nil, List.append_assoc, List.cons_append, List.nil_append] at derived ⊢
  exact derived

theorem head_finds (inner : nested.Sound) :
    Finds (head nested filter) fun found tokens =>
      DerivesWidely (.select (filter.alone (cover tokens) found)) tokens := by
  intro cursor ends
  cases filter with
  | rows =>
      refine (front_finds inner ends).mono ?_
      rintro found _ ⟨_, reads, derived⟩
      have alone := derived none none [] [] .noCondition .noOrdering
      rw [List.append_nil, List.append_nil] at alone
      exact ⟨_, reads, alone⟩
  | groups =>
      simp only [head, ensures_bind, ensures_pure]
      refine (front_finds inner ends).mono ?_
      rintro found _ ⟨_, readsFront, derived⟩
      have ends := readsFront.ends ends
      refine (conditionClause_finds inner .WHERE ends).mono ?_
      rintro condition _ ⟨_, readsCondition, derivedCondition⟩
      refine (orderClause_finds inner .GROUP (readsCondition.ends ends)).mono ?_
      rintro grouping _ ⟨_, readsGrouping, derivedGrouping⟩
      exact ⟨_, (readsFront.trans readsCondition).trans readsGrouping,
        derived _ _ _ _ derivedCondition derivedGrouping⟩

/-- A clause comes, or what follows it. -/
theorem last_clause_ahead {rank : Nat} {word : Keyword}
    (led : ∀ first ∈ tokens.head?, first.kind = .keyword word)
    (ranked : clauseRank (.keyword word) = rank + 1) :
    ∀ kind, Ahead (endsClause (rank + 1)) 0 tokens kind → endsClause rank kind := by
  have ends (kind : TokenKind) (ahead : Ahead (endsClause (rank + 1)) 0 [] kind) :
      endsClause (rank + 1) kind := ahead
  have found := clause_ahead led ranked ends
  rwa [List.append_nil] at found

/-- Behind a condition only the later clauses come, with parts that stand in their tokens. -/
theorem tail_finds (inner : nested.Sound) :
    Finds (tail nested filter) fun found tokens => Traced tokens found.parts ∧
      ∀ kind, Ahead (endsClause 5) 0 tokens kind → endsClause (filter.rank + 1) kind := by
  intro cursor ends
  cases filter with
  | rows =>
      simp only [tail, ensures_bind, ensures_pure]
      refine (orderClause_finds inner .GROUP ends).mono ?_
      rintro grouping _ ⟨grouped, readsGrouping, derivedGrouping⟩
      have ends := readsGrouping.ends ends
      refine (conditionClause_finds inner .HAVING ends).mono ?_
      rintro having_ _ ⟨filtered, readsHaving, derivedHaving⟩
      refine (orderClause_finds inner .ORDER (readsHaving.ends ends)).mono ?_
      rintro ordering _ ⟨_, readsOrdering, derivedOrdering⟩
      refine ⟨_, (readsGrouping.trans readsHaving).trans readsOrdering, ?_, ?_⟩
      · have groupingTraced : Traced grouped (OrderClause.partsIn grouping) :=
          derivedGrouping.traced
        have havingTraced : Traced filtered (ConditionClause.partsIn having_) := derivedHaving.traced
        have orderingTraced : Traced _ (OrderClause.partsIn ordering) := derivedOrdering.traced
        simp only [Tail.parts, traced_append]
        exact ⟨⟨groupingTraced.left.left, havingTraced.right.left⟩, orderingTraced.right⟩
      have orders := last_clause_ahead (Derives.ordering_led derivedOrdering) rfl
      have filters := clause_ahead (Derives.condition_led derivedHaving) rfl orders
      have groups := clause_ahead (Derives.ordering_led derivedGrouping) rfl filters
      rw [List.append_assoc]
      exact groups
  | groups =>
      simp only [tail, ensures_bind, ensures_pure]
      refine (orderClause_finds inner .ORDER ends).mono ?_
      rintro ordering _ ⟨_, readsOrdering, derivedOrdering⟩
      refine ⟨_, readsOrdering, ?_, last_clause_ahead (Derives.ordering_led derivedOrdering) rfl⟩
      exact derivedOrdering.traced

/-! ### The parts alone -/

/-- What stands in front of WHERE is taken, and then what follows it. -/
theorem parses_front_bind {Result : Type} {rest : Head → Parser Result} {follow : TokenKind → Bool}
    {finish : Result → List Token → Prop} {bound : Nat} {word : Token} {distinct : Option Span}
    {items : List SelectItem} {tables : Option NameList}
    {distinctTokens itemTokens tableTokens others : List Token} (inner : nested.Complete bound)
    (opening : word.kind = .keyword .SELECT) (distinguished : DistinctWord distinct distinctTokens)
    (derivedItems : DerivesWidely (.selectItems items) itemTokens)
    (fromTables : Tables tables tableTokens)
    (behind : ∀ kind, Ahead follow 0 others kind → endsClause 1 kind)
    (next : ∀ found, Parses bound (rest found) others follow finish) :
    Parses (bound + 1) (front nested >>= rest)
      (word :: distinctTokens ++ itemTokens ++ tableTokens ++ others) follow finish := by
  simp only [front, bind_assoc, pure_bind, List.append_assoc, List.cons_append]
  apply parses_expectKeyword_bind opening
  apply parses_distinct_bind distinguished fun _ => selectItems_ahead derivedItems
  intro distinct
  apply (selectList_accepts inner derivedItems).append_bind
    (clause_ahead (Tables.led fromTables) rfl behind)
  intro list
  apply (tables_accepts fromTables).append_bind behind
  exact fun names => next _

theorem head_accepts {bound : Nat} {span : Span} {found : Head} (inner : nested.Complete bound)
    (derived : DerivesWidely (.select (filter.alone span found)) tokens) :
    Accepts (bound + 1) (head nested filter) tokens (endsClause filter.rank) := by
  obtain ⟨distinct, list, tables, condition, grouping⟩ := found
  cases filter with
  | rows =>
      simp only [Filter.alone, Filter.assemble] at derived
      cases derived with
      | select word distinguished items fromTables filtered grouped filteredGroups ordered =>
          cases filtered
          cases grouped
          cases filteredGroups
          cases ordered
          rw [head, ← bind_pure (front nested)]
          simp only [List.append_nil]
          rw [← List.append_nil (_ ++ _)]
          have behind (kind) (ahead : Ahead (endsClause 1) 0 [] kind) : endsClause 1 kind := ahead
          exact parses_front_bind inner word distinguished items fromTables behind fun found =>
            parses_pure rfl
  | groups =>
      simp only [Filter.alone, Filter.assemble] at derived
      cases derived with
      | select word distinguished items fromTables filtered grouped filteredGroups ordered =>
          cases filteredGroups
          cases ordered
          have groups := last_clause_ahead (Derives.ordering_led grouped) rfl
          have filters := clause_ahead (Derives.condition_led filtered) rfl groups
          rw [List.append_nil, List.append_nil, List.append_assoc]
          apply parses_front_bind inner word distinguished items fromTables filters
          intro front
          apply (conditionClause_accepts inner filtered).append_bind groups
          intro condition
          apply (orderClause_accepts inner (by decide) grouped).bind
          intro grouping left none
          exact parses_pure none

end

/-- If the grammar derives what stands in front of a condition, the parser takes all its tokens. -/
theorem head_fills {span : Span} {found : Head} (size : Nat) (last : Option Nat)
    (derived : DerivesWidely (.select (filter.alone span found)) tokens) :
    ∃ alone later, head (nested .always tokens.length) filter
        ⟨tokens, Token.ending size, last, []⟩ = (.ok alone, later) ∧ later.unread = [] ∧
      Cursor.Reads ⟨tokens, Token.ending size, last, []⟩ tokens later := by
  refine Accepts.fills (head_accepts (nested_complete tokens.length) derived) size last
    (Nat.le_succ _) ?_
  cases filter <;> rfl

/-! ### The parts in a longer text -/

variable {cut : Cut} {least bound : Nat} {first second : Nested}

theorem front_mirrors (inner : Nested.Mirrors cut bound first second)
    (firstFails : first.FailsAtEnd) :
    Mirrors cut 0 (bound + 1) bound (front first) (front second) (Head.relocate cut.move) := by
  refine (mirrors_expectKeyword _).bind fun word => distinct_mirrors.bind fun distinct => ?_
  refine (selectList_mirrors inner firstFails).bind fun items => tables_mirrors.bind fun tables => ?_
  exact mirrors_pure rfl

theorem head_mirrors (inner : Nested.Mirrors cut bound first second)
    (firstFails : first.FailsAtEnd) (stop : cut.stop.kind = .keyword filter.word) :
    Mirrors cut 0 (bound + 1) bound (head first filter) (head second filter)
      (Head.relocate cut.move) := by
  cases filter with
  | rows => exact front_mirrors inner firstFails
  | groups =>
      have ends : Precedence.endsOrderItem cut.stop.kind := by
        rw [stop]
        rfl
      refine (front_mirrors inner firstFails).bind fun front => ?_
      refine (conditionClause_mirrors inner (stop ▸ by decide)).bind fun condition => ?_
      refine (orderClause_mirrors inner firstFails ends (stop ▸ by decide)).bind fun grouping => ?_
      exact mirrors_pure rfl

theorem tail_mirrors (inner : Nested.Mirrors cut bound first second)
    (firstFails : first.FailsAtEnd) (closes : endsSelect cut.stop.kind) :
    Mirrors cut 0 bound bound (tail first filter) (tail second filter)
      (Tail.relocate cut.move) := by
  have ends := endsOrderItem_of_endsSelect closes
  have missing := ne_keyword_of_endsSelect closes
  cases filter with
  | rows =>
      refine (orderClause_mirrors inner firstFails ends (missing _)).bind fun grouping => ?_
      refine (conditionClause_mirrors inner (missing _)).bind fun filtered => ?_
      refine (orderClause_mirrors inner firstFails ends (missing _)).bind fun ordering => ?_
      exact mirrors_pure rfl
  | groups =>
      refine (orderClause_mirrors inner firstFails ends (missing _)).bind fun ordering => ?_
      exact mirrors_pure rfl

section
variable {own rest : List Token} {ending : Token} {size depth : Nat} {last : Option Nat}
  {place later after : Cursor}

/-- What is found in front of a condition is found wherever the clause follows. -/
theorem head_anywhere {move back : Nat → Nat} {moves : Moves move back own}
    {more : ∀ token ∈ own, token.kind ≠ .endOfInput} {closes : endsClause 1 (rest.headD ending).kind}
    {span : Span} {found alone : Head} (ends : ending.kind = .endOfInput)
    (stop : (rest.headD ending).kind = .keyword filter.word)
    (derived : DerivesWidely (.select (filter.alone span found)) own)
    (run : head (nested .always own.length) filter ⟨own, Token.ending size, last, []⟩ =
      (.ok alone, later))
    (beside : (Cut.excerpt moves size more rest ending closes).Beside place
      ⟨own, Token.ending size, last, []⟩)
    (deep : own.length ≤ depth) :
    ∃ after, head (nested .always depth) filter place = (.ok (alone.relocate move), after) ∧
      (Cut.excerpt moves size more rest ending closes).Beside after later := by
  have inner := fragment_mirrors moves size more closes derived.balanced ends own.length depth
    own.length deep (Nat.le_refl _)
  obtain ⟨found, _⟩ := head_mirrors inner (nested_failsAtEnd .always depth) stop place _ beside
    (Nat.zero_le _) (Nat.le_succ _)
  obtain ⟨after, wholeRun, besideAfter, _⟩ := found alone later run
  exact ⟨after, wholeRun, besideAfter⟩

/-- The last tokens of a text and its end. -/
structure AtLast (shift size : Nat) (own : List Token) (place : Cursor) : Prop where
  more : ∀ token ∈ own, token.kind ≠ .endOfInput
  unread : place.unread = own.map (Token.relocate (· + shift))
  ending : place.ending = (Token.ending size).relocate (· + shift)
  fresh : ∀ stop, place.lastStop = some stop → stop ≤ shift

variable {shift : Nat} {alone found : Tail}

theorem AtLast.closes (atLast : AtLast shift size own place) :
    endsClause 1 (([] : List Token).headD place.ending).kind := by
  rw [List.headD_nil, atLast.ending]
  rfl

/-- The tokens as they stand in the text, to which nothing else belongs. -/
def AtLast.excerpt (atLast : AtLast shift size own place) : Cut :=
  Cut.excerpt (Moves.behind shift own) size atLast.more [] place.ending atLast.closes

theorem AtLast.exact (atLast : AtLast shift size own place) : atLast.excerpt.Exact := by
  refine ⟨rfl, ?_⟩
  change place.ending.Alike (· + shift) (Token.ending size)
  rw [atLast.ending]
  exact alike_relocate _ _

/-- What stands behind a condition is read alike up to the end of the text, wherever it stands. -/
theorem AtLast.tail_echoes (atLast : AtLast shift size own place) (deep : own.length ≤ depth) :
    Echoes atLast.excerpt own.length own.length (Tail.relocate (· + shift))
      (tail (nested .always depth) filter place)
      (tail (nested .always own.length) filter ⟨own, Token.ending size, none, []⟩) := by
  have exact := atLast.exact
  have beside := Cut.beside_excerpt place none (Moves.behind shift own) size atLast.more
    atLast.closes (by rw [List.append_nil, atLast.unread]) nofun fun _ stop found =>
      Nat.le_trans (atLast.fresh stop found) (Nat.le_add_left shift 0)
  have inner := nested_mirrors (fun _ _ _ _ _ inner => resolves_of_exact exact inner)
    (fun _ _ _ _ _ inner => closedSelect_mirrors inner exact.closes) own.length depth own.length
    deep (Nat.le_refl _)
  exact tail_mirrors inner (nested_failsAtEnd .always depth) exact.closes place _ beside
    (Nat.zero_le _) (Nat.le_refl _)

theorem AtLast.tail_anywhere (atLast : AtLast shift size own place) (deep : own.length ≤ depth)
    (run : tail (nested .always own.length) filter ⟨own, Token.ending size, none, []⟩ =
      (.ok alone, later)) :
    ∃ after, tail (nested .always depth) filter place =
      (.ok (alone.relocate (· + shift)), after) ∧
        after.unread = later.unread.map (Token.relocate (· + shift)) := by
  obtain ⟨after, wholeRun, beside, _⟩ := (atLast.tail_echoes deep).found alone later run
  refine ⟨after, wholeRun, ?_⟩
  rw [Cut.Beside.excerpt_unread beside, List.append_nil]

theorem AtLast.tail_alone (atLast : AtLast shift size own place) (deep : own.length ≤ depth)
    (run : tail (nested .always depth) filter place = (.ok found, after)) :
    ∃ alone later, tail (nested .always own.length) filter ⟨own, Token.ending size, none, []⟩ =
      (.ok alone, later) ∧ found = alone.relocate (· + shift) ∧
        after.unread = later.unread.map (Token.relocate (· + shift)) := by
  rcases ownRun : tail (nested .always own.length) filter ⟨own, Token.ending size, none, []⟩ with
    ⟨error | alone, later⟩
  · obtain ⟨_, wholeRun, _⟩ := (atLast.tail_echoes deep).fails atLast.exact error later ownRun
    rw [run] at wholeRun
    cases wholeRun
  · obtain ⟨place, wholeRun, unread⟩ := atLast.tail_anywhere deep ownRun
    rw [run] at wholeRun
    obtain ⟨same, rfl⟩ := Prod.mk.inj wholeRun
    exact ⟨alone, later, rfl, Except.ok.inj same, unread⟩

end

end Parse

end AnnotatedSql.Grammar
