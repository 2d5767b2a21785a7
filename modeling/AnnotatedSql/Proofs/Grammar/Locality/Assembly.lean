/-
This file puts a SELECT together from one of its conditions and from what stands in front of it and
behind it, each read alone; the condition may stand in further parentheses.
-/

import AnnotatedSql.Proofs.Grammar.Locality.Enclosed
import AnnotatedSql.Proofs.Grammar.Locality.Filter

namespace AnnotatedSql.Grammar

/-- A condition, what stands in front of it and what stands behind it, each with its own tokens. -/
structure Pieces (filter : Filter) where
  front : List Token
  word : Token
  own : List Token
  /-- The clauses behind the condition. -/
  clauses : List Token
  closing : List Token
  size : Nat
  head : Head
  node : Expr
  tail : Tail
  isWord : word.kind = .keyword filter.word
  derivedHead : ∃ span found, DerivesWidely (.select (filter.alone span found)) front
  derivedNode : ∃ found, DerivesWidely (.expr found) own
  headRun : ∃ later, Parse.head (Parse.nested .always front.length) filter
    ⟨front, Token.ending 0, none, []⟩ = (.ok head, later) ∧ later.unread = []
  nodeRun : ∃ later, (Parse.nested .always own.length).expr 0
    ⟨own, Token.ending 0, none, []⟩ = (.ok node, later) ∧ later.unread = []
  tailRun : ∃ later, Parse.tail (Parse.nested .always (clauses ++ closing).length) filter
    ⟨clauses ++ closing, Token.ending size, none, []⟩ = (.ok tail, later) ∧ later.unread = closing
  more : ∀ token ∈ clauses ++ closing, token.kind ≠ .endOfInput
  closes : Parse.Closing closing
  follow : endsClause (filter.rank + 1) ((clauses ++ closing).headD (Token.ending size)).kind

/-- Where the pieces come to stand, and the parentheses around the condition. -/
structure Layout {filter : Filter} (pieces : Pieces filter) where
  first : Nat → Nat
  firstBack : Nat → Nat
  inner : Nat → Nat
  innerBack : Nat → Nat
  shift : Nat
  opens : List Token
  closes : List Token
  firstMoves : Moves first firstBack pieces.front
  innerMoves : Moves inner innerBack pieces.own
  opening : ∀ token ∈ opens, token.kind = .symbol .leftParen ∧ token.span.stop ≤ inner 0
  closing : ∀ token ∈ closes, token.kind = .symbol .rightParen
  even : closes.length = opens.length
  wordStops : (pieces.word.relocate first).span.stop ≤ inner 0
  stops : ∀ stop, stopOf? (opens ++ pieces.own.map (Token.relocate inner) ++ closes) = some stop →
    stop ≤ shift

theorem Parse.Closing.relocate {closing : List Token} (closes : Parse.Closing closing)
    (move : Nat → Nat) : Parse.Closing (closing.map (Token.relocate move)) := by
  cases closes with
  | absent => exact .absent
  | present semicolon => exact .present semicolon

namespace Layout

variable {filter : Filter} {pieces : Pieces filter} (layout : Layout pieces)

/-- What stands in front of the clause. -/
def before : List Token := pieces.front.map (Token.relocate layout.first)

/-- The condition in its parentheses. -/
def condition : List Token :=
  layout.opens ++ pieces.own.map (Token.relocate layout.inner) ++ layout.closes

def clause : List Token := pieces.word.relocate layout.first :: layout.condition

/-- What stands behind the clause. -/
def behind : List Token :=
  (pieces.clauses ++ pieces.closing).map (Token.relocate (· + layout.shift))

def tokens : List Token := layout.before ++ (layout.clause ++ layout.behind)

def ending : Token := (Token.ending pieces.size).relocate (· + layout.shift)

def cursor : Cursor := ⟨layout.tokens, layout.ending, none, []⟩

/-- The tokens of the SELECT, without a semicolon behind it. -/
def covered : List Token :=
  layout.before ++ layout.clause ++ pieces.clauses.map (Token.relocate (· + layout.shift))

/-- The SELECT with its condition in parentheses that have the given spans. -/
def select (spans : List Span) : Select :=
  filter.assemble (cover layout.covered) (pieces.head.relocate layout.first)
    (some ⟨cover layout.clause, (pieces.node.relocate layout.inner).enclosed spans⟩)
    (pieces.tail.relocate (· + layout.shift))

theorem ends : layout.ending.kind = .endOfInput := rfl

theorem cursor_ends : layout.cursor.Ends := rfl

open Parse

theorem follow : endsClause (filter.rank + 1) (layout.behind.headD layout.ending).kind := by
  have follow := pieces.follow
  rw [behind]
  generalize pieces.clauses ++ pieces.closing = others at follow
  cases others <;> exact follow

theorem length_tokens : layout.tokens.length = pieces.front.length + pieces.own.length +
    (pieces.clauses ++ pieces.closing).length + 2 * layout.opens.length + 1 := by
  have even := layout.even
  simp only [tokens, before, clause, condition, behind, List.length_append, List.length_map,
    List.length_cons]
  omega

theorem condition_nonempty : layout.condition ≠ [] := by
  obtain ⟨_, derived⟩ := pieces.derivedNode
  simp [condition, derived.nonempty rfl]

/-! ### The pieces in their places -/

/-- What is in front of the clause is found. -/
theorem head_found : ∃ after,
    Parse.head (nested .always layout.tokens.length) filter layout.cursor =
      (.ok (pieces.head.relocate layout.first), after) ∧
        layout.cursor.Reads layout.before after ∧ after.unread = layout.clause ++ layout.behind := by
  obtain ⟨_, _, derived⟩ := pieces.derivedHead
  obtain ⟨later, run, nothing⟩ := pieces.headRun
  have stop : ((layout.clause ++ layout.behind).headD layout.cursor.ending).kind =
      .keyword filter.word := pieces.isWord
  have closes : endsClause 1
      ((layout.clause ++ layout.behind).headD layout.cursor.ending).kind := by
    rw [stop]
    cases filter <;> rfl
  have beside := Cut.beside_excerpt layout.cursor none layout.firstMoves 0
    (ne_endOfInput_of_derived derived) closes rfl nofun nofun
  have deep : pieces.front.length ≤ layout.tokens.length := by
    rw [length_tokens]
    omega
  obtain ⟨after, wholeRun, besideAfter⟩ :=
    head_anywhere layout.ends stop derived run beside deep
  have left := besideAfter.excerpt_unread
  rw [nothing, List.map_nil, List.nil_append] at left
  obtain ⟨consumed, reads, _⟩ :=
    head_finds (nested_sound .always _) layout.cursor_ends _ after wholeRun
  have parts : layout.tokens = consumed ++ after.unread := reads.unread
  rw [left, tokens, List.append_cancel_right_eq] at parts
  exact ⟨after, wholeRun, parts ▸ reads, left⟩

/-- The condition is taken with its parentheses. -/
theorem condition_takes : ∃ spans, spans.length = layout.opens.length ∧
    Takes (nested .always layout.tokens.length) (layout.inner 0) layout.ending layout.condition
      layout.behind ((pieces.node.relocate layout.inner).enclosed spans) := by
  obtain ⟨_, derived⟩ := pieces.derivedNode
  obtain ⟨later, run, nothing⟩ := pieces.nodeRun
  obtain ⟨depth, deep⟩ : ∃ depth, layout.tokens.length = depth + layout.opens.length :=
    ⟨layout.tokens.length - layout.opens.length, by rw [length_tokens]; omega⟩
  have enough : pieces.own.length ≤ depth := by
    rw [length_tokens] at deep
    omega
  have closes : endsClause 1 ((layout.closes ++ layout.behind).headD layout.ending).kind := by
    rcases starts : layout.closes with _ | ⟨first, others⟩
    · exact endsClause.mono layout.follow (Nat.le_add_left 1 _)
    · have isClosing := layout.closing first (by rw [starts]; exact List.mem_cons_self)
      rw [List.cons_append, List.headD_cons, isClosing]
      rfl
  have plain : ∀ first ∈ (pieces.own.map (Token.relocate layout.inner)).head?,
      first.kind ≠ .keyword .SELECT := by
    intro first isFirst isSelect
    rw [List.head?_map, Option.mem_def, Option.map_eq_some_iff] at isFirst
    obtain ⟨own, isOwn, rfl⟩ := isFirst
    have starts := derived.starts own isOwn
    rw [show own.kind = .keyword .SELECT from isSelect] at starts
    exact Bool.false_ne_true starts
  have some : pieces.own.map (Token.relocate layout.inner) ≠ [] := by
    simpa using derived.nonempty rfl
  rw [deep]
  exact Takes.enclosed layout.ends layout.opening layout.closing layout.even plain some
    (endsExpr_of_endsClause layout.follow)
    (takes_of_alone layout.innerMoves layout.ends derived run nothing closes enough (Nat.le_refl _))

/-- The word of a clause and its condition make up the clause. -/
theorem conditionClause_run {inner : Nested} {node : Expr} {tokens others : List Token}
    {word : Keyword} {opening ending : Token} {limit : Nat} {place : Cursor}
    (takes : Takes inner limit ending tokens others node) (ends : ending.kind = .endOfInput)
    (isWord : opening.kind = .keyword word) (near : opening.span.stop ≤ limit)
    (unread : place.unread = opening :: tokens ++ others) (atEnd : place.ending = ending) :
    ∃ after, conditionClause? inner word place =
      (.ok (some ⟨cover (opening :: tokens), node⟩), after) ∧
        place.Reads (opening :: tokens) after := by
  have isEnd : place.Ends := by
    rw [Cursor.Ends, atEnd]
    exact ends
  have current : place.current = opening := by
    rw [Cursor.current_eq, unread]
    rfl
  have isHere : place.current.kind = .keyword word := current ▸ isWord
  have readsWord := Cursor.reads_advance_of_kind isEnd isHere (by simp)
  rw [current] at readsWord
  have behind : place.advance.unread = tokens ++ others := by
    have parts := readsWord.unread
    rw [unread] at parts
    simpa using parts.symm
  obtain ⟨after, run, reads⟩ := takes place.advance behind (readsWord.ending.trans atEnd)
    fun stop found => by
      rw [readsWord.lastStop] at found
      cases found
      exact near
  have whole : place.Reads (opening :: tokens) after := readsWord.trans reads
  refine ⟨after, ?_, whole⟩
  have found : atKeyword word place = (.ok true, place) := by
    rw [atKeyword]
    change (Except.ok (place.current.kind == .keyword word), place) = _
    rw [isHere, beq_self_eq_true]
  rw [conditionClause?, bind_look found, if_pos rfl, bind_look offset_run]
  change (inner.expr 0 >>= _) place.advance = _
  rw [bind_run, run, ← whole.spanFrom (List.cons_ne_nil _ _)]
  rfl

/-- The whole SELECT is found, with its condition in the parentheses. -/
theorem select_run : ∃ spans later, spans.length = layout.opens.length ∧
    Parse.select (nested .always layout.tokens.length) layout.cursor =
      (.ok (layout.select spans), later) ∧ later.Ends ∧ Closing later.unread := by
  obtain ⟨first, headRun, readsHead, unread⟩ := layout.head_found
  obtain ⟨spans, count, takes⟩ := layout.condition_takes
  have isWord : (pieces.word.relocate layout.first).kind = .keyword filter.word := pieces.isWord
  obtain ⟨second, clauseRun, readsClause⟩ :=
    conditionClause_run takes layout.ends isWord layout.wordStops unread readsHead.ending
  have readsClause : first.Reads layout.clause second := readsClause
  have left : second.unread = layout.behind :=
    List.append_cancel_left (readsClause.unread.symm.trans unread)
  have atLast : AtLast layout.shift pieces.size (pieces.clauses ++ pieces.closing) second := by
    refine ⟨pieces.more, left, readsClause.ending.trans readsHead.ending, ?_⟩
    intro stop found
    rw [readsClause.lastStop_eq (List.cons_ne_nil _ _), clause,
      stopOf_cons _ layout.condition_nonempty] at found
    exact layout.stops stop found
  obtain ⟨later, tailRun, leftover⟩ := pieces.tailRun
  have deep : (pieces.clauses ++ pieces.closing).length ≤ layout.tokens.length := by
    rw [length_tokens]
    omega
  obtain ⟨third, wholeRun, closed⟩ := atLast.tail_anywhere deep tailRun
  have readsFront := readsHead.trans readsClause
  obtain ⟨consumed, readsTail, _⟩ := tail_finds (nested_sound .always _)
    (readsFront.ends layout.cursor_ends) _ third wholeRun
  have parts := readsTail.unread
  rw [left, closed, leftover, behind, List.map_append, List.append_cancel_right_eq] at parts
  have whole := readsFront.trans readsTail
  rw [← parts] at whole
  refine ⟨spans, third, count, ?_, whole.ends layout.cursor_ends, ?_⟩
  · have covers := whole.spanFrom (by simp [clause])
    rw [select_eq _ filter, bind_look offset_run, bind_run, headRun]
    change (conditionClause? _ _ >>= _) first = _
    rw [bind_run, clauseRun]
    change (Parse.tail _ _ >>= _) second = _
    rw [bind_run, wholeRun]
    change (Except.ok (filter.assemble (third.spanFrom layout.cursor.current.span.start) _ _ _),
      third) = _
    rw [covers]
    rfl
  · rw [closed, leftover]
    exact pieces.closes.relocate _

/-- A statement is made of the pieces in their places. -/
theorem statement_run : ∃ spans, spans.length = layout.opens.length ∧
    (statement (Cursor.ofTokens (layout.tokens ++ [layout.ending]))).1 =
      .ok (layout.select spans) := by
  obtain ⟨spans, later, count, run, ends, closes⟩ := layout.select_run
  have deep : layout.cursor.position = layout.tokens.length := rfl
  obtain ⟨_, whole⟩ := statementWith_of_select deep run ends closes
  refine ⟨spans, count, ?_⟩
  rw [statement_fresh layout.ends, ofTokens_concat]
  exact congrArg Prod.fst whole

end Layout

end AnnotatedSql.Grammar
