/-
This file shows what tree a text has when parentheses are put around one of its conditions.
-/

import AnnotatedSql.Proofs.Grammar.Locality.Around
import AnnotatedSql.Proofs.Token.Parenthesis

namespace AnnotatedSql

/-- Where an offset comes to lie when as many parentheses are put on either side of the span. -/
def Span.makeRoom (span : Span) (count offset : Nat) : Nat :=
  if offset < span.start then offset
  else if offset ≤ span.stop then offset + count
  else offset + 2 * count

/-- The span with more bytes at its end. -/
def Span.grow (span : Span) (more : Nat) : Span := ⟨span.start, span.stop + more⟩

namespace Span

variable {span : Span} {count offset : Nat}

theorem makeRoom_before (before : offset < span.start) : span.makeRoom count offset = offset :=
  if_pos before

theorem makeRoom_inside (start : span.start ≤ offset) (stop : offset ≤ span.stop) :
    span.makeRoom count offset = offset + count := by
  rw [makeRoom, if_neg (Nat.not_lt.mpr start), if_pos stop]

theorem makeRoom_behind (extent : span.start ≤ span.stop) (behind : span.stop < offset) :
    span.makeRoom count offset = offset + 2 * count := by
  rw [makeRoom, if_neg (by omega), if_neg (by omega)]

/-- Without parentheses, every offset stays. -/
theorem makeRoom_zero : span.makeRoom 0 = id := by
  funext offset
  unfold makeRoom
  repeat' split
  all_goals rfl

theorem makeRoom_monotone {first second : Nat} (least : first ≤ second) :
    span.makeRoom count first ≤ span.makeRoom count second := by
  unfold makeRoom
  repeat' split
  all_goals omega

end Span

/-- To move on twice is to move on by both. -/
theorem Token.relocate_add (first second : Nat) : Token.relocate (· + (first + second)) =
    Token.relocate (· + second) ∘ Token.relocate (· + first) := by
  funext token
  simp [Token.relocate, Span.relocate, Nat.add_assoc]

namespace Grammar

variable {filter : Filter} {source : Text} {tree : Select} {clause : ConditionClause}

/-- A condition in its text, and the pieces around it, each with its tokens as they are read
alone. -/
structure Surrounded (filter : Filter) (source : Text) where
  around : Around filter source
  under : TextUnder source (around.front ++ [around.word]) around.inside
    (around.clauses ++ around.closing ++ [around.ending])
  pieces : Pieces filter
  front : pieces.front = around.front
  word : pieces.word = around.word
  inside : around.inside = pieces.own.map (Token.relocate (· + under.front.byteLength))
  behind : around.clauses ++ around.closing ++ [around.ending] =
    (pieces.clauses ++ pieces.closing ++ [Token.ending pieces.size]).map
      (Token.relocate (· + (under.front.byteLength + under.text.byteLength)))

/-- The tokens up to the end of the condition are neither errors nor the end of the input. -/
theorem Around.legible (around : Around filter source) :
    Legible (around.front ++ [around.word] ++ around.inside) := by
  rw [legible_append, legible_append]
  refine ⟨⟨around.derivedHead.legible, ?_⟩, around.derivedNode.legible⟩
  intro token member
  rw [List.mem_singleton.mp member, around.isWord]
  rfl

/-- All tokens but the last one are laid out in the text. -/
theorem Around.laid (around : Around filter source) : Laid source
    ((around.front ++ [around.word]) ++ (around.inside ++ (around.clauses ++ around.closing))) := by
  have laid := laid_ofTokens source
  rw [around.tokens, ← List.append_assoc around.inside, ← List.append_assoc,
    ofTokens_concat] at laid
  exact laid

theorem ne_error_of_isLegible {kind : TokenKind} (legible : isLegible kind) (cause : LexicalError) :
    kind ≠ .error cause := by
  rintro rfl
  cases legible

theorem ne_endOfInput_of_isLegible {kind : TokenKind} (legible : isLegible kind) :
    kind ≠ .endOfInput := by
  rintro rfl
  cases legible

theorem exists_surrounded (parsed : parse source = .ok tree)
    (found : tree.filter filter = some clause) :
    ∃ surrounded : Surrounded filter source,
      tree = surrounded.around.select ∧ clause.expr = surrounded.around.node := by
  obtain ⟨around, isTree, isNode⟩ := exists_around parsed found
  obtain ⟨under⟩ := exists_textUnder around.tokens fun token member =>
    ne_endOfInput_of_isLegible (around.legible token member)
  obtain ⟨own, _, inside⟩ := under.yields.alone
  obtain ⟨others, last, _⟩ := (Reader.tokens_tiled (Reader.ofSource under.behind)).last
  have moved := Reader.tokens_relocate (Reader.ofSource under.behind)
    (under.front.byteLength + under.text.byteLength)
  rw [last, Reader.ofSource, Nat.zero_add, Nat.zero_add] at moved
  have behind := under.others.symm.trans moved
  have near (stop : Nat) (isStop : stopOf? around.inside = some stop) :
      stop ≤ under.front.byteLength + under.text.byteLength := by
    obtain ⟨token, isLast, rfl⟩ := Option.map_eq_some_iff.mp isStop
    exact Nat.le_of_lt (under.within token (List.mem_of_getLast? isLast)).2.2
  obtain ⟨pieces, front, word, rfl, size, clauses, closing⟩ :=
    around.exists_pieces inside behind near
  refine ⟨⟨around, under, pieces, front, word, inside, ?_⟩, isTree, isNode⟩
  rw [List.map_append, List.map_append, clauses, closing, List.map_singleton, size]
  rw [List.map_append, List.map_singleton] at behind
  exact congrArg (around.clauses ++ around.closing ++ ·) (List.append_inj' behind rfl).2

namespace Surrounded

variable (surrounded : Surrounded filter source)

/-- The span of the condition. -/
def span : Span := Span.ofRange surrounded.under.front.byteLength
  (surrounded.under.front.byteLength + surrounded.under.text.byteLength)

/-- Where an offset comes to lie. -/
abbrev move (count : Nat) : Nat → Nat := surrounded.span.makeRoom count

theorem nonempty : surrounded.around.inside ≠ [] := surrounded.around.derivedNode.nonempty rfl

theorem text_pos : 0 < surrounded.under.text.byteLength := by
  obtain ⟨first, others, whole⟩ := List.exists_cons_of_ne_nil surrounded.nonempty
  have within := surrounded.under.within first (whole ▸ List.mem_cons_self)
  omega

/-- What stands in front of the condition stays. -/
theorem front_stays (count : Nat) {token : Token}
    (member : token ∈ surrounded.around.front ++ [surrounded.around.word]) :
    token.relocate (surrounded.move count) = token := by
  obtain ⟨extent, inFront⟩ := surrounded.under.stop_before token member
  have start : surrounded.move count token.span.start = token.span.start :=
    Span.makeRoom_before (Nat.lt_of_le_of_lt extent inFront)
  have stop : surrounded.move count token.span.stop = token.span.stop :=
    Span.makeRoom_before inFront
  rw [Token.relocate, Span.relocate, start, stop]

theorem map_front (count : Nat) :
    surrounded.pieces.front.map (Token.relocate (surrounded.move count)) =
      surrounded.around.front := by
  rw [surrounded.front]
  exact (List.map_congr_left fun token member =>
    surrounded.front_stays count (List.mem_append_left _ member)).trans (List.map_id _)

theorem word_stays (count : Nat) :
    surrounded.pieces.word.relocate (surrounded.move count) = surrounded.around.word := by
  rw [surrounded.word]
  exact surrounded.front_stays count (List.mem_append_right _ (List.mem_singleton_self _))

/-- The word of the clause ends before the condition. -/
theorem word_before : surrounded.around.word.span.start ≤ surrounded.around.word.span.stop ∧
    surrounded.around.word.span.stop < surrounded.under.front.byteLength :=
  surrounded.under.stop_before _ (List.mem_append_right _ (List.mem_singleton_self _))

/-- What is in the condition moves with the opening parentheses. -/
theorem own_span {token : Token} (member : token ∈ surrounded.pieces.own) :
    token.span.start ≤ token.span.stop ∧
      token.span.stop < surrounded.under.text.byteLength := by
  have moved : token.relocate (· + surrounded.under.front.byteLength) ∈ surrounded.around.inside :=
    (congrArg (_ ∈ ·) surrounded.inside).mpr (List.mem_map_of_mem member)
  have within := surrounded.under.within _ moved
  have start : token.span.start + surrounded.under.front.byteLength ≤
      token.span.stop + surrounded.under.front.byteLength := within.2.1
  have stop : token.span.stop + surrounded.under.front.byteLength <
      surrounded.under.front.byteLength + surrounded.under.text.byteLength := within.2.2
  omega

theorem move_inside (count : Nat) {offset : Nat}
    (inside : offset < surrounded.under.text.byteLength) :
    surrounded.move count (offset + surrounded.under.front.byteLength) =
      offset + (surrounded.under.front.byteLength + count) := by
  have stop : offset + surrounded.under.front.byteLength ≤ surrounded.span.stop := by
    change _ ≤ _ + _ - 1
    omega
  exact (Span.makeRoom_inside (Nat.le_add_left _ _) stop).trans (Nat.add_assoc ..)

theorem move_behind (count offset : Nat) : surrounded.move count (offset +
    (surrounded.under.front.byteLength + surrounded.under.text.byteLength)) = offset +
      (surrounded.under.front.byteLength + surrounded.under.text.byteLength) + 2 * count := by
  have some := surrounded.text_pos
  refine Span.makeRoom_behind ?_ ?_
  · change surrounded.under.front.byteLength ≤ _ - 1
    omega
  · change _ - 1 < _
    omega

/-- The clauses behind the condition start behind its text. -/
theorem behind_start : ∀ token ∈ surrounded.around.clauses,
    surrounded.under.front.byteLength + surrounded.under.text.byteLength ≤ token.span.start := by
  intro token member
  have isBehind : token ∈ surrounded.around.clauses ++ surrounded.around.closing ++
      [surrounded.around.ending] := by
    rw [List.append_assoc]
    exact List.mem_append_left _ member
  obtain ⟨other, _, rfl⟩ :=
    List.mem_map.mp ((congrArg (_ ∈ ·) surrounded.behind).mp isBehind)
  exact Nat.le_add_left _ _

theorem own_moves (count : Nat) {token : Token} (member : token ∈ surrounded.pieces.own) :
    token.relocate (fun offset => surrounded.move count
      (offset + surrounded.under.front.byteLength)) =
        token.relocate (· + (surrounded.under.front.byteLength + count)) := by
  have inside := surrounded.own_span member
  rw [Token.relocate, Span.relocate, surrounded.move_inside count (by omega),
    surrounded.move_inside count inside.2]
  rfl

theorem map_own (count : Nat) : surrounded.pieces.own.map (Token.relocate fun offset =>
    surrounded.move count (offset + surrounded.under.front.byteLength)) =
      surrounded.around.inside.map (Token.relocate (· + count)) := by
  refine Eq.trans ?_ (congrArg (List.map _) surrounded.inside.symm)
  rw [List.map_map, ← Token.relocate_add]
  exact List.map_congr_left fun token member => surrounded.own_moves count member

theorem front_moves (count : Nat) : Moves (surrounded.move count) id surrounded.pieces.front where
  monotone := Span.makeRoom_monotone
  orderly := (Moves.none []).orderly
  returns token member := by
    rw [surrounded.front] at member
    exact surrounded.front_stays count (List.mem_append_left _ member)

theorem inner_moves (count : Nat) :
    Moves (fun offset => surrounded.move count (offset + surrounded.under.front.byteLength))
      (· - (surrounded.under.front.byteLength + count)) surrounded.pieces.own where
  monotone least := Span.makeRoom_monotone (Nat.add_le_add_right least _)
  orderly := (Moves.behind (surrounded.under.front.byteLength + count) []).orderly
  returns token member := by
    rw [surrounded.own_moves count member]
    exact (Moves.behind _ surrounded.pieces.own).returns token member

theorem word_stops (count : Nat) :
    (surrounded.pieces.word.relocate (surrounded.move count)).span.stop ≤
      surrounded.move count (0 + surrounded.under.front.byteLength) := by
  rw [surrounded.move_inside count surrounded.text_pos, surrounded.word_stays]
  have before := surrounded.word_before
  omega

/-- The opening parentheses. -/
def opens (count : Nat) : List Token :=
  Reader.parentheses '(' .leftParen surrounded.under.front.byteLength count

/-- The closing parentheses. -/
def closes (count : Nat) : List Token :=
  Reader.parentheses ')' .rightParen
    (surrounded.under.front.byteLength + surrounded.under.text.byteLength + count) count

theorem opens_open (count : Nat) : ∀ token ∈ surrounded.opens count,
    token.kind = .symbol .leftParen ∧
      token.span.stop ≤ surrounded.move count (0 + surrounded.under.front.byteLength) := by
  intro token member
  obtain ⟨kind, stops⟩ := Reader.mem_parentheses rfl member
  rw [surrounded.move_inside count surrounded.text_pos]
  exact ⟨kind, by omega⟩

theorem closes_even (count : Nat) :
    (surrounded.closes count).length = (surrounded.opens count).length := by
  rw [opens, closes, Reader.parentheses, Reader.parentheses, List.length_map, List.length_map]

theorem condition_stops (count : Nat) : ∀ stop, stopOf? (surrounded.opens count ++
    surrounded.pieces.own.map (Token.relocate fun offset =>
      surrounded.move count (offset + surrounded.under.front.byteLength)) ++
        surrounded.closes count) = some stop →
    stop ≤ surrounded.under.front.byteLength + surrounded.under.text.byteLength + 2 * count := by
  intro stop found
  obtain ⟨token, isLast, rfl⟩ := Option.map_eq_some_iff.mp found
  rcases List.mem_append.mp (List.mem_of_getLast? isLast) with member | member
  · rcases List.mem_append.mp member with member | member
    · have stops := (Reader.mem_parentheses rfl member).2
      omega
    · obtain ⟨own, isOwn, rfl⟩ := List.mem_map.mp member
      have inside := surrounded.own_span isOwn
      rw [surrounded.own_moves count isOwn]
      change own.span.stop + _ ≤ _
      omega
  · have stops := (Reader.mem_parentheses rfl member).2
    omega

/-- The condition in as many parentheses, with what is in front of it and behind it. -/
def layout (count : Nat) : Layout surrounded.pieces where
  first := surrounded.move count
  firstBack := id
  inner offset := surrounded.move count (offset + surrounded.under.front.byteLength)
  innerBack := (· - (surrounded.under.front.byteLength + count))
  shift := surrounded.under.front.byteLength + surrounded.under.text.byteLength + 2 * count
  opens := surrounded.opens count
  closes := surrounded.closes count
  firstMoves := surrounded.front_moves count
  innerMoves := surrounded.inner_moves count
  opening := surrounded.opens_open count
  closing _ member := (Reader.mem_parentheses rfl member).1
  even := surrounded.closes_even count
  wordStops := surrounded.word_stops count
  stops := surrounded.condition_stops count

/-- The tokens in their places are those of the text with the parentheses. -/
theorem layout_tokens (count : Nat) :
    (surrounded.layout count).tokens ++ [(surrounded.layout count).ending] =
      tokenize (surrounded.under.enclosed count) := by
  have legible : ∀ token ∈ surrounded.around.front ++ [surrounded.around.word] ++
      surrounded.around.inside, ∀ cause, token.kind ≠ .error cause := fun token member =>
    ne_error_of_isLegible (surrounded.around.legible token member)
  have behind : (surrounded.pieces.clauses ++ surrounded.pieces.closing ++
      [Token.ending surrounded.pieces.size]).map (Token.relocate
        (· + (surrounded.under.front.byteLength + surrounded.under.text.byteLength + 2 * count))) =
        (surrounded.around.clauses ++ surrounded.around.closing ++
          [surrounded.around.ending]).map (Token.relocate (· + 2 * count)) := by
    refine Eq.trans ?_ (congrArg (List.map _) surrounded.behind.symm)
    rw [List.map_map, ← Token.relocate_add]
  rw [surrounded.under.tokenize_enclosed surrounded.nonempty legible, ← behind,
    ← surrounded.map_own, List.map_append,
    List.map_singleton]
  simp only [Layout.tokens, Layout.before, Layout.clause, Layout.condition, Layout.behind,
    Layout.ending, layout, opens, closes, surrounded.map_front, surrounded.word_stays,
    List.append_assoc, List.cons_append, List.nil_append]

/-- With the condition in as many parentheses, the text is accepted. -/
theorem parse_enclosed (count : Nat) : ∃ spans : List Span, spans.length = count ∧
    parse (surrounded.under.enclosed count) = .ok ((surrounded.layout count).select spans) := by
  obtain ⟨spans, many, run⟩ := (surrounded.layout count).statement_run
  refine ⟨spans, ?_, ?_⟩
  · rw [many]
    exact (List.length_map _).trans List.length_range
  · rw [parse, ← surrounded.layout_tokens]
    exact run

/-- Without parentheses, it is the tree of the text itself. -/
theorem parse_alone : parse source = .ok ((surrounded.layout 0).select []) := by
  obtain ⟨spans, none, parsed⟩ := surrounded.parse_enclosed 0
  rw [List.length_eq_zero_iff.mp none, surrounded.under.enclosed_zero] at parsed
  exact parsed

/-! ### The moves of the pieces -/

/-- Each piece moves on from its place in the text itself. -/
theorem head_moves (count : Nat) :
    (surrounded.pieces.head.relocate (surrounded.layout 0).first).relocate
      (surrounded.move count) =
        surrounded.pieces.head.relocate (surrounded.layout count).first := by
  have stays : (surrounded.layout 0).first = id := Span.makeRoom_zero
  rw [stays, Head.relocate_relocate]
  rfl

theorem node_moves (count : Nat) :
    (surrounded.pieces.node.relocate (surrounded.layout 0).inner).relocate
      (surrounded.move count) =
        surrounded.pieces.node.relocate (surrounded.layout count).inner := by
  have stays : (surrounded.layout 0).inner = (· + surrounded.under.front.byteLength) :=
    funext fun _ => congrFun Span.makeRoom_zero _
  rw [stays, Expr.relocate_relocate]
  rfl

theorem tail_moves (count : Nat) :
    (surrounded.pieces.tail.relocate (· + (surrounded.layout 0).shift)).relocate
      (surrounded.move count) =
        surrounded.pieces.tail.relocate (· + (surrounded.layout count).shift) := by
  have moves : surrounded.move count ∘ (· + (surrounded.layout 0).shift) =
      (· + (surrounded.layout count).shift) :=
    funext fun offset => (surrounded.move_behind count offset).trans (Nat.add_assoc ..)
  rw [Tail.relocate_relocate, moves]

/-! ### Spans around the condition -/

/-- The span is that of the condition. -/
theorem node_span : surrounded.around.node.span = surrounded.span :=
  (surrounded.around.derivedNode.span_eq surrounded.around.laid.right.left rfl).trans
    (surrounded.under.cover surrounded.nonempty)

/-- The condition ends with the last parenthesis behind it. -/
theorem stop_condition (count : Nat) : stopOf? (surrounded.layout count).condition =
    some (surrounded.span.stop + 2 * count) := by
  cases count with
  | zero =>
      obtain ⟨stop, found, reached⟩ := surrounded.under.yields.stop surrounded.nonempty
      have alone : (surrounded.layout 0).condition = surrounded.around.inside := by
        refine (List.append_nil _).trans ((surrounded.map_own 0).trans ?_)
        exact List.map_id _
      have last : surrounded.under.front.byteLength + surrounded.under.text.byteLength =
          stop + 1 := reached
      rw [alone, found, Option.some.injEq]
      change stop = _ - 1
      omega
  | succ count =>
      have last : (surrounded.layout (count + 1)).closes = _ := Reader.parentheses_succ ..
      rw [Layout.condition, stopOf?, last, ← List.append_assoc, List.getLast?_concat,
        Option.map_some, Option.some.injEq]
      have some := surrounded.text_pos
      change _ + count + 1 - 1 = _ - 1 + _
      omega

theorem cover_of {tokens : List Token} {start stop : Nat} (starts : startOf tokens = start)
    (stops : stopOf? tokens = some stop) (extent : start ≤ stop) : cover tokens = ⟨start, stop⟩ := by
  rw [cover, starts, stops, Option.getD_some, Nat.max_eq_left extent]

theorem cover_clause_eq (count : Nat) : cover (surrounded.layout count).clause =
    ⟨surrounded.around.word.span.start, surrounded.span.stop + 2 * count⟩ := by
  refine cover_of ?_ ?_ ?_
  · exact congrArg (fun token => token.span.start) (surrounded.word_stays count)
  · rw [Layout.clause, stopOf_cons _ (surrounded.layout count).condition_nonempty]
    exact surrounded.stop_condition count
  · have before := surrounded.word_before
    change _ ≤ _ - 1 + _
    omega

/-- The clause also covers the parentheses. -/
theorem cover_clause (count : Nat) : cover (surrounded.layout count).clause =
    (cover (surrounded.layout 0).clause).grow (2 * count) := by
  rw [cover_clause_eq, cover_clause_eq, Span.grow, Nat.mul_zero, Nat.add_zero]

/-- The clauses behind the condition end further on by the length of all parentheses. -/
theorem stop_covered : ∃ stop, surrounded.span.stop ≤ stop ∧
    ∀ count, stopOf? (surrounded.layout count).covered = some (stop + 2 * count) := by
  rcases List.eq_nil_or_concat' surrounded.pieces.clauses with none | ⟨others, last, whole⟩
  · refine ⟨surrounded.span.stop, Nat.le_refl _, fun count => ?_⟩
    rw [Layout.covered, none, List.map_nil, List.append_nil, stopOf?, Layout.clause,
      List.getLast?_append_of_ne_nil _ (List.cons_ne_nil _ _), ← stopOf?,
      stopOf_cons _ (surrounded.layout count).condition_nonempty]
    exact surrounded.stop_condition count
  · refine ⟨last.span.stop + (surrounded.under.front.byteLength +
      surrounded.under.text.byteLength), Nat.le_trans (Nat.sub_le _ 1) (Nat.le_add_left _ _),
        fun count => ?_⟩
    rw [Layout.covered, whole, List.map_append, List.map_singleton, ← List.append_assoc, stopOf?,
      List.getLast?_concat, Option.map_some, Option.some.injEq]
    exact (Nat.add_assoc ..).symm

/-- The SELECT also covers the parentheses. -/
theorem cover_covered (count : Nat) : cover (surrounded.layout count).covered =
    (cover (surrounded.layout 0).covered).grow (2 * count) := by
  obtain ⟨stop, least, stops⟩ := surrounded.stop_covered
  obtain ⟨first, others, whole⟩ :=
    List.exists_cons_of_ne_nil (surrounded.around.derivedHead.nonempty rfl)
  have before := surrounded.under.stop_before first (by rw [whole]; exact List.mem_cons_self)
  have extent : first.span.start ≤ stop := by
    have some := surrounded.text_pos
    change _ + _ - 1 ≤ stop at least
    omega
  have covers (count : Nat) : cover (surrounded.layout count).covered =
      ⟨first.span.start, stop + 2 * count⟩ := by
    refine cover_of ?_ (stops count) (Nat.le_add_right_of_le extent)
    have front : (surrounded.layout count).before = _ := surrounded.map_front count
    rw [Layout.covered, front, whole]
    rfl
  rw [covers, covers, Span.grow, Nat.mul_zero, Nat.add_zero]

end Surrounded

end Grammar

end AnnotatedSql
