/-
This file finds the pieces of a text around one of its conditions.
-/

import AnnotatedSql.Proofs.Grammar.Locality.Assembly

namespace AnnotatedSql.Grammar

open Parse

/-- A condition in its text, with what the parser has found in front of it and behind it. -/
structure Around (filter : Filter) (source : Text) where
  front : List Token
  word : Token
  inside : List Token
  clauses : List Token
  closing : List Token
  ending : Token
  head : Head
  node : Expr
  tail : Tail
  tokens : tokenize source =
    (front ++ [word]) ++ (inside ++ (clauses ++ closing ++ [ending]))
  isWord : word.kind = .keyword filter.word
  ends : ending.kind = .endOfInput
  derivedHead : DerivesWidely (.select (filter.alone (cover front) head)) front
  derivedNode : DerivesWidely (.expr node) inside
  traced : Traced clauses tail.parts
  more : ∀ token ∈ clauses ++ closing, token.kind ≠ .endOfInput
  closes : Closing closing
  follow : endsClause (filter.rank + 1) ((clauses ++ closing).headD ending).kind
  tailRun : ∃ depth place after, Parse.tail (nested .always depth) filter place = (.ok tail, after) ∧
    (clauses ++ closing).length ≤ depth ∧ place.unread = clauses ++ closing ∧
    place.ending = ending ∧ place.lastStop = stopOf? inside ∧ after.unread = closing

variable {filter : Filter} {source : Text} {tree : Select} {clause : ConditionClause}

@[simp] theorem Filter.filter_assemble (span : Span) (head : Head) (clause : Option ConditionClause)
    (tail : Tail) : (filter.assemble span head clause tail).filter filter = clause := by
  cases filter <;> rfl

/-- The SELECT of the text. -/
def Around.select (around : Around filter source) : Select :=
  filter.assemble (cover (around.front ++ around.word :: around.inside ++ around.clauses))
    around.head (some ⟨cover (around.word :: around.inside), around.node⟩) around.tail

theorem exists_around (parsed : parse source = .ok tree)
    (found : tree.filter filter = some clause) :
    ∃ around : Around filter source, tree = around.select ∧ clause.expr = around.node := by
  obtain ⟨content, ending, whole, ends, more⟩ := tokenize_end source
  rw [parse, whole, statement_fresh ends, ofTokens_concat] at parsed
  have placeEnds : Cursor.Ends ⟨content, ending, none, []⟩ := ends
  obtain ⟨later, run⟩ : ∃ later, statementWith .always ⟨content, ending, none, []⟩ =
      (.ok tree, later) := ⟨_, Prod.ext parsed rfl⟩
  obtain ⟨last, selected, closes⟩ := select_of_statementWith placeEnds more tree later run
  rw [select_eq _ filter, bind_look offset_run, bind_ok_iff] at selected
  obtain ⟨head, first, headRun, selected⟩ := selected
  obtain ⟨condition, second, clauseRun, selected⟩ := bind_ok_iff.mp selected
  obtain ⟨tail, third, tailRun, selected⟩ := bind_ok_iff.mp selected
  obtain ⟨span, fourth, spanRun, selected⟩ := bind_ok_iff.mp selected
  cases spanRun
  obtain ⟨rfl, rfl⟩ : filter.assemble _ head condition tail = tree ∧ third = last := by
    obtain ⟨same, rfl⟩ := Prod.mk.inj selected
    exact ⟨Except.ok.inj same, rfl⟩
  rw [Filter.filter_assemble] at found
  subst found
  have sound := nested_sound .always content.length
  obtain ⟨front, readsHead, derivedHead⟩ := head_finds sound placeEnds head first headRun
  obtain ⟨filtered, readsClause, derivedClause⟩ :=
    conditionClause_finds sound filter.word (readsHead.ends placeEnds) _ second clauseRun
  cases derivedClause with
  | @condition word _ node inside isWord derivedNode =>
  have readsFront := readsHead.trans readsClause
  obtain ⟨clauses, readsTail, traced, follow⟩ :=
    tail_finds sound (readsFront.ends placeEnds) tail third tailRun
  have readsWhole := readsFront.trans readsTail
  have unread : content = front ++ word :: inside ++ clauses ++ third.unread := readsWhole.unread
  have nonempty := derivedNode.nonempty rfl
  have within (token : Token) (member : token ∈ clauses ++ third.unread) : token ∈ content := by
    rw [unread, List.append_assoc]
    exact List.mem_append_right _ member
  have count : content.length = (front ++ word :: inside).length + (clauses ++ third.unread).length := by
    rw [unread]
    simp only [List.length_append]
    omega
  have ahead : Ahead (endsClause 5) 0 clauses ((clauses ++ third.unread).headD ending).kind := by
    cases clauses with
    | cons first others => exact rfl
    | nil =>
        rw [List.nil_append]
        generalize third.unread = closing at closes
        cases closes with
        | absent =>
            rw [Ahead, List.headD_nil, ends]
            rfl
        | present semicolon =>
            rw [Ahead, List.headD_cons, semicolon]
            rfl
  have lastStop : second.lastStop = stopOf? inside :=
    (readsClause.lastStop_eq (List.cons_ne_nil _ _)).trans (stopOf_cons word nonempty)
  let around : Around filter source := {
    front := front
    word := word
    inside := inside
    clauses := clauses
    closing := third.unread
    ending := ending
    head := head
    node := node
    tail := tail
    tokens := by rw [whole, unread]; simp
    isWord := isWord
    ends := ends
    derivedHead := derivedHead
    derivedNode := derivedNode
    traced := traced
    more := fun token member => more token (within token member)
    closes := closes
    follow := follow _ ahead
    tailRun := ⟨content.length, second, third, tailRun, by omega,
      List.append_cancel_left (readsFront.unread.symm.trans (unread.trans (List.append_assoc ..))),
      readsFront.ending, lastStop, rfl⟩ }
  refine ⟨around, ?_, rfl⟩
  have covers := readsWhole.spanFrom (by simp)
  change filter.assemble (third.spanFrom _) _ _ _ = _
  rw [covers]
  rfl

/-- The tokens move back to their places. -/
theorem map_relocate_injective {first second : List Token} {shift : Nat}
    (same : first.map (Token.relocate (· + shift)) = second.map (Token.relocate (· + shift))) :
    first = second := by
  have back := congrArg (List.map (Token.relocate (· - shift))) same
  rwa [(Moves.behind shift first).map_back, (Moves.behind shift second).map_back] at back

/-- The pieces of a text around a condition, each with its tokens as they are read alone. -/
theorem Around.exists_pieces (around : Around filter source) {own others : List Token}
    {start stop size : Nat} (isInside : around.inside = own.map (Token.relocate (· + start)))
    (isBehind : around.clauses ++ around.closing ++ [around.ending] =
      (others ++ [Token.ending size]).map (Token.relocate (· + stop)))
    (near : ∀ last, stopOf? around.inside = some last → last ≤ stop) :
    ∃ pieces : Pieces filter, pieces.front = around.front ∧ pieces.word = around.word ∧
      pieces.own = own ∧ pieces.size = size ∧
      pieces.clauses.map (Token.relocate (· + stop)) = around.clauses ∧
      pieces.closing.map (Token.relocate (· + stop)) = around.closing := by
  rw [List.map_append, List.map_singleton] at isBehind
  obtain ⟨isOthers, isEnding⟩ := List.append_inj' isBehind rfl
  obtain ⟨clauses, closing, rfl, isClauses, isClosing⟩ := List.map_eq_append_iff.mp isOthers.symm
  have isEnding : around.ending = (Token.ending size).relocate (· + stop) :=
    List.singleton_inj.mp isEnding
  have derivedNode := around.derivedNode
  rw [isInside] at derivedNode
  have ownDerived := derivedNode.relocate (Moves.behind start own).orderly
  rw [(Moves.behind start own).map_back] at ownDerived
  have ownDerived : DerivesWidely (.expr (around.node.relocate (· - start))) own := ownDerived
  obtain ⟨head, _, headRun, headNothing, _⟩ := head_fills 0 none around.derivedHead
  obtain ⟨node, _, nodeRun, nodeNothing, _⟩ := expr_fills 0 none ownDerived
  have more (token : Token) (member : token ∈ clauses ++ closing) : token.kind ≠ .endOfInput := by
    refine around.more (token.relocate (· + stop)) ?_
    rw [isOthers]
    exact List.mem_map_of_mem member
  obtain ⟨depth, place, after, tailRun, deep, unread, atEnd, lastStop, left⟩ := around.tailRun
  have atLast : AtLast stop size (clauses ++ closing) place := by
    refine ⟨more, unread.trans isOthers, atEnd.trans isEnding, ?_⟩
    rw [lastStop]
    exact near
  have enough : (clauses ++ closing).length ≤ depth := by
    rw [isOthers, List.length_map] at deep
    exact deep
  obtain ⟨tail, later, ownRun, _, leftover⟩ := atLast.tail_alone enough tailRun
  have isLeft : later.unread = closing :=
    map_relocate_injective (leftover.symm.trans (left.trans isClosing.symm))
  have closes : Closing closing := by
    have closes := around.closes.relocate (· - stop)
    rwa [← isClosing, (Moves.behind stop closing).map_back] at closes
  have follow : endsClause (filter.rank + 1) ((clauses ++ closing).headD (Token.ending size)).kind := by
    have follow := around.follow
    rw [isOthers, isEnding] at follow
    generalize clauses ++ closing = others at follow
    cases others <;> exact follow
  exact ⟨⟨around.front, around.word, own, clauses, closing, size, head, node, tail, around.isWord,
    ⟨_, _, around.derivedHead⟩, ⟨_, ownDerived⟩, ⟨_, headRun, headNothing⟩,
    ⟨_, nodeRun, nodeNothing⟩, ⟨later, ownRun, isLeft⟩, more, closes, follow⟩, rfl, rfl, rfl, rfl,
    isClauses, isClosing⟩

end AnnotatedSql.Grammar
