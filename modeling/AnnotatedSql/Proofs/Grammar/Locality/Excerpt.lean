/-
This file shows that a SELECT which stands in a text before a token that may end a statement is
accepted by itself, as the same tree at other offsets.
-/

import AnnotatedSql.Proofs.Grammar.Completeness.Statement
import AnnotatedSql.Proofs.Grammar.Locality.Balance
import AnnotatedSql.Proofs.Grammar.Locality.Statement
import AnnotatedSql.Proofs.Grammar.Locality.Transport

namespace AnnotatedSql

namespace Grammar

variable {cut : Cut} {whole part place after : Cursor} {own others rest : List Token}
  {ending : Token} {child : Select} {move back : Nat → Nat} {last : Option Nat}

/-- The tokens come to stand at other offsets, in their order, and can be moved back. -/
structure Moves (move back : Nat → Nat) (own : List Token) : Prop where
  monotone {first second : Nat} : first ≤ second → move first ≤ move second
  orderly : Orderly back
  returns : ∀ token ∈ own, (token.relocate move).relocate back = token

namespace Moves

/-- All tokens are moved on alike. -/
theorem behind (start : Nat) (own : List Token) : Moves (· + start) (· - start) own where
  monotone least := Nat.add_le_add_right least start
  orderly := ⟨fun least => Nat.sub_le_sub_right least start, Nat.zero_sub start⟩
  returns := by simp [Token.relocate, Span.relocate]

/-- The tokens stay where they are. -/
theorem none (own : List Token) : Moves id id own := behind 0 own

theorem among (moves : Moves move back own) (inside : ∀ token ∈ others, token ∈ own) :
    Moves move back others :=
  ⟨moves.monotone, moves.orderly, fun token member => moves.returns token (inside token member)⟩

theorem map_back (moves : Moves move back own) :
    (own.map (Token.relocate move)).map (Token.relocate back) = own := by
  rw [List.map_map]
  exact (List.map_congr_left moves.returns).trans (List.map_id own)

end Moves

/-- Tokens that stand at other offsets in a text, cut out of it. -/
def Cut.excerpt (moves : Moves move back own) (size : Nat)
    (more : ∀ token ∈ own, token.kind ≠ .endOfInput) (rest : List Token) (ending : Token)
    (closes : endsClause 1 (rest.headD ending).kind) : Cut where
  move := move
  monotone := moves.monotone
  given := own.map (Token.relocate move)
  own := own
  more := more
  ownEnding := Token.ending size
  ownEnds := rfl
  rest := rest
  ending := ending
  closes := closes

/-- A token that was moved on is like the token itself. -/
theorem alike_relocate (move : Nat → Nat) (token : Token) :
    (token.relocate move).Alike move token := ⟨rfl, rfl, rfl⟩

theorem forall₂_alike_map (move : Nat → Nat) (own : List Token) :
    List.Forall₂ (Token.Alike move) (own.map (Token.relocate move)) own :=
  List.forall₂_map_left_iff.mpr (List.forall₂_same.mpr fun token _ => alike_relocate move token)

/-- What is left of the part in the whole is what is left of the part by itself. -/
theorem Cut.Beside.left {back : Token → Token} (beside : cut.Beside whole part)
    (same : cut.own = cut.given.map back) :
    ∃ before left, cut.given = before ++ left ∧ whole.unread = left ++ cut.rest ∧
      part.unread = left.map back := by
  obtain ⟨left, unread, alike⟩ := beside.unread
  obtain ⟨before, suffix⟩ := beside.within
  rw [unread, ← List.append_assoc] at suffix
  have given : cut.given = before ++ left := (List.append_cancel_right suffix).symm
  refine ⟨before, left, given, unread, ?_⟩
  obtain ⟨initial, split⟩ := beside.inside
  rw [same, given, List.map_append] at split
  have lengths : part.unread.length = (left.map back).length := by
    rw [List.length_map, alike.length_eq]
  exact (List.append_inj' split lengths).2

theorem Cursor.current_eq (cursor : Cursor) :
    cursor.current = cursor.unread.headD cursor.ending := by
  rw [current, ahead]
  cases cursor.unread <;> rfl

/-- The cursor in the text is at the first of the tokens, as is the one in the excerpt. -/
theorem Cut.beside_excerpt (place : Cursor) (last : Option Nat) (moves : Moves move back own)
    (size : Nat)
    (more : ∀ token ∈ own, token.kind ≠ .endOfInput)
    (closes : endsClause 1 (rest.headD place.ending).kind)
    (unread : place.unread = own.map (Token.relocate move) ++ rest)
    (consumed : ∀ stop, last = some stop → place.lastStop = some (move stop))
    (fresh : last = none → ∀ stop, place.lastStop = some stop → stop ≤ move 0) :
    (Cut.excerpt moves size more rest place.ending closes).Beside place
      ⟨own, Token.ending size, last, []⟩ where
  unread := ⟨_, unread, forall₂_alike_map move own⟩
  within := unread ▸ List.suffix_rfl
  inside := List.suffix_rfl
  ending := rfl
  ownEnding := rfl
  consumed := consumed
  fresh := fresh

namespace Parse

/-- In tokens of which the parentheses match, a parenthesis that encloses a whole operand does so
also when the tokens are taken by themselves. -/
theorem resolves_of_balanced {back : Nat → Nat} (orderly : Orderly back)
    (same : cut.own = cut.given.map (Token.relocate back)) (balanced : Balanced cut.given)
    (ends : cut.ending.kind = .endOfInput) {bound depth other : Nat} (deep : bound ≤ other) :
    Resolves cut bound (nested .always depth) (nested .always other) := by
  intro whole part beside few opens node place run
  have some := beside.position_pos opens nofun
  have wholeEnds : whole.Ends := by
    rw [Cursor.Ends, beside.ending]
    exact ends
  obtain ⟨opening, inside, closing, expr, reads, opened, derived, closed, _, following⟩ :=
    enclosed_takes (nested_sound .always depth) wholeEnds ((beside.alike some).kind.trans opens)
      _ _ (enclosed_found.mpr run) node rfl
  obtain ⟨before, left, given, unread, own⟩ := beside.left same
  -- what is enclosed lies among the tokens of the part
  rw [given] at balanced
  have nonempty : left ≠ [] := by
    rintro rfl
    rw [Cursor.position, own] at some
    exact absurd some (Nat.not_succ_le_zero 0)
  obtain ⟨further, split⟩ := balanced.closes_inside derived.balanced opened nonempty
    (reads.unread.symm.trans unread)
  have offers : part.Offers ((opening :: inside ++ [closing]).map (Token.relocate back))
      fun kind => !Precedence.continuesOperand kind := by
    constructor
    · exact ⟨further.map (Token.relocate back), by rw [own, split, List.map_append]⟩
    · have behind := reads.ahead 0
      rw [Nat.add_zero] at behind
      rw [List.length_map, Bool.not_eq_true']
      rcases Nat.lt_or_ge (opening :: inside ++ [closing]).length part.position with more | none
      · rw [← (beside.alike more).kind, ← behind]
        exact following
      · rw [Cursor.ahead, List.getD_eq_getElem?_getD, List.getElem?_eq_none none,
          Option.getD_none, beside.ownEnding, cut.ownEnds]
        rfl
  have taken : Parses (other + 1) (enclosed? (nested .always other))
      ((opening :: inside ++ [closing]).map (Token.relocate back))
      (fun kind => !Precedence.continuesOperand kind) fun value left => value.isSome ∧ left = [] := by
    rw [List.map_append, List.map_cons, List.map_singleton, List.cons_append]
    refine enclosed_whole (nested_complete other) ⟨_, derived.relocate orderly⟩ closed ?_
    exact fun kind ahead => Bool.not_eq_true' .. ▸ ahead
  obtain ⟨value, later, _, _, ownRun, _, _, found, _⟩ := taken part (by omega) offers
  obtain ⟨ownNode, rfl⟩ := Option.isSome_iff_exists.mp found
  exact ⟨ownNode, later, enclosed_found.mp ownRun⟩

/-- A parenthesis that encloses a whole operand of an excerpt does so in the excerpt alone. -/
theorem excerpt_resolves {moves : Moves move back own} {size : Nat}
    {more : ∀ token ∈ own, token.kind ≠ .endOfInput}
    {closes : endsClause 1 (rest.headD ending).kind}
    (balanced : Balanced own) (ends : ending.kind = .endOfInput) {bound depth other : Nat}
    (deep : bound ≤ other) :
    Resolves (Cut.excerpt moves size more rest ending closes) bound (nested .always depth)
      (nested .always other) :=
  resolves_of_balanced moves.orderly moves.map_back.symm (balanced.relocate move) ends deep

/-- The nested parsers find the same in a balanced stretch of a text, before a token that may end a
statement, and in the stretch itself. -/
theorem excerpt_mirrors (moves : Moves move back own) (size : Nat)
    (more : ∀ token ∈ own, token.kind ≠ .endOfInput)
    (closes : endsClause 1 (rest.headD ending).kind) (ended : endsSelect (rest.headD ending).kind)
    (balanced : Balanced own) (ends : ending.kind = .endOfInput) (bound depth other : Nat)
    (deep : bound ≤ depth) (otherDeep : bound ≤ other) :
    Nested.Mirrors (Cut.excerpt moves size more rest ending closes) bound
      (nested .always depth) (nested .always other) :=
  nested_mirrors (fun _ _ _ _ deep _ => excerpt_resolves balanced ends deep)
    (fun _ _ _ _ _ inner => closedSelect_mirrors inner ended) bound depth other deep otherDeep

/-! ### The end of a statement -/

/-- What is found up to the end of the input, or up to a last semicolon, is a statement. -/
theorem statementWith_of_select {depth : Nat} {later : Cursor} {tree : Select}
    (deep : place.position = depth)
    (run : select (nested .always depth) place = (.ok tree, later)) (ends : later.Ends)
    (closes : Closing later.unread) : ∃ last, statementWith .always place = (.ok tree, last) := by
  have looks {cursor : Cursor} (kind : TokenKind) :
      atKind kind cursor = (.ok (cursor.current.kind == kind), cursor) := rfl
  have finishes {last : Cursor} (atEnd : last.current.kind = .endOfInput) :
      (atKind .endOfInput >>= fun ended =>
        if ended then pure tree else fail .endOfInput : Parser Select) last = (.ok tree, last) := by
    rw [bind_look (looks _), atEnd]
    rfl
  rw [statementWith, bind_look remaining_run, deep, bind_run, run]
  dsimp only
  rw [atSymbol, bind_look (looks _)]
  obtain ⟨unread, ending, lastStop, rejected⟩ := later
  dsimp only at closes
  cases closes with
  | absent =>
      have notClosed : (ending.kind == .symbol .semicolon) = false := by
        rw [show ending.kind = .endOfInput from ends]
        rfl
      refine ⟨⟨[], ending, lastStop, rejected⟩, ?_⟩
      change (if (ending.kind == .symbol .semicolon) = true then _ else _ : Parser Select) _ = _
      rw [notClosed]
      exact finishes ends
  | @present semicolon isSemicolon =>
      refine ⟨⟨[], ending, some semicolon.span.stop, rejected⟩, ?_⟩
      change (if (semicolon.kind == .symbol .semicolon) = true then _ else _ : Parser Select) _ = _
      rw [isSemicolon]
      exact finishes ends

/-- A statement is a SELECT, and at most a semicolon is left behind it. -/
theorem select_of_statementWith {retry : Retry} (ends : place.Ends)
    (more : ∀ token ∈ place.unread, token.kind ≠ .endOfInput) :
    Ensures place (statementWith retry) fun tree _ =>
      ∃ after, select (nested retry place.position) place = (.ok tree, after) ∧
        Closing after.unread := by
  simp only [statementWith, ensures_bind, ensures_remaining, ensures_atSymbol]
  intro tree after selected
  obtain ⟨tokens, reads, _⟩ := select_finds (nested_sound retry _) ends tree after selected
  have moreBehind (token : Token) (member : token ∈ after.unread) : token.kind ≠ .endOfInput :=
    more token (reads.unread ▸ List.mem_append_right _ member)
  split
  case isTrue semicolon =>
    have semicolon := beq_iff_eq.mp semicolon
    have next := Cursor.reads_advance_of_kind (reads.ends ends) semicolon (by simp)
    simp only [ensures_bind, ensures_advance, ensures_atKind]
    split
    case isTrue atEnd =>
      have nothing := Cursor.unread_of_atEnd (beq_iff_eq.mp atEnd) fun token member =>
        moreBehind token (next.unread ▸ List.mem_append_right _ member)
      refine ensures_pure.mpr ⟨after, selected, ?_⟩
      rw [next.unread, nothing]
      exact .present semicolon
    case isFalse => exact ensures_fail
  case isFalse =>
    simp only [ensures_bind, ensures_atKind]
    split
    case isTrue atEnd =>
      refine ensures_pure.mpr ⟨after, selected, ?_⟩
      rw [Cursor.unread_of_atEnd (beq_iff_eq.mp atEnd) moreBehind]
      exact .absent
    case isFalse => exact ensures_fail

/-! ### A SELECT alone -/

/-- What takes some tokens takes them all where nothing follows. -/
theorem Accepts.fills {Value : Type} {parser : Parser Value} {bound : Nat}
    {follow : TokenKind → Bool} (accepts : Accepts bound parser own follow) (size : Nat)
    (last : Option Nat) (few : own.length ≤ bound) (ends : follow .endOfInput) :
    ∃ alone later, parser ⟨own, Token.ending size, last, []⟩ = (.ok alone, later) ∧
      later.unread = [] ∧ Cursor.Reads ⟨own, Token.ending size, last, []⟩ own later := by
  have offers : Cursor.Offers ⟨own, Token.ending size, last, []⟩ own follow := by
    refine ⟨⟨[], (List.append_nil own).symm⟩, ?_⟩
    rw [Cursor.ahead, List.getD_eq_getElem?_getD, List.getElem?_length]
    exact ends
  obtain ⟨alone, later, consumed, left, run, taken, reads, rfl⟩ :=
    accepts ⟨own, Token.ending size, last, []⟩ few offers
  rw [List.append_nil] at taken
  have unread : own = consumed ++ later.unread := reads.unread
  rw [taken, List.self_eq_append_right] at unread
  exact ⟨alone, later, run, unread, taken ▸ reads⟩

/-- If the grammar derives a SELECT from some tokens, the parser takes them all. -/
theorem select_fills (size : Nat) (last : Option Nat) (derived : DerivesWidely (.select child) own) :
    ∃ alone later, select (nested .always own.length) ⟨own, Token.ending size, last, []⟩ =
      (.ok alone, later) ∧ later.unread = [] ∧
        Cursor.Reads ⟨own, Token.ending size, last, []⟩ own later :=
  Accepts.fills (select_accepts (nested_complete own.length) derived) size last (Nat.le_succ _) rfl

/-- Tokens of a phrase end no input. -/
theorem ne_endOfInput_of_derived {node : Node} (derived : DerivesWidely node own) :
    ∀ token ∈ own, token.kind ≠ .endOfInput := by
  intro token member atEnd
  have found := derived.legible token member
  rw [atEnd] at found
  cases found

/-- What is found in the tokens of a SELECT alone is found wherever they stand before a token that
may end a statement. -/
theorem select_anywhere {moves : Moves move back own} {size : Nat} (depth : Nat)
    {more : ∀ token ∈ own, token.kind ≠ .endOfInput}
    {closes : endsClause 1 (rest.headD ending).kind} {later : Cursor} {alone : Select}
    (ended : endsSelect (rest.headD ending).kind) (ends : ending.kind = .endOfInput)
    (derived : DerivesWidely (.select child) own)
    (run : select (nested .always own.length) ⟨own, Token.ending size, last, []⟩ =
      (.ok alone, later))
    (beside : (Cut.excerpt moves size more rest ending closes).Beside place
      ⟨own, Token.ending size, last, []⟩)
    (deep : own.length ≤ depth + 1) :
    ∃ after, select (nested .always depth) place = (.ok (alone.relocate move), after) ∧
      (Cut.excerpt moves size more rest ending closes).Beside after later := by
  have some : 1 ≤ own.length := List.length_pos_iff.mpr (derived.nonempty rfl)
  have inner := excerpt_mirrors moves size more closes ended derived.balanced ends (own.length - 1)
    depth own.length (by omega) (by omega)
  obtain ⟨found, _⟩ := select_mirrors inner (nested_failsAtEnd .always depth) ended place _ beside
    (Nat.zero_le _) (show own.length ≤ own.length - 1 + 1 by omega)
  obtain ⟨after, wholeRun, besideAfter, _⟩ := found alone later run
  exact ⟨after, wholeRun, besideAfter⟩

/-- A SELECT that is found at some place, before a token that may end a statement, is a statement by
itself, wherever its tokens stand. -/
theorem select_alone {depth start : Nat} (size : Nat) (ends : place.Ends)
    (run : select (nested .always depth) place = (.ok child, after))
    (closes : endsSelect after.current.kind) (few : place.position ≤ depth + 1)
    (reads : place.Reads (own.map (Token.relocate (· + start))) after)
    (derived : DerivesWidely (.select child) (own.map (Token.relocate (· + start))))
    (fresh : ∀ stop, place.lastStop = some stop → stop ≤ start) :
    ∃ alone, (statement (Cursor.ofTokens (own ++ [Token.ending size]))).1 = .ok alone ∧
      child = alone.relocate (· + start) := by
  have moves := Moves.behind start own
  have ended : endsSelect (after.unread.headD place.ending).kind := by
    rw [← reads.ending, ← Cursor.current_eq]
    exact closes
  have ownDerived := derived.relocate moves.orderly
  rw [moves.map_back] at ownDerived
  obtain ⟨alone, later, ownRun, nothing, readsOwn⟩ := select_fills size none ownDerived
  refine ⟨alone, ?_, ?_⟩
  · have closes : Closing later.unread := by
      rw [nothing]
      exact .absent
    have deep : Cursor.position ⟨own, Token.ending size, none, []⟩ = own.length := rfl
    obtain ⟨_, whole⟩ := statementWith_of_select deep ownRun (readsOwn.ends rfl) closes
    rw [statement_fresh rfl, ofTokens_concat, whole]
  -- what is found in the excerpt is found in the whole text
  · have read := reads.position
    rw [List.length_map] at read
    have beside := Cut.beside_excerpt place none moves size (ne_endOfInput_of_derived ownDerived)
      (endsClause_of_endsSelect ended) reads.unread nofun fun _ stop found =>
        Nat.le_trans (fresh stop found) (Nat.le_add_left start 0)
    obtain ⟨_, wholeRun, _⟩ := select_anywhere depth ended ends ownDerived ownRun beside
      (by omega)
    rw [run] at wholeRun
    cases wholeRun
    rfl

end Parse

end Grammar

end AnnotatedSql
