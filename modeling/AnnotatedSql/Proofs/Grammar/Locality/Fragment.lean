/-
This file shows that the phrases of a SELECT are found alike wherever they stand before a token that
starts one of its later clauses: what is found in their tokens alone is found in the text.
-/

import AnnotatedSql.Proofs.Grammar.Locality.Composition
import AnnotatedSql.Proofs.Grammar.Locality.Excerpt

namespace AnnotatedSql.Grammar

variable {whole part : Cursor} {own rest : List Token} {ending : Token} {move back : Nat → Nat}
  {last : Option Nat} {size : Nat} {moves : Moves move back own}
  {more : ∀ token ∈ own, token.kind ≠ .endOfInput}
  {closes : endsClause 1 (rest.headD ending).kind}

/-- Where another token than the end is ahead, there are tokens left. -/
theorem Cursor.unread_ne_nil {cursor : Cursor} {kind : TokenKind} (ends : cursor.Ends)
    (found : cursor.current.kind = kind) (more : kind ≠ .endOfInput) : cursor.unread ≠ [] := by
  intro nothing
  rw [current_eq, nothing] at found
  exact more (found.symm.trans ends)

/-- What is left of an excerpt stands in the whole. -/
theorem Cut.Beside.excerpt_unread
    (beside : (Cut.excerpt moves size more rest ending closes).Beside whole part) :
    whole.unread = part.unread.map (Token.relocate move) ++ rest := by
  obtain ⟨left, unread, alike⟩ := beside.unread
  obtain ⟨before, suffix⟩ := beside.within
  obtain ⟨initial, split⟩ := beside.inside
  change before ++ whole.unread = own.map (Token.relocate move) ++ rest at suffix
  change initial ++ part.unread = own at split
  change whole.unread = left ++ rest at unread
  rw [unread, ← List.append_assoc, List.append_cancel_right_eq, ← split, List.map_append] at suffix
  have lengths : left.length = (part.unread.map (Token.relocate move)).length := by
    rw [List.length_map, alike.length_eq]
  rw [unread, (List.append_inj' suffix lengths).2]

namespace Parse

/-! ### Subqueries inside a fragment -/

theorem kind_of_expectSymbol {sign : Symbol} {span : Span} {cursor later : Cursor}
    (run : expectSymbol sign cursor = (.ok span, later)) : cursor.current.kind = .symbol sign := by
  have found : Ensures cursor (expectSymbol sign) fun _ _ => cursor.current.kind = .symbol sign :=
    ensures_expectSymbol.mpr id
  exact found span later run

/-- A SELECT that is closed inside an excerpt is a statement of its own there, whatever follows the
excerpt. -/
theorem closedSelect_anywhere {query : Select} {closing : Span} (depth other : Nat)
    {later : Cursor} (ends : ending.kind = .endOfInput)
    (beside : (Cut.excerpt moves size more rest ending closes).Beside whole part)
    (few : part.position ≤ depth + 1) (otherFew : part.position ≤ other + 1)
    (run : closedSelect (nested .always (other + 1)) part = (.ok (query, closing), later)) :
    ∃ place, closedSelect (nested .always (depth + 1)) whole =
      (.ok (query.relocate move, closing.relocate move), place) ∧
        (Cut.excerpt moves size more rest ending closes).Beside place later ∧
        later.position ≤ part.position := by
  obtain ⟨_, middle, selected, closed⟩ := bind_ok_iff.mp run
  obtain ⟨span, after, expected, final⟩ := bind_ok_iff.mp closed
  cases final
  change select (nested .always other) part = (.ok query, middle) at selected
  obtain ⟨inside, reads, derived⟩ :=
    select_finds (nested_sound .always other) beside.ends _ _ selected
  -- behind the SELECT stands the parenthesis, in the part and in the whole
  have closingKind : middle.current.kind = .symbol .rightParen :=
    kind_of_expectSymbol expected
  have position := reads.position
  have insideOwn (token : Token) (member : token ∈ inside) : token ∈ own := by
    refine beside.inside.subset ?_
    rw [reads.unread]
    exact List.mem_append_left _ member
  have unread := beside.excerpt_unread
  rw [reads.unread, List.map_append, List.append_assoc] at unread
  have ended : endsSelect (middle.unread.headD part.ending).kind := by
    rw [← reads.ending, ← Cursor.current_eq, closingKind]
    rfl
  have wholeEnded : endsSelect
      ((middle.unread.map (Token.relocate move) ++ rest).headD whole.ending).kind := by
    obtain ⟨first, further, more⟩ := List.exists_cons_of_ne_nil
      (Cursor.unread_ne_nil (reads.ends beside.ends) closingKind nofun)
    rw [Cursor.current_eq, more] at closingKind
    rw [more]
    exact congrArg endsSelect closingKind
  -- the SELECT is found in its own tokens, which stand in the part and in the whole
  obtain ⟨alone, last, ownRun, nothing, readsOwn⟩ := select_fills 0 part.lastStop derived
  have insideMore := ne_endOfInput_of_derived derived
  have besidePart := Cut.beside_excerpt part part.lastStop (Moves.none inside) 0 insideMore
    (endsClause_of_endsSelect ended)
    (by rw [reads.unread, Token.relocate_id, List.map_id]) (fun _ found => found)
    (fun none stop found => absurd (none.symm.trans found) nofun)
  have besideWhole := Cut.beside_excerpt whole part.lastStop (moves.among insideOwn) 0 insideMore
    (endsClause_of_endsSelect wholeEnded) unread beside.consumed beside.fresh
  obtain ⟨_, partRun, _⟩ := select_anywhere other ended beside.ends derived ownRun
    besidePart (by omega)
  obtain ⟨place, wholeRun, besidePlace⟩ := select_anywhere depth wholeEnded
    (beside.ending.symm ▸ ends) derived ownRun besideWhole (by omega)
  rw [selected, Select.relocate_id] at partRun
  obtain ⟨⟨⟩, -⟩ := Prod.mk.inj partRun
  have placeUnread := besidePlace.excerpt_unread
  rw [nothing, List.map_nil, List.nil_append] at placeUnread
  have sameStop : last.lastStop = middle.lastStop := readsOwn.lastStop.trans reads.lastStop.symm
  have besideMiddle : (Cut.excerpt moves size more rest ending closes).Beside place middle := {
    unread := ⟨_, placeUnread, forall₂_alike_map move _⟩
    within := List.IsSuffix.trans ⟨_, (placeUnread ▸ unread).symm⟩ beside.within
    inside := List.IsSuffix.trans ⟨_, reads.unread.symm⟩ beside.inside
    ending := besidePlace.ending.trans beside.ending
    ownEnding := reads.ending.trans beside.ownEnding
    consumed := sameStop ▸ besidePlace.consumed
    fresh := sameStop ▸ besidePlace.fresh }
  obtain ⟨found, _⟩ := mirrors_expectSymbol .rightParen place middle besideMiddle
    (Nat.zero_le _) (Nat.le_succ _)
  obtain ⟨after, closedRun, besideAfter, _, fewer⟩ := found closing later expected
  refine ⟨after, ?_, besideAfter, by omega⟩
  refine bind_ok_iff.mpr ⟨_, place, wholeRun, ?_⟩
  exact bind_ok_iff.mpr ⟨_, after, closedRun, rfl⟩

/-- The nested parsers find the same in a balanced stretch of a text, before a token that starts a
clause, and in the stretch itself. -/
theorem fragment_mirrors (moves : Moves move back own) (size : Nat)
    (more : ∀ token ∈ own, token.kind ≠ .endOfInput)
    (closes : endsClause 1 (rest.headD ending).kind) (balanced : Balanced own)
    (ends : ending.kind = .endOfInput)
    (bound depth other : Nat) (deep : bound ≤ depth) (otherDeep : bound ≤ other) :
    Nested.Mirrors (Cut.excerpt moves size more rest ending closes) bound
      (nested .always depth) (nested .always other) := by
  refine nested_mirrors (fun _ _ _ _ deep _ => excerpt_resolves balanced ends deep) ?_ bound depth
    other deep otherDeep
  intro bound depth other deep otherDeep inner
  by_cases ended : endsSelect (rest.headD ending).kind = true
  · exact closedSelect_mirrors inner ended
  · intro whole part beside _ few
    constructor
    · rintro ⟨query, closing⟩ later run
      obtain ⟨place, wholeRun, besideLater, fewer⟩ := closedSelect_anywhere depth other ends beside
        (by omega) (by omega) run
      refine ⟨place, ?_, besideLater, by omega, fewer⟩
      rw [wholeRun]
      rfl
    · exact fun exact => absurd exact.closes ended

/-! ### Expressions -/

/-- If the grammar derives an expression from some tokens, the parser takes them all. -/
theorem expr_fills {node : Expr} (size : Nat) (last : Option Nat)
    (derived : DerivesWidely (.expr node) own) :
    ∃ alone later, (nested .always own.length).expr 0 ⟨own, Token.ending size, last, []⟩ =
      (.ok alone, later) ∧ later.unread = [] ∧
        Cursor.Reads ⟨own, Token.ending size, last, []⟩ own later :=
  Accepts.fills ((nested_complete own.length).whole derived) size last (Nat.le_refl _) rfl

/-- What is found in the tokens of an expression alone is found wherever they stand before a token
that starts a clause or may end a statement. -/
theorem expr_anywhere {node alone : Expr} (depth : Nat) {place later : Cursor}
    (ends : ending.kind = .endOfInput) (derived : DerivesWidely (.expr node) own)
    (run : (nested .always own.length).expr 0 ⟨own, Token.ending size, last, []⟩ =
      (.ok alone, later))
    (beside : (Cut.excerpt moves size more rest ending closes).Beside place
      ⟨own, Token.ending size, last, []⟩)
    (deep : own.length ≤ depth) :
    ∃ after, (nested .always depth).expr 0 place = (.ok (alone.relocate move), after) ∧
      (Cut.excerpt moves size more rest ending closes).Beside after later := by
  have inner := fragment_mirrors moves size more closes derived.balanced ends own.length depth
    own.length deep (Nat.le_refl _)
  obtain ⟨found, _⟩ := inner.expr 0 place _ beside (Nat.zero_le _) (Nat.le_refl _)
  obtain ⟨after, wholeRun, besideAfter, _⟩ := found alone later run
  exact ⟨after, wholeRun, besideAfter⟩

end Parse

end AnnotatedSql.Grammar
