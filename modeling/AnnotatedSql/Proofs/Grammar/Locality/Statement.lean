/-
This file shows that a text of which only the offsets differ is accepted alike: the tree or the
error is the same, moved to the other offsets.
-/

import AnnotatedSql.Proofs.Grammar.Locality.Select

namespace AnnotatedSql.Grammar

/-- The tree or the error, moved to other offsets. -/
def relocateOutcome (move : Nat → Nat) : Except SyntaxError Select → Except SyntaxError Select
  | .ok tree => .ok (tree.relocate move)
  | .error error => .error (error.relocate move)

namespace Parse

variable {cut : Cut} {least before after bound : Nat} {tokens others : List Token}
  {ending other : Token} {move : Nat → Nat}

/-- If only offsets differ, both see the same kinds, also at the end. -/
theorem mirrors_atKind_bind_of_exact {Result : Type} {kind : TokenKind} {carry : Result → Result}
    {firstNext secondNext : Bool → Parser Result} (exact : cut.Exact)
    (next : ∀ found enough, (found = true → kind ≠ .endOfInput → 1 ≤ enough) →
      Mirrors cut enough before after (firstNext found) (secondNext found) carry) :
    Mirrors cut least before after (atKind kind >>= firstNext) (atKind kind >>= secondNext)
      carry := by
  intro whole part beside enough few
  rw [atKind_bind, atKind_bind, bind_look (kindAhead_run 0), bind_look (kindAhead_run 0),
    (beside.alike_of_exact exact 0).kind]
  refine next _ part.position ?_ whole part beside (Nat.le_refl _) few
  intro found more
  exact beside.position_pos (beq_iff_eq.mp found) more

theorem statementWith_mirrors (exact : cut.Exact) :
    Mirrors cut 0 bound bound (statementWith .always) (statementWith .always)
      (Select.relocate cut.move) := by
  refine mirrors_remaining_bind fun size few rounds enough => ?_
  have inner : Nested.Mirrors cut size (nested .always rounds) (nested .always size) :=
    nested_mirrors (fun _ _ _ _ _ inner => resolves_of_exact exact inner)
      (fun _ _ _ _ _ inner => closedSelect_mirrors inner exact.closes) size rounds size enough
      (Nat.le_refl size)
  have finishes (tree : Select) : Mirrors cut 0 size size
      (do if ← atKind .endOfInput then return tree.relocate cut.move else fail .endOfInput)
      (do if ← atKind .endOfInput then return tree else fail .endOfInput)
      (Select.relocate cut.move) := by
    refine mirrors_atKind_bind_of_exact exact fun found enough _ => ?_
    exact mirrors_ite (fun _ => mirrors_pure rfl) fun _ => mirrors_fail _
  refine Mirrors.mono ?_ (Nat.le_refl _) (Nat.le_refl _) few
  refine (select_mirrors inner (nested_failsAtEnd .always rounds) exact.closes).here.bind
    fun tree => ?_
  refine mirrors_atKind_bind_of_exact exact fun found enough some => ?_
  refine mirrors_ite (fun semicolon => ?_) fun _ => (finishes tree).anywhere
  exact (mirrors_advance (some semicolon nofun)).here.bind fun _ => finishes tree

/-- Both cursors stand at the start. -/
theorem beside_ofTokens (given : cut.given = tokens) (own : cut.own = others) (rest : cut.rest = [])
    (ends : cut.ending = ending) (ownEnds : cut.ownEnding = other)
    (alike : List.Forall₂ (Token.Alike cut.move) tokens others) :
    cut.Beside (Cursor.ofTokens (tokens ++ [ending])) (Cursor.ofTokens (others ++ [other])) where
  unread := ⟨tokens, by simp [Cursor.ofTokens, rest], by simpa [Cursor.ofTokens] using alike⟩
  within := by simp [Cursor.ofTokens, given, rest]
  inside := by simp [Cursor.ofTokens, own]
  ending := by simp [Cursor.ofTokens, ends]
  ownEnding := by simp [Cursor.ofTokens, ownEnds]
  consumed := nofun
  fresh := nofun

/-- From a fresh place, trying every parenthesis again ends alike, with as many tokens left. -/
theorem statement_fresh_place (tokens : List Token) (ends : ending.kind = .endOfInput) :
    (statement (Cursor.ofTokens (tokens ++ [ending]))).1 =
        (statementWith .always (Cursor.ofTokens (tokens ++ [ending]))).1 ∧
      (statement (Cursor.ofTokens (tokens ++ [ending]))).2.position =
        (statementWith .always (Cursor.ofTokens (tokens ++ [ending]))).2.position := by
  have last : (Cursor.ofTokens (tokens ++ [ending])).ending = ending := List.getLastD_concat
  obtain ⟨outcome, later, left, run, plainRun, _⟩ :=
    statementWith_agree (last ▸ ends) _ [] (ofTokens_valid _) (Nat.le_refl _)
  have fresh : { Cursor.ofTokens (tokens ++ [ending]) with rejected := [] } =
      Cursor.ofTokens (tokens ++ [ending]) := rfl
  rw [fresh] at plainRun
  rw [statement, run, plainRun]
  exact ⟨rfl, rfl⟩

/-- From a fresh place, trying every parenthesis again changes nothing. -/
theorem statement_fresh (ends : ending.kind = .endOfInput) :
    (statement (Cursor.ofTokens (tokens ++ [ending]))).1 =
      (statementWith .always (Cursor.ofTokens (tokens ++ [ending]))).1 :=
  (statement_fresh_place tokens ends).1

section
variable (monotone : ∀ {first second : Nat}, first ≤ second → move first ≤ move second)
  (alike : List.Forall₂ (Token.Alike move) tokens others) (ends : ending.Alike move other)
  (last : other.kind = .endOfInput) (more : ∀ token ∈ others, token.kind ≠ .endOfInput)
include monotone alike ends last more

/-- Tokens that differ in their offsets only make the same statement, or fail with as many tokens
left. -/
theorem statement_relocated_place :
    (statement (Cursor.ofTokens (tokens ++ [ending]))).1 =
        relocateOutcome move (statement (Cursor.ofTokens (others ++ [other]))).1 ∧
      ∀ error, (statement (Cursor.ofTokens (others ++ [other]))).1 = .error error →
        (statement (Cursor.ofTokens (tokens ++ [ending]))).2.position =
          (statement (Cursor.ofTokens (others ++ [other]))).2.position := by
  have closes : endsClause 1 (([] : List Token).headD ending).kind := by
    rw [List.headD_nil, ends.kind, last]
    rfl
  let cut : Cut := ⟨move, monotone, tokens, others, more, other, last, [], ending, closes⟩
  have exact : cut.Exact := ⟨rfl, ends⟩
  have beside : cut.Beside (Cursor.ofTokens (tokens ++ [ending]))
      (Cursor.ofTokens (others ++ [other])) := beside_ofTokens rfl rfl rfl rfl rfl alike
  obtain ⟨same, place⟩ := statement_fresh_place tokens (ends.kind.trans last)
  obtain ⟨ownSame, ownPlace⟩ := statement_fresh_place others last
  rw [same, place, ownSame, ownPlace]
  obtain ⟨found, fails⟩ :=
    statementWith_mirrors exact _ _ beside (Nat.zero_le _) (Nat.le_refl _)
  rcases run : statementWith .always (Cursor.ofTokens (others ++ [other])) with ⟨error | tree, later⟩
  · obtain ⟨place, wholeRun, samePlace⟩ := fails exact error later run
    rw [wholeRun]
    exact ⟨rfl, fun _ _ => samePlace⟩
  · obtain ⟨place, wholeRun, _⟩ := found tree later run
    rw [wholeRun]
    exact ⟨rfl, by rintro _ ⟨⟩⟩

/-- Tokens that differ in their offsets only make the same statement, or fail at the same token. -/
theorem statement_relocated :
    (statement (Cursor.ofTokens (tokens ++ [ending]))).1 =
      relocateOutcome move (statement (Cursor.ofTokens (others ++ [other]))).1 :=
  (statement_relocated_place monotone alike ends last more).1

end

end Parse

end AnnotatedSql.Grammar
