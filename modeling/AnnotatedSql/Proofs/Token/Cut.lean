/-
This file shows that a lexeme, and what is skipped in front of it, does not depend on the text behind
it: cut off there, the text is read alike.
-/

import AnnotatedSql.Proofs.Token.Tiling

namespace AnnotatedSql

variable {short dropped kept : Text} {lexeme : Lexeme}

/-! ### Texts that are cut off

A text `short ++ dropped` is cut off in front of `dropped`. Where a reading of it leaves
`kept ++ dropped`, it ends before the cut, and reading `short` ends at the same place. -/

theorem Text.dropWhile_cut {isInside : Char → Bool}
    (left : (short ++ dropped).dropWhile isInside = kept ++ dropped) :
    short.takeWhile isInside = (short ++ dropped).takeWhile isInside ∧
      short.dropWhile isInside = kept := by
  induction short with
  | nil =>
      have lengths := congrArg List.length left
      have fewer := (List.dropWhile_sublist (l := dropped) isInside).length_le
      rw [List.nil_append, List.length_append] at lengths
      obtain rfl : kept = [] := List.eq_nil_of_length_eq_zero (by omega)
      have whole := List.takeWhile_append_dropWhile (p := isInside) (l := dropped)
      rw [List.nil_append] at left ⊢
      rw [left, List.append_left_eq_self] at whole
      exact ⟨whole.symm, rfl⟩
  | cons first rest ih =>
      rw [List.cons_append] at left ⊢
      by_cases inside : isInside first
      · rw [List.dropWhile_cons_of_pos inside] at left ⊢
        rw [List.takeWhile_cons_of_pos inside, List.takeWhile_cons_of_pos inside]
        exact ⟨congrArg _ (ih left).1, (ih left).2⟩
      · rw [List.dropWhile_cons_of_neg inside] at left ⊢
        rw [List.takeWhile_cons_of_neg inside, List.takeWhile_cons_of_neg inside]
        rw [← List.cons_append] at left
        exact ⟨rfl, List.append_cancel_right left⟩

/-- A text that is left up to some end goes on to that end. -/
theorem Text.dropWhile_reaches {text : Text} {isInside : Char → Bool}
    (left : text.dropWhile isInside = kept ++ dropped) : ∃ tail, text = tail ++ dropped := by
  have whole := List.takeWhile_append_dropWhile (p := isInside) (l := text)
  rw [left, ← List.append_assoc] at whole
  exact ⟨_, whole.symm⟩

namespace Lexeme

/-- The lexeme with another text behind it. -/
def followedBy (lexeme : Lexeme) (rest : Text) : Lexeme := { lexeme with rest := rest }

theorem word_cut {first : Char} (left : (word first (short ++ dropped)).rest = kept ++ dropped) :
    word first short = (word first (short ++ dropped)).followedBy kept := by
  obtain ⟨taken, dropped⟩ := Text.dropWhile_cut left
  simp only [word, followedBy, taken, dropped]

theorem wordOrError_cut {first : Char}
    (left : (wordOrError first (short ++ dropped)).rest = kept ++ dropped) :
    wordOrError first short = (wordOrError first (short ++ dropped)).followedBy kept := by
  unfold wordOrError at left ⊢
  split at left
  · next starts =>
      rw [if_pos starts, if_pos starts]
      exact word_cut left
  · next starts =>
      rw [if_neg starts, if_neg starts]
      rw [List.append_cancel_right left]
      rfl

theorem quotedDigits_cut {kind : TokenKind} {isDigit : Char → Bool} {letter : Char}
    (left : (quotedDigits kind isDigit letter (short ++ dropped)).rest = kept ++ dropped) :
    quotedDigits kind isDigit letter short =
      (quotedDigits kind isDigit letter (short ++ dropped)).followedBy kept := by
  unfold quotedDigits at left ⊢
  dsimp only at left ⊢
  split at left
  · next after closing =>
      rw [show after = kept ++ dropped from left, ← List.cons_append] at closing
      obtain ⟨taken, behind⟩ := Text.dropWhile_cut closing
      rw [behind, taken]
      rfl
  · next other =>
      obtain ⟨taken, behind⟩ := Text.dropWhile_cut left
      rw [behind, taken]
      split
      · next after => exact absurd left (other (after ++ dropped))
      · rfl

/-- What follows a closing mark is no further one. -/
theorem splitQuoted_single {mark : Char} {text : Text} {read : Text × Text}
    (found : splitQuoted? mark text = some read) : read.2.head? ≠ some mark := by
  fun_induction splitQuoted? mark text generalizing read with
  | case1 => cases found
  | case2 =>
      cases found
      intro same
      cases same
  | case3 after ih =>
      obtain ⟨later, laterFound, rfl⟩ := Option.map_eq_some_iff.mp found
      have single := ih laterFound
      exact single
  | case4 second after other =>
      cases found
      exact fun same => other (Option.some.inj same)
  | case5 first rest differs ih =>
      obtain ⟨later, laterFound, rfl⟩ := Option.map_eq_some_iff.mp found
      have single := ih laterFound
      exact single

/-- A quotation that is closed in front of the cut is closed by the same mark. -/
theorem splitQuoted_cut {mark : Char} {body : Text}
    (found : splitQuoted? mark (short ++ dropped) = some (body, kept ++ dropped)) :
    splitQuoted? mark short = some (body, kept) := by
  have whole := splitQuoted_append _ _ _ found
  obtain ⟨contents, rfl⟩ := splitQuoted_contents found
  rw [← List.append_assoc, List.append_cancel_right_eq] at whole
  have single : kept.head? ≠ some mark := by
    intro marked
    refine splitQuoted_single found ?_
    rw [List.head?_append, marked]
    rfl
  rw [← whole, List.append_assoc]
  exact splitQuoted_double mark contents single

theorem quoted_cut {kind : TokenKind} {error : LexicalError} {opening closing : Char}
    (left : (quoted kind error opening closing (short ++ dropped)).rest = kept ++ dropped) :
    quoted kind error opening closing short =
      (quoted kind error opening closing (short ++ dropped)).followedBy kept := by
  unfold quoted at left ⊢
  split at left
  · next body after found =>
      rw [show after = kept ++ dropped from left] at found
      rw [splitQuoted_cut found]
      rfl
  · next missing =>
      obtain ⟨rfl, rfl⟩ := List.append_eq_nil_iff.mp left.symm
      rw [List.append_nil] at missing ⊢
      rw [missing]
      rfl

theorem splitDecimal_cut (left : (splitDecimal (short ++ dropped)).2 = kept ++ dropped) :
    splitDecimal short = ((splitDecimal (short ++ dropped)).1, kept) := by
  unfold splitDecimal at left ⊢
  dsimp only at left ⊢
  split at left
  · next digit rest point =>
      split at left
      · next isDigit =>
          obtain ⟨tail, rfl⟩ := Text.dropWhile_reaches left
          rw [← List.cons_append, ← List.cons_append] at point
          obtain ⟨taken, behind⟩ := Text.dropWhile_cut point
          obtain ⟨fraction, behindFraction⟩ := Text.dropWhile_cut left
          simp only [behind, taken, isDigit, if_true, fraction, behindFraction]
      · next noDigit =>
          rw [show '.' :: digit :: rest = kept ++ dropped from left] at point
          obtain ⟨taken, behind⟩ := Text.dropWhile_cut point
          rw [behind, taken, if_neg noDigit]
          split
          · next other further =>
              rw [List.cons_append, List.cons_append, List.cons.injEq, List.cons.injEq] at left
              rw [← left.2.1, if_neg noDigit]
          · rfl
  · next other =>
      obtain ⟨taken, behind⟩ := Text.dropWhile_cut left
      rw [behind, taken]
      split
      · next digit rest => exact absurd left (other digit (rest ++ dropped))
      · rfl

theorem splitSign_cut (left : (Text.splitSign (short ++ dropped)).2 = kept ++ dropped) :
    Text.splitSign short = ((Text.splitSign (short ++ dropped)).1, kept) := by
  cases short with
  | nil =>
      have whole := Text.splitSign_append ([] ++ dropped)
      rw [left, ← List.append_assoc, List.append_cancel_right_eq] at whole
      obtain ⟨unsigned, rfl⟩ := List.append_eq_nil_iff.mp whole
      rw [unsigned]
      rfl
  | cons first rest =>
      unfold Text.splitSign at left ⊢
      split at left
      · next same =>
          obtain ⟨rfl, rfl⟩ := List.cons.inj same
          rw [List.append_cancel_right left]
          rfl
      · next same =>
          obtain ⟨rfl, rfl⟩ := List.cons.inj same
          rw [List.append_cancel_right left]
          rfl
      · next plus minus =>
          obtain rfl : first :: rest = kept := List.append_cancel_right left
          split
          · next same => exact absurd (congrArg (· ++ dropped) same) (plus _)
          · next same => exact absurd (congrArg (· ++ dropped) same) (minus _)
          · rfl

/-- A text that is left up to some end behind a sign goes on to that end. -/
theorem splitSign_reaches {text : Text} (left : (Text.splitSign text).2 = kept ++ dropped) :
    ∃ tail, text = tail ++ dropped := by
  have whole := Text.splitSign_append text
  rw [left, ← List.append_assoc] at whole
  exact ⟨_, whole.symm⟩

theorem number_cut (left : (number (short ++ dropped)).rest = kept ++ dropped) :
    number short = (number (short ++ dropped)).followedBy kept := by
  unfold number at left ⊢
  dsimp only at left ⊢
  split at left
  · next ends =>
      obtain ⟨rfl, rfl⟩ := List.append_eq_nil_iff.mp left.symm
      rw [List.append_nil] at ends ⊢
      rw [ends]
      rfl
  · next letter rest behind =>
      split at left
      · next exponent =>
          split at left
          · next missing =>
              obtain ⟨tail, rfl⟩ := splitSign_reaches left
              have decimal : splitDecimal short = (_, letter :: tail) := splitDecimal_cut behind
              have sign := splitSign_cut left
              have reaches : (Text.splitSign (tail ++ dropped)).2 = kept ++ dropped := left
              rw [reaches] at missing
              have noDigit : kept.takeWhile Char.isDigit = [] := by
                have whole :=
                  List.takeWhile_append_dropWhile (p := Char.isDigit) (l := kept ++ dropped)
                rw [missing, List.nil_append] at whole
                exact (Text.dropWhile_cut whole).1.trans missing
              simp only [decimal, sign, noDigit, exponent, reaches, missing, if_true, followedBy]
          · next some =>
              obtain ⟨after, reaches⟩ := Text.dropWhile_reaches left
              obtain ⟨tail, rfl⟩ := splitSign_reaches reaches
              have decimal : splitDecimal short = (_, letter :: tail) := splitDecimal_cut behind
              have sign := splitSign_cut reaches
              have left : (Text.splitSign (tail ++ dropped)).2.dropWhile Char.isDigit =
                kept ++ dropped := left
              rw [reaches] at left some
              obtain ⟨digits, behindDigits⟩ := Text.dropWhile_cut left
              simp only [decimal, sign, exponent, some, if_true, if_false, followedBy, reaches,
                digits, behindDigits]
      · next other =>
          have left : letter :: rest = kept ++ dropped := left
          rw [left] at behind
          rw [splitDecimal_cut behind]
          cases kept with
          | nil => simp only [other, if_false, followedBy]
          | cons first further =>
              rw [List.cons_append, List.cons.injEq] at left
              rw [← left.1]
              simp only [other, if_false, followedBy]

theorem based_cut (found : based? (short ++ dropped) = some lexeme)
    (left : lexeme.rest = kept ++ dropped) : based? short = some (lexeme.followedBy kept) := by
  unfold based? at found
  split at found
  · next letter digit rest whole =>
      split at found
      · next hexadecimal =>
          obtain rfl := Option.some.inj found
          obtain ⟨tail, rfl⟩ := Text.dropWhile_reaches left
          obtain rfl : short = '0' :: letter :: digit :: tail := List.append_cancel_right whole
          obtain ⟨taken, behind⟩ := Text.dropWhile_cut left
          rw [based?, if_pos hexadecimal, taken, behind]
          rfl
      · next other =>
          split at found
          · next bits =>
              obtain rfl := Option.some.inj found
              obtain ⟨tail, rfl⟩ := Text.dropWhile_reaches left
              obtain rfl : short = '0' :: letter :: digit :: tail := List.append_cancel_right whole
              obtain ⟨taken, behind⟩ := Text.dropWhile_cut left
              rw [based?, if_neg other, if_pos bits, taken, behind]
              rfl
          · cases found
  · cases found

theorem based_cut_none (missing : based? (short ++ dropped) = none) : based? short = none := by
  unfold based? at missing ⊢
  split
  · next letter digit rest =>
      simp only [List.cons_append] at missing
      split at missing
      · cases missing
      · next other =>
          split at missing
          · cases missing
          · next plain => rw [if_neg other, if_neg plain]
  · rfl

theorem lettered_other (first : Char) {rest : Text} (other : rest.head? ≠ some '\'') :
    lettered first rest = wordOrError first rest := by
  unfold lettered
  split
  · exact absurd rfl other
  · rfl

/-- A character starts digits between apostrophes, or an apostrophe behind it is of no matter. -/
theorem lettered_cases (first : Char) :
    (∃ kind isDigit, ∀ after,
        lettered first ('\'' :: after) = quotedDigits kind isDigit first after) ∨
      ∀ rest, lettered first rest = wordOrError first rest := by
  by_cases hexadecimal : first = 'x' ∨ first = 'X'
  · exact .inl ⟨_, _, fun after => if_pos hexadecimal⟩
  · by_cases bits : first = 'b' ∨ first = 'B'
    · exact .inl ⟨_, _, fun after => (if_neg hexadecimal).trans (if_pos bits)⟩
    · refine .inr fun rest => ?_
      unfold lettered
      split
      · rw [if_neg hexadecimal, if_neg bits]
      · rfl

theorem quotedDigits_length (kind : TokenKind) (isDigit : Char → Bool) (letter : Char)
    (rest : Text) : 2 ≤ (quotedDigits kind isDigit letter rest).text.length := by
  unfold quotedDigits
  split <;> simp

theorem lettered_cut {first : Char}
    (left : (lettered first (short ++ dropped)).rest = kept ++ dropped) :
    lettered first short = (lettered first (short ++ dropped)).followedBy kept := by
  rcases lettered_cases first with ⟨kind, isDigit, digits⟩ | plain
  · by_cases quoted : (short ++ dropped).head? = some '\''
    · cases short with
      | nil =>
          -- the digits would end in front of their first apostrophe
          obtain ⟨after, rfl⟩ := List.head?_eq_some_iff.mp quoted
          rw [List.nil_append, digits] at left
          have length := congrArg List.length (quotedDigits_splits kind isDigit first after).1
          have enough := quotedDigits_length kind isDigit first after
          rw [left] at length
          simp only [List.length_append, List.length_cons] at length
          omega
      | cons second rest =>
          obtain rfl : second = '\'' := Option.some.inj quoted
          rw [List.cons_append, digits] at left
          rw [List.cons_append, digits, digits]
          exact quotedDigits_cut left
    · have shortOther : short.head? ≠ some '\'' := by
        intro same
        rw [List.head?_append, same] at quoted
        exact quoted rfl
      rw [lettered_other first quoted] at left
      rw [lettered_other first quoted, lettered_other first shortOther]
      exact wordOrError_cut left
  · rw [plain] at left
    rw [plain, plain]
    exact wordOrError_cut left

theorem startingWith_plain {first : Char} (plain : ∀ quotation : Quotation, first ≠ quotation.opening)
    (rest : Text) : startingWith first rest =
      if first.isDigit then (based? (first :: rest)).getD (number (first :: rest))
      else lettered first rest := by
  have string : first ≠ '\'' := plain .string
  have quote : first ≠ '"' := plain .quote
  have backQuote : first ≠ '\x60' := plain .backQuote
  have bracket : first ≠ '[' := plain .bracket
  rw [startingWith, if_neg string, if_neg quote, if_neg backQuote, if_neg bracket]

theorem startingWith_cut {first : Char}
    (left : (startingWith first (short ++ dropped)).rest = kept ++ dropped) :
    startingWith first short = (startingWith first (short ++ dropped)).followedBy kept := by
  by_cases opened : ∃ quotation : Quotation, first = quotation.opening
  · obtain ⟨quotation, rfl⟩ := opened
    rw [startingWith_opening] at left
    rw [startingWith_opening, startingWith_opening]
    exact quoted_cut left
  · have plain (quotation : Quotation) : first ≠ quotation.opening :=
      fun same => opened ⟨quotation, same⟩
    rw [startingWith_plain plain] at left
    rw [startingWith_plain plain, startingWith_plain plain]
    split at left
    · next isDigit =>
        rw [if_pos isDigit, if_pos isDigit]
        rw [← List.cons_append] at left ⊢
        cases found : based? (first :: short ++ dropped) with
        | none =>
            rw [found] at left
            rw [based_cut_none found]
            exact number_cut left
        | some lexeme =>
            rw [found] at left
            rw [based_cut found left]
            rfl
    · next noDigit =>
        rw [if_neg noDigit, if_neg noDigit]
        exact lettered_cut left

theorem symbol_cut (found : symbol? (short ++ dropped) = some lexeme)
    (left : lexeme.rest = kept ++ dropped) : symbol? short = some (lexeme.followedBy kept) := by
  obtain ⟨whole, _⟩ := symbol_splits _ _ found
  rw [left, ← List.append_assoc, List.append_cancel_right_eq] at whole
  obtain ⟨entry, first, rfl⟩ := Option.map_eq_some_iff.mp found
  obtain ⟨_, earlier, later, split, longer⟩ := List.find?_eq_some_iff_append.mp first
  have taken : short = entry.1.toList ++ kept := whole.symm
  rw [symbol?, Option.map_eq_some_iff]
  refine ⟨entry, List.find?_eq_some_iff_append.mpr ⟨?_, earlier, later, split, ?_⟩, ?_⟩
  · rw [taken, List.isPrefixOf_iff_prefix]
    exact List.prefix_append _ _
  · intro other member
    have missing := longer other member
    rw [Bool.not_eq_true', Bool.eq_false_iff, ne_eq, List.isPrefixOf_iff_prefix] at missing ⊢
    exact fun leads => missing (leads.trans (List.prefix_append short dropped))
  · rw [taken, List.drop_left]
    rfl

theorem symbol_cut_none (missing : symbol? (short ++ dropped) = none) : symbol? short = none := by
  rw [symbol?, Option.map_eq_none_iff, List.find?_eq_none] at missing ⊢
  intro entry listed leads
  refine missing entry listed ?_
  rw [List.isPrefixOf_iff_prefix] at leads ⊢
  exact leads.trans (List.prefix_append short dropped)

/-- A text that is cut off behind its first lexeme has the same first lexeme. -/
theorem first_cut (found : first? (short ++ dropped) = some lexeme)
    (left : lexeme.rest = kept ++ dropped) : first? short = some (lexeme.followedBy kept) := by
  cases short with
  | nil =>
      have shorter := first_shorter _ _ found
      rw [left, List.nil_append, List.length_append] at shorter
      omega
  | cons first rest =>
      rw [List.cons_append, first?, Option.some.injEq] at found
      rw [first?, Option.some.injEq]
      rw [← List.cons_append] at found
      cases symbol : symbol? (first :: rest ++ dropped) with
      | none =>
          rw [symbol, Option.getD_none] at found
          rw [symbol_cut_none symbol, Option.getD_none]
          rw [← found] at left ⊢
          exact startingWith_cut left
      | some sign =>
          rw [symbol, Option.getD_some] at found
          rw [found] at symbol
          rw [symbol_cut symbol left, Option.getD_some]

end Lexeme

/-- Where less than the rest is left in the end, the first character lies in front of the cut. -/
theorem Text.cut_cons {first : Char} {rest : Text} (whole : short ++ dropped = first :: rest)
    (fewer : (kept ++ dropped).length ≤ rest.length) :
    ∃ tail, short = first :: tail ∧ tail ++ dropped = rest := by
  cases short with
  | nil =>
      rw [List.nil_append] at whole
      rw [whole, List.length_append, List.length_cons] at fewer
      omega
  | cons second tail =>
      obtain ⟨rfl, behind⟩ := List.cons.inj whole
      exact ⟨tail, rfl, behind⟩

namespace Trivia

theorem splitBlockComment_cut {text : Text} (whole : short ++ dropped = text)
    (left : (splitBlockComment text).2 = kept ++ dropped) :
    splitBlockComment short = ((splitBlockComment text).1, kept) := by
  fun_induction splitBlockComment text generalizing short with
  | case1 =>
      obtain ⟨rfl, rfl⟩ := List.append_eq_nil_iff.mp whole
      obtain ⟨rfl, _⟩ := List.append_eq_nil_iff.mp left.symm
      rfl
  | case2 rest =>
      have fewer : (kept ++ dropped).length ≤ rest.length := left ▸ Nat.le_refl _
      obtain ⟨tail, rfl, behind⟩ := Text.cut_cons whole (Nat.le_succ_of_le fewer)
      obtain ⟨tail, rfl, rfl⟩ := Text.cut_cons behind fewer
      obtain rfl : tail = kept := List.append_cancel_right left
      rfl
  | case3 character rest other =>
      rename_i ih
      have fewer : (kept ++ dropped).length ≤ rest.length := left ▸ splitBlockComment_length rest
      obtain ⟨tail, rfl, behind⟩ := Text.cut_cons whole fewer
      rw [splitBlockComment, ih behind left]
      rintro after star rfl
      exact other _ star behind.symm

/-- What is skipped in front of the cut is skipped alike. -/
theorem split_cut {text : Text} (whole : short ++ dropped = text)
    (left : (split text).2 = kept ++ dropped) : split short = ((split text).1, kept) := by
  fun_induction split text generalizing short with
  | case1 =>
      obtain ⟨rfl, rfl⟩ := List.append_eq_nil_iff.mp whole
      obtain ⟨rfl, _⟩ := List.append_eq_nil_iff.mp left.symm
      rw [split]
  | case2 rest =>
      rename_i ih
      have shorter := split_length (rest.dropWhile (· != '\n'))
      have fewer : (kept ++ dropped).length ≤ rest.length := by
        rw [← left]
        exact Nat.le_trans shorter (List.dropWhile_sublist _).length_le
      obtain ⟨tail, rfl, behind⟩ := Text.cut_cons whole (Nat.le_succ_of_le fewer)
      obtain ⟨tail, rfl, rfl⟩ := Text.cut_cons behind fewer
      have skipped := split_append ((tail ++ dropped).dropWhile (· != '\n'))
      rw [left, ← List.append_assoc] at skipped
      obtain ⟨comment, behindComment⟩ := Text.dropWhile_cut skipped.symm
      rw [split, behindComment, ih skipped left, comment]
  | case3 rest =>
      rename_i ih
      have shorter := split_length (splitBlockComment rest).2
      have fewer : (kept ++ dropped).length ≤ rest.length := by
        rw [← left]
        exact Nat.le_trans shorter (splitBlockComment_length rest)
      obtain ⟨tail, rfl, behind⟩ := Text.cut_cons whole (Nat.le_succ_of_le fewer)
      obtain ⟨tail, rfl, rfl⟩ := Text.cut_cons behind fewer
      have skipped := split_append (splitBlockComment (tail ++ dropped)).2
      rw [left, ← List.append_assoc] at skipped
      have comment := splitBlockComment_cut rfl skipped.symm
      rw [split, comment, ih skipped left]
  | case4 character rest _ _ blank =>
      rename_i ih
      have fewer : (kept ++ dropped).length ≤ rest.length := left ▸ split_length rest
      obtain ⟨tail, rfl, behind⟩ := Text.cut_cons whole fewer
      rw [split_blank tail blank, ih behind left]
  | case5 character rest minus slash blank =>
      obtain rfl : short = kept := List.append_cancel_right (whole.trans left)
      cases short with
      | nil => rw [split]
      | cons first tail =>
          obtain ⟨rfl, behind⟩ := List.cons.inj whole
          rw [split, if_neg blank]
          · rintro after sign rfl
            exact minus _ sign behind.symm
          · rintro after sign rfl
            exact slash _ sign behind.symm

/-- Behind what is skipped there is nothing more to skip. -/
theorem split_behind (text : Text) : split (split text).2 = ([], (split text).2) := by
  fun_induction split text with
  | case1 => rw [split]
  | case2 rest after ih => exact ih
  | case3 rest after ih => exact ih
  | case4 character rest _ _ blank after ih => exact ih
  | case5 character rest minus slash blank =>
      rw [split, if_neg blank]
      · exact minus
      · exact slash

end Trivia

end AnnotatedSql
