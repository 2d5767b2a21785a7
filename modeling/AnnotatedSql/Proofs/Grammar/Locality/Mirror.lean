/-
This file says when a parser does in a longer text what another one does in a part of that text by
itself.
-/

import AnnotatedSql.Proofs.Grammar.Choice
import AnnotatedSql.Proofs.Grammar.Completeness.Follow
import AnnotatedSql.Proofs.Grammar.Locality.Relocation
import Mathlib.Data.List.Forall2

namespace AnnotatedSql

/-- To the parser the first token is like the second one, moved to another offset. -/
structure Token.Alike (move : Nat → Nat) (first second : Token) : Prop where
  kind : first.kind = second.kind
  namesAggregate : Grammar.Parse.namesAggregate first = Grammar.Parse.namesAggregate second
  span : first.span = second.span.relocate move

namespace Grammar

/-- A text and a part of it that is taken by itself: `own` are the tokens of the part, which stand
in the whole as `given` at other offsets, before a token that starts a clause behind the tables or
ends a statement. -/
structure Cut where
  move : Nat → Nat
  monotone {first second : Nat} : first ≤ second → move first ≤ move second
  given : List Token
  own : List Token
  more : ∀ token ∈ own, token.kind ≠ .endOfInput
  ownEnding : Token
  ownEnds : ownEnding.kind = .endOfInput
  rest : List Token
  ending : Token
  closes : endsClause 1 (rest.headD ending).kind

namespace Cut

variable (cut : Cut)

/-- What follows the part in the whole. -/
def stop : Token := cut.rest.headD cut.ending

/-- The part is the whole text, with nothing but offsets changed. -/
structure Exact : Prop where
  rest : cut.rest = []
  ending : cut.ending.Alike cut.move cut.ownEnding

variable {cut} in
/-- Behind the part, the whole text ends. -/
theorem Exact.closes (exact : cut.Exact) : endsSelect cut.stop.kind := by
  rw [stop, exact.rest, List.headD_nil, exact.ending.kind, cut.ownEnds]
  rfl

/-- Two cursors have come to the same place, one in the whole and one in the part. -/
structure Beside (whole part : Cursor) : Prop where
  unread : ∃ left, whole.unread = left ++ cut.rest ∧
    List.Forall₂ (Token.Alike cut.move) left part.unread
  within : whole.unread <:+ cut.given ++ cut.rest
  inside : part.unread <:+ cut.own
  ending : whole.ending = cut.ending
  ownEnding : part.ending = cut.ownEnding
  consumed : ∀ stop, part.lastStop = some stop → whole.lastStop = some (cut.move stop)
  fresh : part.lastStop = none → ∀ stop, whole.lastStop = some stop → stop ≤ cut.move 0

end Cut

variable {cut : Cut} {whole part : Cursor}

namespace Cut.Beside

theorem ends (beside : cut.Beside whole part) : part.Ends := by
  rw [Cursor.Ends, beside.ownEnding]
  exact cut.ownEnds

theorem giving (beside : cut.Beside whole part) (first second : List Nat) :
    cut.Beside { whole with rejected := first } { part with rejected := second } :=
  ⟨beside.unread, beside.within, beside.inside, beside.ending, beside.ownEnding, beside.consumed,
    beside.fresh⟩

/-- At a token of the part both see the same. -/
theorem alike (beside : cut.Beside whole part) {distance : Nat}
    (before : distance < part.position) :
    (whole.ahead distance).Alike cut.move (part.ahead distance) := by
  obtain ⟨left, unread, alike⟩ := beside.unread
  have lengths := alike.length_eq
  rw [Cursor.position] at before
  have found := alike.get (i := distance) (by omega) before
  rw [Cursor.ahead, Cursor.ahead, unread, List.getD_eq_getElem?_getD, List.getD_eq_getElem?_getD,
    List.getElem?_append_left (by omega), List.getElem?_eq_getElem (by omega),
    List.getElem?_eq_getElem before]
  exact found

/-- At the end of the part the whole goes on. -/
theorem stops (beside : cut.Beside whole part) :
    whole.ahead part.position = cut.stop ∧ part.ahead part.position = cut.ownEnding := by
  obtain ⟨left, unread, alike⟩ := beside.unread
  have lengths := alike.length_eq
  constructor
  · rw [Cursor.ahead, unread, Cursor.position, ← lengths, List.getD_eq_getElem?_getD,
      List.getElem?_append_right (Nat.le_refl _), Nat.sub_self, beside.ending, Cut.stop]
    cases cut.rest <;> rfl
  · rw [Cursor.ahead, Cursor.position, List.getD_eq_getElem?_getD,
      List.getElem?_eq_none (Nat.le_refl _), Option.getD_none, beside.ownEnding]

/-- What starts no clause and ends no statement lies in the part, wherever one gets from there. -/
theorem ahead_iff (beside : cut.Beside whole part) {distance : Nat} {kind : TokenKind}
    (reach : distance ≤ part.position) (notStop : endsClause 1 kind = false) :
    (whole.ahead distance).kind = kind ↔ (part.ahead distance).kind = kind := by
  rcases Nat.lt_or_eq_of_le reach with inside | rfl
  · rw [(beside.alike inside).kind]
  · rw [beside.stops.1, beside.stops.2, cut.ownEnds]
    constructor
    · rintro rfl
      exact absurd (cut.closes.symm.trans notStop) (by decide)
    · rintro rfl
      exact absurd notStop (by decide)

/-- In the whole, no fewer tokens are left. -/
theorem position_le (beside : cut.Beside whole part) : part.position ≤ whole.position := by
  obtain ⟨left, unread, alike⟩ := beside.unread
  have lengths := alike.length_eq
  rw [Cursor.position, Cursor.position, unread, List.length_append]
  omega

/-- If only offsets differ, as many tokens are left in both. -/
theorem position_of_exact (beside : cut.Beside whole part) (exact : cut.Exact) :
    whole.position = part.position := by
  obtain ⟨left, unread, alike⟩ := beside.unread
  rw [Cursor.position, Cursor.position, unread, exact.rest, List.append_nil]
  exact alike.length_eq

/-- If only offsets differ, both see the same everywhere. -/
theorem alike_of_exact (beside : cut.Beside whole part) (exact : cut.Exact) (distance : Nat) :
    (whole.ahead distance).Alike cut.move (part.ahead distance) := by
  rcases Nat.lt_or_ge distance part.position with before | behind
  · exact beside.alike before
  · obtain ⟨left, unread, alike⟩ := beside.unread
    have lengths := alike.length_eq
    rw [Cursor.position] at behind
    rw [exact.rest, List.append_nil] at unread
    rw [Cursor.ahead, Cursor.ahead, unread, List.getD_eq_getElem?_getD,
      List.getD_eq_getElem?_getD, List.getElem?_eq_none behind, List.getElem?_eq_none (by omega),
      Option.getD_none, Option.getD_none, beside.ending, beside.ownEnding]
    exact exact.ending

/-- Where nothing is left of the part, nothing is left of the whole if only offsets differ. -/
theorem atEnd (beside : cut.Beside whole part) (exact : cut.Exact) (nothing : part.position = 0) :
    Parse.AtEnd whole := by
  obtain ⟨left, unread, alike⟩ := beside.unread
  have lengths := alike.length_eq
  rw [Cursor.position] at nothing
  constructor
  · rw [Cursor.Ends, beside.ending, exact.ending.kind]
    exact cut.ownEnds
  · rw [unread, exact.rest, List.append_nil]
    exact List.eq_nil_of_length_eq_zero (lengths.trans nothing)

theorem own_atEnd (beside : cut.Beside whole part) (nothing : part.position = 0) :
    Parse.AtEnd part := ⟨beside.ends, List.eq_nil_of_length_eq_zero nothing⟩

theorem position_pos (beside : cut.Beside whole part) {kind : TokenKind}
    (found : part.current.kind = kind) (more : kind ≠ .endOfInput) : 1 ≤ part.position := by
  rcases Nat.eq_zero_or_pos part.position with nothing | some
  · exact absurd (found.symm.trans ((beside.own_atEnd nothing).ahead 0)) more
  · exact some

/-- Both cursors go on by one token. -/
theorem advance (beside : cut.Beside whole part) (some : 1 ≤ part.position) :
    cut.Beside whole.advance part.advance := by
  obtain ⟨left, unread, alike⟩ := beside.unread
  obtain ⟨unreadWhole, ending, lastStop, rejected⟩ := whole
  obtain ⟨unreadPart, ownEnding, ownStop, ownRejected⟩ := part
  cases alike with
  | nil => exact absurd some (Nat.not_succ_le_zero 0)
  | @cons token own left rest same alike =>
      obtain rfl : unreadWhole = token :: (left ++ cut.rest) := unread
      refine ⟨⟨left, rfl, alike⟩, (List.suffix_cons token _).trans beside.within,
        (List.suffix_cons own rest).trans beside.inside, beside.ending, beside.ownEnding, ?_, nofun⟩
      rintro stop ⟨⟩
      exact congrArg (fun span => Option.some span.stop) same.span

/-- Spans from corresponding starts correspond. -/
theorem spanFrom (beside : cut.Beside whole part) (start : Nat) :
    whole.spanFrom (cut.move start) = (part.spanFrom start).relocate cut.move := by
  rw [Cursor.spanFrom, Cursor.spanFrom, Span.relocate]
  rcases consumed : part.lastStop with _ | stop
  · have least : whole.lastStop.getD (cut.move start) ≤ cut.move start := by
      rcases last : whole.lastStop with _ | stop
      · exact Nat.le_refl _
      · exact Nat.le_trans (beside.fresh consumed stop last) (cut.monotone (Nat.zero_le start))
    rw [Nat.max_eq_right least, Option.getD_none, Nat.max_self]
  · rw [beside.consumed stop consumed, Option.getD_some, Option.getD_some]
    rcases Nat.le_total stop start with least | least
    · rw [Nat.max_eq_right least, Nat.max_eq_right (cut.monotone least)]
    · rw [Nat.max_eq_left least, Nat.max_eq_left (cut.monotone least)]

end Cut.Beside

/-! ### Parsers that do the same -/

def SyntaxError.relocate (move : Nat → Nat) : SyntaxError → SyntaxError
  | .lexical cause span => .lexical cause (span.relocate move)
  | .unexpected expected found span => .unexpected expected found (span.relocate move)

namespace Parse

variable {Value Result : Type} {least before middle after bound : Nat}

/-- The first run comes to the place beside that of the second one, with the same value; then at
most `after` tokens are left, and no more than `bound`. If only offsets differ, the errors are the
same, too, with as many tokens left. -/
structure Echoes (cut : Cut) (bound after : Nat) (carry : Value → Value)
    (first second : Except SyntaxError Value × Cursor) : Prop where
  found : ∀ value later, second = (.ok value, later) →
    ∃ place, first = (.ok (carry value), place) ∧ cut.Beside place later ∧
      later.position ≤ after ∧ later.position ≤ bound
  fails : cut.Exact → ∀ error later, second = (.error error, later) →
    ∃ place, first = (.error (error.relocate cut.move), place) ∧ place.position = later.position

theorem echoes_ok {carry : Value → Value} {first second : Value} {place later : Cursor}
    (same : first = carry second) (beside : cut.Beside place later) (few : later.position ≤ after)
    (shorter : later.position ≤ bound) :
    Echoes cut bound after carry (.ok first, place) (.ok second, later) := by
  constructor
  · intro value last run
    cases run
    exact ⟨place, by rw [same], beside, few, shorter⟩
  · intro _ error last run
    cases run

theorem echoes_error {carry : Value → Value} {error : SyntaxError}
    {first : Except SyntaxError Value × Cursor} {later : Cursor}
    (fails : cut.Exact → ∃ place, first = (.error (error.relocate cut.move), place) ∧
      place.position = later.position) :
    Echoes cut bound after carry first (.error error, later) := by
  constructor
  · intro found last run
    cases run
  · intro exact other last run
    cases run
    exact fails exact

/-- With at least `least` and at most `before` tokens of the part left, what the second parser finds
in the part is found by the first one in the whole, and leaves at most `after` tokens. -/
def Mirrors (cut : Cut) (least before after : Nat) (first second : Parser Value)
    (carry : Value → Value) : Prop :=
  ∀ whole part, cut.Beside whole part → least ≤ part.position → part.position ≤ before →
    Echoes cut part.position after carry (first whole) (second part)

/-- After corresponding runs, what mirrors goes on. -/
theorem Mirrors.follow {first second : Parser Value} {carry : Value → Value}
    {firstNext secondNext : Value → Parser Result} {further : Result → Result} {value : Value}
    {place later : Cursor}
    (next : Mirrors cut 0 middle after (firstNext (carry value)) (secondNext value) further)
    (wholeRun : first whole = (.ok (carry value), place)) (run : second part = (.ok value, later))
    (beside : cut.Beside place later) (few : later.position ≤ middle)
    (shorter : later.position ≤ part.position) :
    Echoes cut part.position after further ((first >>= firstNext) whole)
      ((second >>= secondNext) part) := by
  rw [bind_run, bind_run, run, wholeRun]
  obtain ⟨found, fails⟩ := next place later beside (Nat.zero_le _) few
  refine ⟨?_, fails⟩
  intro result last lastRun
  obtain ⟨end_, endRun, besideEnd, fewerEnd, shorterEnd⟩ := found result last lastRun
  exact ⟨end_, endRun, besideEnd, fewerEnd, Nat.le_trans shorterEnd shorter⟩

namespace Mirrors

variable {first second : Parser Value} {carry : Value → Value}

theorem mono {more fewer wider : Nat} (mirrors : Mirrors cut least before after first second carry)
    (moreLeast : least ≤ more) (fewerBefore : fewer ≤ before) (widerAfter : after ≤ wider) :
    Mirrors cut more fewer wider first second carry := by
  intro whole part beside enough few
  obtain ⟨found, fails⟩ := mirrors whole part beside (by omega) (by omega)
  refine ⟨?_, fails⟩
  intro value later run
  obtain ⟨place, wholeRun, besideLater, fewer, shorter⟩ := found value later run
  exact ⟨place, wholeRun, besideLater, by omega, shorter⟩

theorem here (mirrors : Mirrors cut least (bound + 1) bound first second carry) :
    Mirrors cut least bound bound first second carry :=
  mirrors.mono (Nat.le_refl _) (Nat.le_succ bound) (Nat.le_refl _)

theorem wide (mirrors : Mirrors cut least before bound first second carry) :
    Mirrors cut least before (bound + 1) first second carry :=
  mirrors.mono (Nat.le_refl _) (Nat.le_refl _) (Nat.le_succ bound)

/-- What mirrors wherever it starts does so where more is known to be left. -/
theorem anywhere (mirrors : Mirrors cut 0 before after first second carry) :
    Mirrors cut least before after first second carry :=
  mirrors.mono (Nat.zero_le least) (Nat.le_refl _) (Nat.le_refl _)

/-- No more is left in the end than at the start. -/
theorem fewer {small : Nat} (mirrors : Mirrors cut least bound bound first second carry)
    (fewer : small ≤ bound) : Mirrors cut least small small first second carry := by
  intro whole part beside enough few
  obtain ⟨found, fails⟩ := mirrors whole part beside enough (by omega)
  refine ⟨?_, fails⟩
  intro value later run
  obtain ⟨place, wholeRun, besideLater, _, shorter⟩ := found value later run
  exact ⟨place, wholeRun, besideLater, by omega, shorter⟩

theorem bind {firstNext secondNext : Value → Parser Result} {further : Result → Result}
    (start : Mirrors cut least before middle first second carry)
    (next : ∀ value,
      Mirrors cut 0 middle after (firstNext (carry value)) (secondNext value) further) :
    Mirrors cut least before after (first >>= firstNext) (second >>= secondNext) further := by
  intro whole part beside enough few
  obtain ⟨found, fails⟩ := start whole part beside enough few
  rcases run : second part with ⟨error | value, later⟩
  · rw [bind_error run]
    refine echoes_error fun exact => ?_
    obtain ⟨place, wholeRun, same⟩ := fails exact error later run
    exact ⟨place, bind_error wholeRun, same⟩
  · obtain ⟨place, wholeRun, besideLater, fewer, shorter⟩ := found value later run
    exact (next value).follow wholeRun run besideLater fewer shorter

end Mirrors

/-! ### Steps that only look -/

theorem mirrors_pure {first second : Value} {carry : Value → Value} (same : first = carry second) :
    Mirrors cut least bound bound (pure first) (pure second) carry := by
  intro whole part beside _ few
  exact echoes_ok same beside few (Nat.le_refl _)

/-- A parser that only looks at its place sees what there is, and goes on from there. -/
theorem mirrors_look_bind {first second : Parser Value} {seen other : Cursor → Value}
    {firstNext secondNext : Value → Parser Result} {carry : Result → Result}
    (firstRun : ∀ cursor, first cursor = (.ok (seen cursor), cursor))
    (secondRun : ∀ cursor, second cursor = (.ok (other cursor), cursor))
    (next : ∀ whole part, cut.Beside whole part → least ≤ part.position →
      part.position ≤ before →
      Mirrors cut part.position part.position after (firstNext (seen whole))
        (secondNext (other part)) carry) :
    Mirrors cut least before after (first >>= firstNext) (second >>= secondNext) carry := by
  intro whole part beside enough few
  rw [bind_look (firstRun whole), bind_look (secondRun part)]
  exact next whole part beside enough few whole part beside (Nat.le_refl _) (Nat.le_refl _)

theorem SyntaxError.atToken_alike {move : Nat → Nat} {first second : Token} (expected : Expected)
    (alike : first.Alike move second) :
    SyntaxError.atToken expected first = (SyntaxError.atToken expected second).relocate move := by
  rw [SyntaxError.atToken, SyntaxError.atToken, alike.kind, alike.span]
  split <;> rfl

theorem mirrors_fail {carry : Value → Value} (expected : Expected) :
    Mirrors cut least before after (fail expected) (fail expected) carry := by
  intro whole part beside _ _
  refine echoes_error fun exact => ⟨whole, ?_, beside.position_of_exact exact⟩
  exact congrArg (fun error => (Except.error error, whole))
    (SyntaxError.atToken_alike expected (beside.alike_of_exact exact 0))

/-- Where no token is left, the parser fails. -/
def FailsAtEnd (expected : Expected) (parser : Parser Value) : Prop :=
  ∀ cursor, AtEnd cursor → parser cursor = fail expected cursor

section
variable {first second : Parser Value} {carry : Value → Value} {expected : Expected}

theorem FailsAtEnd.bind {next : Value → Parser Result} (fails : FailsAtEnd expected first) :
    FailsAtEnd expected (first >>= next) :=
  fun cursor atEnd => bind_error (fails cursor atEnd)

theorem FailsAtEnd.after_offset {next : Nat → Parser Result}
    (fails : ∀ start, FailsAtEnd expected (next start)) :
    FailsAtEnd expected (offset >>= next) := by
  intro cursor atEnd
  rw [bind_look offset_run]
  exact fails _ cursor atEnd

theorem FailsAtEnd.after_remaining {next : Nat → Parser Result}
    (fails : ∀ rounds, FailsAtEnd expected (next rounds)) :
    FailsAtEnd expected (remaining >>= next) := by
  intro cursor atEnd
  rw [bind_look remaining_run]
  exact fails _ cursor atEnd

theorem FailsAtEnd.after_kindAhead {next : TokenKind → Parser Result} {distance : Nat}
    (fails : FailsAtEnd expected (next .endOfInput)) :
    FailsAtEnd expected (kindAhead distance >>= next) := by
  intro cursor atEnd
  rw [bind_look (kindAhead_run distance), atEnd.ahead]
  exact fails cursor atEnd

theorem FailsAtEnd.after_atKind {next : Bool → Parser Result} {kind : TokenKind}
    (fails : FailsAtEnd expected (next (TokenKind.endOfInput == kind))) :
    FailsAtEnd expected (atKind kind >>= next) := by
  intro cursor atEnd
  have run : atKind kind cursor = (.ok (cursor.current.kind == kind), cursor) := rfl
  rw [bind_look run, Cursor.current, atEnd.ahead]
  exact fails cursor atEnd

theorem failsAtEnd_fail : FailsAtEnd expected (fail expected : Parser Value) := fun _ _ => rfl

/-- What fails at the end mirrors there. -/
theorem Mirrors.lift (mirrors : Mirrors cut 1 before after first second carry)
    (firstFails : FailsAtEnd expected first) (secondFails : FailsAtEnd expected second) :
    Mirrors cut 0 before after first second carry := by
  intro whole part beside _ few
  rcases Nat.eq_zero_or_pos part.position with nothing | some
  · have failing : Mirrors cut 0 before after _ _ carry := mirrors_fail expected
    obtain ⟨found, fails⟩ := failing whole part beside (Nat.zero_le _) few
    rw [← secondFails part (beside.own_atEnd nothing)] at found fails
    constructor
    · intro value later run
      rw [secondFails part (beside.own_atEnd nothing)] at run
      cases run
    · intro exact error later run
      rw [firstFails whole (beside.atEnd exact nothing)]
      exact fails exact error later run
  · exact mirrors whole part beside some few

end

/-! ### Looking ahead -/

section
variable {carry : Result → Result}

/-- What the token behind the part is must not matter. -/
theorem mirrors_kindAhead_bind_of_stop {distance : Nat} (far : distance ≤ least)
    {firstNext secondNext : TokenKind → Parser Result}
    (next : ∀ kind enough, (kind ≠ .endOfInput → distance + 1 ≤ enough) → least ≤ enough →
      Mirrors cut enough before after (firstNext kind) (secondNext kind) carry)
    (blind : firstNext cut.stop.kind = firstNext .endOfInput) :
    Mirrors cut least before after (kindAhead distance >>= firstNext)
      (kindAhead distance >>= secondNext) carry := by
  refine mirrors_look_bind (fun _ => kindAhead_run distance) (fun _ => kindAhead_run distance) ?_
  intro whole part beside enough few
  rcases Nat.lt_or_ge distance part.position with inside | outside
  · rw [(beside.alike inside).kind]
    exact (next _ part.position (fun _ => inside) enough).mono (Nat.le_refl _) few (Nat.le_refl _)
  · obtain rfl : distance = part.position := by omega
    rw [beside.stops.1, beside.stops.2, blind, cut.ownEnds]
    exact (next _ part.position (fun more => absurd rfl more) enough).mono (Nat.le_refl _) few
      (Nat.le_refl _)

theorem mirrors_kindAhead_bind {distance : Nat} (far : distance ≤ least)
    {firstNext secondNext : TokenKind → Parser Result}
    (next : ∀ kind enough, (kind ≠ .endOfInput → distance + 1 ≤ enough) → least ≤ enough →
      Mirrors cut enough before after (firstNext kind) (secondNext kind) carry)
    (blind : ∀ kind, endsClause 1 kind → firstNext kind = firstNext .endOfInput) :
    Mirrors cut least before after (kindAhead distance >>= firstNext)
      (kindAhead distance >>= secondNext) carry :=
  mirrors_kindAhead_bind_of_stop far next (blind _ cut.closes)

/-- As long as tokens of the part are known to be left, both see the same kinds. -/
theorem mirrors_kindAhead_bind_inside {distance : Nat} (inside : distance < least)
    {firstNext secondNext : TokenKind → Parser Result}
    (next : ∀ kind, Mirrors cut least before after (firstNext kind) (secondNext kind) carry) :
    Mirrors cut least before after (kindAhead distance >>= firstNext)
      (kindAhead distance >>= secondNext) carry := by
  refine mirrors_look_bind (fun _ => kindAhead_run distance) (fun _ => kindAhead_run distance) ?_
  intro whole part beside enough few
  rw [(beside.alike (Nat.lt_of_lt_of_le inside enough)).kind]
  exact (next _).mono enough few (Nat.le_refl _)

/-- If the part cannot end here, it does not matter what the whole does at its end. -/
theorem mirrors_kindAhead_bind_of_fails {expected : Expected}
    {firstNext secondNext : TokenKind → Parser Result}
    (next : ∀ kind enough, (kind ≠ .endOfInput → 1 ≤ enough) → least ≤ enough →
      Mirrors cut enough before after (firstNext kind) (secondNext kind) carry)
    (fails : FailsAtEnd expected (secondNext .endOfInput)) :
    Mirrors cut least before after (kindAhead 0 >>= firstNext) (kindAhead 0 >>= secondNext)
      carry := by
  intro whole part beside enough few
  rw [bind_look (kindAhead_run 0), bind_look (kindAhead_run 0)]
  rcases Nat.eq_zero_or_pos part.position with nothing | some
  · have atEnd := beside.own_atEnd nothing
    constructor
    · intro value later run
      rw [atEnd.ahead, fails part atEnd] at run
      cases run
    · intro exact
      rw [(beside.alike_of_exact exact 0).kind]
      exact (next _ part.position (fun more => absurd (atEnd.ahead 0) more) enough whole part
        beside (Nat.le_refl _) few).fails exact
  · rw [(beside.alike some).kind]
    exact next _ part.position (fun _ => some) enough whole part beside (Nat.le_refl _) few

/-- What does not depend on the token ahead may look at it anywhere. -/
theorem mirrors_kindAhead_bind_of_blind {distance : Nat}
    {firstNext secondNext : TokenKind → Parser Result}
    (next : ∀ kind other,
      Mirrors cut least before after (firstNext kind) (secondNext other) carry) :
    Mirrors cut least before after (kindAhead distance >>= firstNext)
      (kindAhead distance >>= secondNext) carry := by
  refine mirrors_look_bind (fun _ => kindAhead_run distance) (fun _ => kindAhead_run distance) ?_
  intro whole part beside enough few
  exact (next _ _).mono enough few (Nat.le_refl _)

/-- At the end of the part, the whole looks at the token that follows. -/
theorem mirrors_kindAhead_atEnd {firstNext : TokenKind → Parser Result} {second : Parser Result}
    (next : ∀ kind, endsClause 1 kind → Mirrors cut least 0 after (firstNext kind) second carry) :
    Mirrors cut least 0 after (kindAhead 0 >>= firstNext) second carry := by
  intro whole part beside enough few
  obtain nothing := Nat.le_zero.mp few
  have stops := beside.stops.1
  rw [nothing] at stops
  rw [bind_look (kindAhead_run 0), stops]
  exact next cut.stop.kind cut.closes whole part beside enough few

/-- What may follow the tables of a SELECT. -/
theorem kind_of_endsClause {kind : TokenKind} (ends : endsClause 1 kind) :
    kind = .keyword .WHERE ∨ kind = .keyword .GROUP ∨ kind = .keyword .HAVING ∨
      kind = .keyword .ORDER ∨ kind = .symbol .rightParen ∨ kind = .symbol .semicolon ∨
      kind = .endOfInput := by
  have behind := of_decide_eq_true ends
  unfold clauseRank at behind
  split at behind <;> simp_all

theorem ne_of_endsClause {kind other : TokenKind} (ends : endsClause 1 kind)
    (notStop : endsClause 1 other = false) : kind ≠ other := by
  rintro rfl
  rw [notStop] at ends
  exact Bool.false_ne_true ends

theorem beq_of_endsClause {kind other : TokenKind} (ends : endsClause 1 kind)
    (notStop : endsClause 1 other = false) : (kind == other) = false :=
  beq_false_of_ne (ne_of_endsClause ends notStop)

theorem atKind_bind (kind : TokenKind) (next : Bool → Parser Result) :
    atKind kind >>= next = kindAhead 0 >>= fun seen => next (seen == kind) := by
  funext cursor
  have run : atKind kind cursor = (.ok (cursor.current.kind == kind), cursor) := rfl
  rw [bind_look run, bind_look (kindAhead_run 0)]
  rfl

/-- What is looked for is not what follows the part. -/
theorem mirrors_atKind_bind_of_ne {kind : TokenKind} (missing : cut.stop.kind ≠ kind)
    (more : kind ≠ .endOfInput) {firstNext secondNext : Bool → Parser Result}
    (present : Mirrors cut (max least 1) before after (firstNext true) (secondNext true) carry)
    (absent : Mirrors cut least before after (firstNext false) (secondNext false) carry) :
    Mirrors cut least before after (atKind kind >>= firstNext) (atKind kind >>= secondNext)
      carry := by
  have ending : (TokenKind.endOfInput == kind) = false := beq_false_of_ne more.symm
  rw [atKind_bind, atKind_bind]
  refine mirrors_kindAhead_bind_of_stop (Nat.zero_le _) (fun seen enough inside least => ?_) ?_
  · rcases found : seen == kind with _ | _
    · exact absent.mono least (Nat.le_refl _) (Nat.le_refl _)
    · refine present.mono ?_ (Nat.le_refl _) (Nat.le_refl _)
      have some : seen ≠ .endOfInput := by
        rintro rfl
        rw [ending] at found
        exact Bool.false_ne_true found
      exact Nat.max_le.mpr ⟨least, inside some⟩
  · rw [ending, beq_false_of_ne missing]

theorem ne_endOfInput {kind : TokenKind} (notStop : endsClause 1 kind = false) :
    kind ≠ .endOfInput := (ne_of_endsClause rfl notStop).symm

theorem mirrors_atKind_bind {kind : TokenKind} (notStop : endsClause 1 kind = false)
    {firstNext secondNext : Bool → Parser Result}
    (present : Mirrors cut (max least 1) before after (firstNext true) (secondNext true) carry)
    (absent : Mirrors cut least before after (firstNext false) (secondNext false) carry) :
    Mirrors cut least before after (atKind kind >>= firstNext) (atKind kind >>= secondNext)
      carry :=
  mirrors_atKind_bind_of_ne (ne_of_endsClause cut.closes notStop) (ne_endOfInput notStop) present
    absent

/-- At the end of the part, nothing follows in the whole that could belong to it. -/
theorem mirrors_atKind_atEnd {kind : TokenKind} {first second third : Parser Result}
    (notStop : endsClause 1 kind = false) (absent : Mirrors cut least 0 after second third carry) :
    Mirrors cut least 0 after
      (atKind kind >>= fun found => if found = true then first else second) third carry := by
  rw [atKind_bind]
  refine mirrors_kindAhead_atEnd fun seen ends => ?_
  rw [beq_of_endsClause ends notStop]
  exact absent

end

/-! ### Steps -/

theorem mirrors_offset_bind {carry : Result → Result} (some : 1 ≤ least)
    {firstNext secondNext : Nat → Parser Result}
    (next : ∀ start,
      Mirrors cut least before after (firstNext (cut.move start)) (secondNext start) carry) :
    Mirrors cut least before after (offset >>= firstNext) (offset >>= secondNext) carry := by
  refine mirrors_look_bind (fun _ => offset_run) (fun _ => offset_run) ?_
  intro whole part beside enough few
  have same : whole.current.span.start = cut.move part.current.span.start :=
    congrArg Span.start (beside.alike (Nat.le_trans some enough)).span
  rw [same]
  exact (next _).mono enough few (Nat.le_refl _)

theorem mirrors_current_bind {carry : Result → Result} (some : 1 ≤ least)
    {firstNext secondNext : Token → Parser Result}
    (next : ∀ first second, first.Alike cut.move second →
      Mirrors cut least before after (firstNext first) (secondNext second) carry) :
    Mirrors cut least before after (Parse.current >>= firstNext) (Parse.current >>= secondNext)
      carry := by
  refine mirrors_look_bind (fun _ => rfl) (fun _ => rfl) ?_
  intro whole part beside enough few
  exact (next _ _ (beside.alike (Nat.le_trans some enough))).mono enough few (Nat.le_refl _)

/-- The whole may allow for more rounds than the part. -/
theorem mirrors_remaining_bind {carry : Result → Result}
    {firstNext secondNext : Nat → Parser Result}
    (next : ∀ size ≤ before, ∀ rounds, size ≤ rounds →
      Mirrors cut least size after (firstNext rounds) (secondNext size) carry) :
    Mirrors cut least before after (remaining >>= firstNext) (remaining >>= secondNext) carry := by
  refine mirrors_look_bind (fun _ => remaining_run) (fun _ => remaining_run) ?_
  intro whole part beside enough few
  exact (next _ few _ beside.position_le).mono enough (Nat.le_refl _) (Nat.le_refl _)

theorem mirrors_spanFrom (start : Nat) :
    Mirrors cut least bound bound (spanFrom (cut.move start)) (spanFrom start)
      (Span.relocate cut.move) := by
  intro whole part beside _ few
  constructor
  · intro value later run
    cases run
    refine ⟨whole, ?_, beside, few, Nat.le_refl _⟩
    rw [← beside.spanFrom]
    rfl
  · intro _ error later run
    cases run

theorem mirrors_advance (some : 1 ≤ least) :
    Mirrors cut least (bound + 1) bound advance advance id := by
  intro whole part beside enough few
  constructor
  · intro value later run
    cases run
    have position := part.advance_position
    exact ⟨_, rfl, beside.advance (Nat.le_trans some enough), by omega, by omega⟩
  · intro _ error later run
    cases run

/-- After an advance, one token less is known to be left. -/
theorem mirrors_advance_bind {carry : Result → Result} {firstNext secondNext : Unit → Parser Result}
    (some : 1 ≤ least)
    (next : Mirrors cut (least - 1) bound after (firstNext ()) (secondNext ()) carry) :
    Mirrors cut least (bound + 1) after (advance >>= firstNext) (advance >>= secondNext) carry := by
  intro whole part beside enough few
  have position := part.advance_position
  have later := beside.advance (Nat.le_trans some enough)
  obtain ⟨found, fails⟩ := next _ _ later (by omega) (by omega)
  constructor
  · intro value last run
    obtain ⟨place, wholeRun, besideLast, fewer, shorter⟩ := found value last run
    exact ⟨place, wholeRun, besideLast, fewer, by omega⟩
  · exact fails

theorem mirrors_terminal (some : 1 ≤ least) :
    Mirrors cut least (bound + 1) bound terminal terminal (Span.relocate cut.move) := by
  refine mirrors_current_bind some fun first second alike => ?_
  exact (mirrors_advance some).bind fun _ => mirrors_pure alike.span

theorem mirrors_ite {carry : Value → Value} {condition : Prop} [Decidable condition]
    {first second third fourth : Parser Value}
    (holds : condition → Mirrors cut least before after first second carry)
    (fails : ¬ condition → Mirrors cut least before after third fourth carry) :
    Mirrors cut least before after (if condition then first else third)
      (if condition then second else fourth) carry := by
  split
  case isTrue found => exact holds found
  case isFalse missing => exact fails missing

/-- If the part cannot end here, what is looked for may also be what follows it in the whole. -/
theorem mirrors_atKind_ite_of_fails {kind : TokenKind} {carry : Result → Result}
    {expected : Expected} {first second third fourth : Parser Result} (more : kind ≠ .endOfInput)
    (present : Mirrors cut (max least 1) before after first second carry)
    (absent : Mirrors cut least before after third fourth carry)
    (fails : FailsAtEnd expected fourth) :
    Mirrors cut least before after
      (atKind kind >>= fun found => if found = true then first else third)
      (atKind kind >>= fun found => if found = true then second else fourth) carry := by
  rw [atKind_bind, atKind_bind]
  have failing : FailsAtEnd expected
      (if (TokenKind.endOfInput == kind) = true then second else fourth) := by
    rw [beq_false_of_ne more.symm]
    exact fails
  refine mirrors_kindAhead_bind_of_fails (fun seen enough some least => ?_) failing
  refine mirrors_ite (fun found => present.mono ?_ (Nat.le_refl _) (Nat.le_refl _)) fun _ =>
    absent.mono least (Nat.le_refl _) (Nat.le_refl _)
  rw [beq_iff_eq.mp found] at some
  exact Nat.max_le.mpr ⟨least, some more⟩

theorem mirrors_atKind_ite {kind : TokenKind} {carry : Result → Result}
    {first second third fourth : Parser Result} (notStop : endsClause 1 kind = false)
    (present : Mirrors cut (max least 1) before after first second carry)
    (absent : Mirrors cut least before after third fourth carry) :
    Mirrors cut least before after
      (atKind kind >>= fun found => if found = true then first else third)
      (atKind kind >>= fun found => if found = true then second else fourth) carry :=
  mirrors_atKind_bind notStop present absent

theorem failsAtEnd_expectKind {kind : TokenKind} (more : kind ≠ .endOfInput) :
    FailsAtEnd (.token kind) (expectKind kind) := by
  refine FailsAtEnd.after_atKind ?_
  rw [beq_false_of_ne more.symm]
  exact failsAtEnd_fail

theorem failsAtEnd_expectSymbol (sign : Symbol) :
    FailsAtEnd (.token (.symbol sign)) (expectSymbol sign) := failsAtEnd_expectKind nofun

theorem mirrors_expectKind {kind : TokenKind} (more : kind ≠ .endOfInput) :
    Mirrors cut least (bound + 1) bound (expectKind kind) (expectKind kind)
      (Span.relocate cut.move) := by
  have fails : FailsAtEnd (.token kind) (fail (.token kind) : Parser Span) := failsAtEnd_fail
  refine mirrors_atKind_ite_of_fails more (mirrors_terminal (Nat.le_max_right ..)) ?_ fails
  exact mirrors_fail _

theorem mirrors_expectSymbol (sign : Symbol) :
    Mirrors cut least (bound + 1) bound (expectSymbol sign) (expectSymbol sign)
      (Span.relocate cut.move) := mirrors_expectKind nofun

theorem mirrors_expectNumber :
    Mirrors cut least (bound + 1) bound (expectKind .number) (expectKind .number)
      (Span.relocate cut.move) := mirrors_expectKind nofun

theorem mirrors_expectKeyword (word : Keyword) :
    Mirrors cut least (bound + 1) bound (expectKeyword word) (expectKeyword word)
      (Span.relocate cut.move) := by
  have fails : FailsAtEnd (.keyword word) (fail (.keyword word) : Parser Span) := failsAtEnd_fail
  refine mirrors_atKind_ite_of_fails nofun (mirrors_terminal (Nat.le_max_right ..)) ?_ fails
  exact mirrors_fail _

/-! ### Nested parsers -/

/-- A SELECT up to the parenthesis that is closed behind it. -/
def closedSelect (nested : Nested) : Parser (Select × Span) := do
  let query ← nested.select
  let closing ← expectSymbol .rightParen
  return (query, closing)

/-- The nested parsers of the whole do what those of the part do, with at most so many of its tokens
left. A SELECT that runs up to the end of the part may go on in the whole, unless it is closed. -/
structure Nested.Mirrors (cut : Cut) (bound : Nat) (first second : Nested) : Prop where
  fails : second.FailsAtEnd
  expr (minimum : Nat) :
    Parse.Mirrors cut 0 bound bound (first.expr minimum) (second.expr minimum)
      (Expr.relocate cut.move)
  predicate :
    Parse.Mirrors cut 0 bound bound first.predicate second.predicate (Predicate.relocate cut.move)
  bitExpr (minimum : Nat) :
    Parse.Mirrors cut 0 bound bound (first.bitExpr minimum) (second.bitExpr minimum)
      (BitExpr.relocate cut.move)
  simpleExpr :
    Parse.Mirrors cut 0 bound bound first.simpleExpr second.simpleExpr
      (SimpleExpr.relocate cut.move)
  closedSelect :
    Parse.Mirrors cut 0 bound bound (closedSelect first) (closedSelect second)
      (Prod.map (Select.relocate cut.move) (Span.relocate cut.move))

end Parse

end Grammar

end AnnotatedSql
