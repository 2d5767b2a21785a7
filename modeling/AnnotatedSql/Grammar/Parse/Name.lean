/-
This file parses names.
-/

import AnnotatedSql.Grammar.Parse.Basic

namespace AnnotatedSql.Grammar.Parse

/-- A bare or quoted identifier, or an unreserved keyword. -/
def identifier : Parser Identifier := do
  let token ← current
  match token.kind with
  | .identifier | .quotedIdentifier =>
      advance
      return ⟨token.span, none⟩
  | .keyword word =>
      if word.isUnreserved then
        advance
        return ⟨token.span, some token.span⟩
      else
        fail .identifier
  | _ => fail .identifier

/-- `(owner .)? name` -/
def qualifiedName : Parser QualifiedName := do
  let start ← offset
  let first ← identifier
  let dotted ← atSymbol .dot
  let following ← kindAhead 1
  if dotted && following.isName then
    advance
    let name ← identifier
    let span ← spanFrom start
    return ⟨span, some ⟨first.span, first⟩, name⟩
  else
    return ⟨first.span, none, first⟩

/-- An identifier that stands for itself. -/
def label : Parser Label := do
  let name ← identifier
  return ⟨name.span, name⟩

/-- `(AS? identifier)?` -/
def itemLabel? : Parser (Option Label) := do
  if ← atKeyword .AS then
    advance
    let name ← label
    return some name
  else
    let following ← kindAhead 0
    if following.isName then
      let name ← label
      return some name
    else
      return none

/-- `name (, name)*` in the FROM clause. -/
def nameList : Parser NameList := do
  let start ← offset
  let names ← commaList qualifiedName
  let span ← spanFrom start
  return ⟨span, names⟩

end AnnotatedSql.Grammar.Parse
