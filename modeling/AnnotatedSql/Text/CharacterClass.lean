/-
This file fixes how a class of characters is written down, and the small classes.
-/

import AnnotatedSql.Text

namespace AnnotatedSql

/-- A class of characters as ranges of their numbers, both ends included. -/
abbrev CharacterClass := List (Nat × Nat)

namespace CharacterClass

def contains (ranges : CharacterClass) (character : Char) : Bool :=
  ranges.any fun range => range.1 ≤ character.toNat && character.toNat ≤ range.2

/-- The Unicode property White_Space. -/
def blanks : CharacterClass :=
   [(0x9, 0xD), (0x20, 0x20), (0x85, 0x85), (0xA0, 0xA0), (0x1680, 0x1680), (0x2000, 0x200A),
    (0x2028, 0x2029), (0x202F, 0x202F), (0x205F, 0x205F), (0x3000, 0x3000)]

end CharacterClass

/-- A blank separates tokens and is dropped at both ends of a command line's text. -/
def isBlank (character : Char) : Bool := CharacterClass.blanks.contains character

def isHexDigit (character : Char) : Bool :=
  character.isDigit || ('a' ≤ character && character ≤ 'f') ||
    ('A' ≤ character && character ≤ 'F')

def isBit (character : Char) : Bool := character == '0' || character == '1'

/-- The text without the blanks at its two ends. -/
def Text.trim (text : Text) : Text :=
  ((text.dropWhile isBlank).reverse.dropWhile isBlank).reverse

end AnnotatedSql
