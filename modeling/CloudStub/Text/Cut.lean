import CloudStub.Unicode.Classes

/-!
# Cutting text

Small operations that take texts apart at a separator, strip blanks, and find or replace a piece
of text.

## Main Definitions

- `Cut.first?`, `Cut.last?`: the parts around the first or last occurrence of a separator
- `Cut.fields`: the parts between separators
- `Cut.trim`: without the blanks at both ends
- `Cut.contains`: whether a piece occurs
- `Cut.replaceAll`: every occurrence of a piece replaced, from left to right
-/

namespace CloudStub.Cut

/-- The parts before and behind the first separator. -/
def first? (sep : Char) : List Char → Option (List Char × List Char)
  | [] => none
  | c :: rest =>
    if c = sep then some ([], rest) else (first? sep rest).map fun p => (c :: p.1, p.2)

/-- The parts before and behind the last separator. -/
def last? (sep : Char) : List Char → Option (List Char × List Char)
  | [] => none
  | c :: rest =>
    match last? sep rest with
    | some p => some (c :: p.1, p.2)
    | none => if c = sep then some ([], rest) else none

/-- What stands behind the last separator; the whole text when there is none. -/
def afterLast (sep : Char) (cs : List Char) : List Char :=
  match last? sep cs with
  | some p => p.2
  | none => cs

/-- The parts between separators; one part when there is no separator. -/
def fields (sep : Char) : List Char → List (List Char)
  | [] => [[]]
  | c :: rest =>
    if c = sep then [] :: fields sep rest
    else
      match fields sep rest with
      | part :: parts => (c :: part) :: parts
      | [] => [[c]]

/-- Without the blanks at the front. -/
def trimStart (cs : List Char) : List Char := cs.dropWhile Unicode.isBlank

/-- Without the blanks at the end. -/
def trimEnd (cs : List Char) : List Char := (cs.reverse.dropWhile Unicode.isBlank).reverse

/-- Without the blanks at both ends. -/
def trim (cs : List Char) : List Char := trimEnd (trimStart cs)

/-- Whether a piece occurs in a text. -/
def contains (piece : List Char) : List Char → Bool
  | [] => piece.isEmpty
  | c :: rest => piece.isPrefixOf (c :: rest) || contains piece rest

/-- Replaces every occurrence of a piece that is not empty.  The counter holds the characters of
an occurrence that are still to be skipped. -/
def replaceFrom (piece new : List Char) : Nat → List Char → List Char
  | _, [] => []
  | 0, c :: rest =>
    if piece.isPrefixOf (c :: rest) then new ++ replaceFrom piece new (piece.length - 1) rest
    else c :: replaceFrom piece new 0 rest
  | skip + 1, _ :: rest => replaceFrom piece new skip rest

/-- Every occurrence of a piece that is not empty replaced, from left to right and without
looking into the replacement. -/
def replaceAll (piece new text : String) : String :=
  String.ofList (replaceFrom piece.toList new.toList 0 text.toList)

end CloudStub.Cut
