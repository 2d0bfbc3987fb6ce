/-!
# Cutting text

A text is cut at the first or at the last place where a character stands; the
character itself belongs to neither part.
-/

namespace Modbus.Text.Split

/-- The parts before and behind the first place where a character stands. -/
def first? (separator : Char) : List Char → Option (List Char × List Char)
  | [] => none
  | character :: rest =>
    if character = separator then some ([], rest)
    else (first? separator rest).map fun (before, behind) => (character :: before, behind)

/-- The parts before and behind the last place where a character stands. -/
def last? (separator : Char) (text : List Char) : Option (List Char × List Char) :=
  (first? separator text.reverse).map fun (behind, before) => (before.reverse, behind.reverse)

/-- All parts between the places where a character stands. -/
def parts (separator : Char) (text : List Char) : List (List Char) :=
  text.foldr (fun character parts =>
    match parts with
    | part :: rest =>
      if character = separator then [] :: part :: rest else (character :: part) :: rest
    | [] => [[]]) [[]]

/-- A text without what satisfies `blank` at its ends. -/
def trim (blank : Char → Bool) (text : List Char) : List Char :=
  ((text.dropWhile blank).reverse.dropWhile blank).reverse

/-- What stands behind an initial part, if a text begins with it. -/
def behind? (start : List Char) (text : List Char) : Option (List Char) :=
  if start.isPrefixOf text then some (text.drop start.length) else none

end Modbus.Text.Split
