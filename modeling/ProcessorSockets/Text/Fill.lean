/-! Filling lines of a given width with words.  A text may be parted after a blank, after a
slash and at a hyphen; a word that no line could hold is cut. -/

namespace ProcessorSockets.Text

/-- Whether a line may end between `a` and `b`, where `before` stands to the left of `a`.
A digit stays with the slash in front of it, and a hyphen parts only what it joins. -/
def mayBreak (before : Option Char) (a b : Char) : Bool :=
  if a = ' ' then b ≠ ' ' && b ≠ '/'
  else if a = '/' then b.isAlpha
  else if a = '-' then before.any Char.isAlphanum && b.isAlphanum
  else false

def words (before : Option Char) : List Char → List (List Char)
  | [] => []
  | [a] => [[a]]
  | a :: b :: rest =>
    match mayBreak before a b, words (some a) (b :: rest) with
    | false, word :: more => (a :: word) :: more
    | _, more => [a] :: more

def bare (s : List Char) : List Char :=
  (s.reverse.dropWhile (· = ' ')).reverse

def pieces (width : Nat) (s : List Char) : List (List Char) :=
  if width = 0 ∨ s.length ≤ width then [s]
  else s.take width :: pieces width (s.drop width)
termination_by s.length
decreasing_by simp only [List.length_drop]; omega

def cut (width : Nat) (word : List Char) : List (List Char) :=
  if (bare word).length ≤ width then [word] else pieces width word

def fillLines (width : Nat) (line : List Char) : List (List Char) → List (List Char)
  | [] => [bare line]
  | word :: rest =>
    if line ≠ [] ∧ width < line.length + (bare word).length then
      bare line :: fillLines width word rest
    else fillLines width (line ++ word) rest

def fill (width : Nat) (s : List Char) : List (List Char) :=
  fillLines width [] ((words none s).flatMap (cut width))

end ProcessorSockets.Text
