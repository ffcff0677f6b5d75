/-
# Texts cut at a character

A path is a text cut at its slashes and a file name is a text cut at its dots.  `cut` gives all
pieces, empty ones too, so there is always one piece more than there are separators, and putting the
separators back between the pieces gives the text again.
-/
namespace SchemaMock.Text

/-! ## 1. Pieces -/

/-- The pieces of a text between the separators, from left to right. -/
def cut (separator : Char) : List Char → List (List Char)
  | [] => [[]]
  | c :: rest =>
    if c = separator then [] :: cut separator rest
    else
      match cut separator rest with
      | [] => [[c]]
      | piece :: pieces => (c :: piece) :: pieces

/-- Pieces with the separator between them. -/
def joinWith (separator : Char) : List (List Char) → List Char
  | [] => []
  | [piece] => piece
  | piece :: pieces => piece ++ separator :: joinWith separator pieces

/-- The text before the first separator and the text behind it; all of it and nothing when there is
no separator. -/
def splitFirst (separator : Char) (cs : List Char) : List Char × Option (List Char) :=
  match cs.dropWhile (· ≠ separator) with
  | [] => (cs, none)
  | _ :: rest => (cs.takeWhile (· ≠ separator), some rest)

theorem cut_ne_nil (separator : Char) (cs : List Char) : cut separator cs ≠ [] := by
  induction cs with
  | nil => simp [cut]
  | cons c rest ih =>
    unfold cut
    split
    · simp
    · split <;> simp

/-! ## 2. Ends of a text -/

/-- The text behind `start`, if it begins so. -/
def after? : (start cs : List Char) → Option (List Char)
  | [], cs => some cs
  | _ :: _, [] => none
  | s :: start, c :: cs => if s = c then after? start cs else none

/-- Whether `piece` stands somewhere in a text. -/
def occursIn (piece : List Char) : List Char → Bool
  | [] => piece.isEmpty
  | c :: rest => (after? piece (c :: rest)).isSome || occursIn piece rest

end SchemaMock.Text
