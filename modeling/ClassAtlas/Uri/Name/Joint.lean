/-
Joiners in names. Two characters have no shape of their own and only say that letters join, or that
they do not. A name may hold them where they make a difference: after a character that takes away a
vowel, and the second kind also between letters that would join.
-/
import ClassAtlas.Text.Canonical
import ClassAtlas.Uri.Name.Joints

namespace ClassAtlas.Uri.Name

open ClassAtlas.Text

/-- How letters join. -/
def joints : Table :=
  Table.ofLines jointLines

/-- What the table of joints says about a character. -/
def jointOf (c : Char) : List Char :=
  ((joints.row? c.toNat).map Row.value).getD []

/-- The character that keeps letters from joining. -/
def nonJoiner : Char := '\u200c'

/-- The character that makes letters join. -/
def joiner : Char := '\u200d'

/-- The combining class of characters that take away the vowel of a letter. -/
def vowelKiller : Nat := 9

/-- Whether the first character that is not passed over joins in one of some ways. -/
def joins (ways : List Char) (cs : List Char) : Bool :=
  match (cs.map jointOf).dropWhile (· = ['T']) with
  | [way] :: _ => ways.contains way
  | _ => false

/-- Whether a joiner may stand between two texts; the characters before it are given the last
first. -/
def isJoinerAllowed (c : Char) (before after : List Char) : Bool :=
  match before with
  | [] => false
  | previous :: _ =>
    Canonical.classOf previous.toNat == vowelKiller ||
      (c == nonJoiner && joins ['L', 'D'] before && joins ['R', 'D'] after)

/-- Whether all joiners in a text may stand where they are; `before` is what precedes the text,
the last character first. -/
def joinersFit (before : List Char) : List Char → Bool
  | [] => true
  | c :: r =>
    ((c != nonJoiner && c != joiner) || isJoinerAllowed c before r) && joinersFit (c :: before) r

end ClassAtlas.Uri.Name
