/-
Looking up the word under a cursor. The word that is found at a position is the class that is looked up, as a
whole: the position is not before it, the column comes to an index in it or at its end, and no part of it is
selected, since it is no list and stands in no quotes (`looksUpWord_declarationAt`).
-/
import ClassAtlas.Proofs.Word

namespace ClassAtlas

namespace Word

/-- How a word stands to the position at which it was found. -/
structure FoundAt (document : String) (p : Position) (w : Word) : Prop where
  line : w.span.start.line = p.line
  notBefore : w.span.start.column ≤ p.column
  within : Text.indexAt (p.column - w.span.start.column) w.text.toList ≤ w.text.toList.length
  /-- The index in the word is the index in the line, counted from the start of the word. -/
  index : ∃ left right, Text.line? document.toList p.line = some (left ++ w.text.toList ++ right) ∧
    Text.unitCount left = w.span.start.column ∧
    Text.indexAt p.column (left ++ w.text.toList ++ right) =
      left.length + Text.indexAt (p.column - w.span.start.column) w.text.toList
  whole : ∀ offset, ClassList.classAt w.text offset = w.text

theorem foundAt_of_at? {document : String} {p : Position} {w : Word} (h : at? document p = some w) :
    w.FoundAt document p := by
  obtain ⟨left, right, hstands, hspan⟩ := at?_eq_some_iff.1 h
  have hcolumn : w.span.start.column = Text.unitCount left := by rw [hspan]
  refine ⟨by rw [hspan], ?_, Text.indexAt_le_length _ _, ⟨left, right, hstands.line, hcolumn.symm, ?_⟩, ?_⟩
  · rw [hcolumn]
    exact hstands.notBefore
  · rw [List.append_assoc, Text.indexAt_append_of_le hstands.notBefore, hcolumn, Text.indexAt_append_of_lt]
    -- the character behind the word is not reached, so that the column is on the word or at its end
    intro c hc
    have hpast := hstands.notPast c hc
    have hbefore := hstands.notBefore
    rw [Text.unitCount_append] at hpast
    omega
  · exact ClassList.classAt_plain (fun c hc => ne_space_of_isWordChar (hstands.run.all c hc))
      fun c hc => not_isQuote_of_isWordChar (hstands.run.all c hc)

end Word

namespace Index

/-- The declaration for a word: its text is looked up with a dot in front, and logged if it is not found. -/
def declarationOf (i : Index) (w : Word) : Option Declaration × List Event :=
  match i.get? ("." ++ w.text) with
  | some d => (some d, [])
  | none => (none, [.unknownClass w.text])

/-- What is looked up at a position is the word there. -/
structure LooksUpWord (i : Index) (document : String) (p : Position) : Prop where
  answer : i.declarationAt document p = (Word.at? document p).elim (none, []) i.declarationOf
  word : ∀ w, Word.at? document p = some w → w.FoundAt document p
  /-- A miss is told by one event of the lowest level, which names the word. -/
  miss : ∀ w, Word.at? document p = some w → i.get? ("." ++ w.text) = none →
    ∃ e, (i.declarationAt document p).2 = [e] ∧ e.level = .trace ∧
      e.text = "No Tachyons class " ++ Text.quoted w.text.toList ++ " under cursor"

theorem classUnder_eq (document : String) (p : Position) :
    classUnder document p = (Word.at? document p).map (·.text) := by
  unfold classUnder
  cases hw : Word.at? document p with
  | none => rfl
  | some w => exact congrArg some ((Word.foundAt_of_at? hw).whole _)

theorem declarationAt_eq (i : Index) (document : String) (p : Position) :
    i.declarationAt document p = (Word.at? document p).elim (none, []) i.declarationOf := by
  unfold declarationAt
  rw [classUnder_eq]
  cases Word.at? document p with
  | none => rfl
  | some w =>
    dsimp only [Option.map_some, Option.elim_some, declarationOf, find?]
    cases i.get? ("." ++ w.text) <;> rfl

/-- At every position of every document the word there is looked up, as a whole. -/
theorem looksUpWord_declarationAt (i : Index) (document : String) (p : Position) : LooksUpWord i document p := by
  have hanswer := declarationAt_eq i document p
  refine ⟨hanswer, fun w => Word.foundAt_of_at?, fun w hw hmiss => ⟨.unknownClass w.text, ?_, rfl, rfl⟩⟩
  rw [hanswer, hw, Option.elim_some, declarationOf, hmiss]

end Index

end ClassAtlas
