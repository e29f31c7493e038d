/-
What lies behind a text. A place of a text becomes, with another text in front, a place some lines
further down; on the first line it also moves to the right, by what the other text has on its last line
(`Position.shifted`). A scan from a mark that is moved so finds the same as before, each finding at its
moved place (`scanList_shifted`). Only a line feed behind a carriage return would be read differently.
-/
import ClassAtlas.Proofs.Stylesheet.Spans

namespace ClassAtlas

/-! ## Shifted places -/

open Stylesheet in
/-- A position of a text, as a position of that text behind another one. -/
def Position.shifted (front : List Char) (p : Position) : Position :=
  ⟨lineEnds front + p.line,
    if p.line = 0 then Text.unitCount (lastLine front) + p.column else p.column⟩

/-- A span of a text, as a span of that text behind another one. -/
def Span.shifted (front : List Char) (s : Span) : Span :=
  ⟨s.start.shifted front, s.stop.shifted front⟩

theorem Position.shifted_right (front : List Char) (p : Position) (n : Nat) :
    (p.right n).shifted front = (p.shifted front).right n := by
  unfold Position.right Position.shifted
  by_cases h : p.line = 0
  · simp [h, Nat.add_assoc]
  · simp [h]

namespace Stylesheet

/-- A told location, for a text behind another one. -/
def Location.shifted (front : List Char) (l : Location) : Location :=
  ⟨lineEnds front + l.line,
    if l.line = 0 then Text.unitCount (lastLine front) + l.column else l.column⟩

/-- A style rule of a text, as one of that text behind another one. -/
def StyleRule.shifted (front : List Char) (r : StyleRule) : StyleRule :=
  { r with span := r.span.shifted front }

/-- What is found in a text, as found in that text behind another one. -/
def Finding.shifted (front : List Char) : Finding → Finding
  | .rule r => .rule (r.shifted front)
  | .rejection r => .rejection { r with place := r.place.shifted front }

/-! ## Shifted marks -/

/-- A mark lies in a text with another one in front as a first mark does in the text alone, and they stay so
over the rest that is still to be read: if that starts with a line feed, it means the same to both. -/
structure Mark.Shifted (front : List Char) (m m' : Mark) (rest : List Char) : Prop where
  place : m'.place = m.place.shifted front
  afterReturn : rest.head? = some '\n' → m'.afterReturn = m.afterReturn

theorem place_step (m : Mark) (c : Char) :
    (m.step c).place =
      if isNewline c then if c = '\n' ∧ m.afterReturn then m.place else ⟨m.place.line + 1, 0⟩
      else m.place.right (Text.units c) := by
  unfold Mark.step
  by_cases hn : c = '\n'
  · subst hn
    cases m.afterReturn <;> rfl
  · by_cases hr : c = '\r'
    · subst hr; rfl
    · by_cases hf : c = '\x0c'
      · subst hf; rfl
      · simp [isNewline, hn, hr, hf]

theorem afterReturn_step (m : Mark) (c : Char) : (m.step c).afterReturn = (c == '\r') := by
  unfold Mark.step
  by_cases hn : c = '\n'
  · subst hn
    cases m.afterReturn <;> rfl
  · by_cases hr : c = '\r'
    · subst hr; rfl
    · by_cases hf : c = '\x0c'
      · subst hf; rfl
      · simp [hn, hr, hf]

section Marks

variable {front : List Char} {m m' : Mark}

theorem Mark.Shifted.step {c : Char} {rest : List Char} (h : m.Shifted front m' (c :: rest)) :
    (m.step c).Shifted front (m'.step c) rest where
  place := by
    rw [place_step, place_step, h.place]
    split
    · have hline : (⟨(m.place.shifted front).line + 1, 0⟩ : Position) =
          Position.shifted front ⟨m.place.line + 1, 0⟩ := by
        simp [Position.shifted, Nat.add_assoc]
      by_cases hc : c = '\n'
      · rw [h.afterReturn (by rw [hc]; rfl)]
        split
        · rfl
        · exact hline
      · rw [if_neg fun h => hc h.1, if_neg fun h => hc h.1]
        exact hline
    · exact (Position.shifted_right _ _ _).symm
  afterReturn _ := by rw [afterReturn_step, afterReturn_step]

theorem Mark.Shifted.advance {a rest : List Char} (h : m.Shifted front m' (a ++ rest)) :
    (m.advance a).Shifted front (m'.advance a) rest := by
  induction a generalizing m m' with
  | nil => exact h
  | cons c a ih => exact ih h.step

/-- What is known for a rest is known for its first part. -/
theorem Mark.Shifted.of_append {a b : List Char} (h : m.Shifted front m' (a ++ b)) :
    m.Shifted front m' a where
  place := h.place
  afterReturn ha := h.afterReturn (by rw [List.head?_append, ha]; rfl)

end Marks

/-- The end of the text in front is the start of the other one, unless a line end is cut in two. -/
theorem shifted_start {front rest : List Char}
    (h : ¬ (front.getLast? = some '\r' ∧ rest.head? = some '\n')) :
    Mark.start.Shifted front (Mark.start.advance front) rest where
  place := by rw [place_advance]; rfl
  afterReturn hr := by
    rw [advance_start]
    exact beq_eq_false_iff_ne.2 fun hf => h ⟨hf, hr⟩

/-! ## Shifted findings -/

section Findings

variable {front rest : List Char} {m m' : Mark}

theorem Mark.Shifted.ofFirst (h : m.Shifted front m' rest) :
    m'.location.ofFirst = m.location.ofFirst.shifted front := by
  unfold Mark.location Location.ofFirst
  rw [h.place]
  rfl

theorem Mark.Shifted.location (h : m.Shifted front m' rest) : m'.location = m.location.shifted front := by
  unfold Mark.location Location.shifted
  rw [h.place]
  unfold Position.shifted
  dsimp only
  split <;> rfl

theorem Mark.Shifted.behind (h : m.Shifted front m' rest) :
    m'.location.behind = m.location.behind.shifted front := by
  rw [h.location]
  rfl

/-- What is found for a prelude is shifted with the mark at which it starts. -/
theorem Mark.Shifted.ofPrelude (prelude : List Token) (block : Option Block)
    (h : m.Shifted front m' (textOf (prelude ++ block.elim [] Block.tokens))) :
    Finding.ofPrelude m' prelude block = (Finding.ofPrelude m prelude block).shifted front := by
  rw [textOf_append] at h
  have hrejection : ∀ {l l' : Location} (ts : List Token), l' = l.shifted front →
      Finding.rejection (.ofTokens l' ts) = (Finding.rejection (.ofTokens l ts)).shifted front := by
    rintro l _ ts rfl
    rfl
  unfold Finding.ofPrelude
  cases block with
  | none =>
    cases readsAsDeclaration prelude with
    | true => exact hrejection _ h.location
    | false => exact hrejection _ h.advance.location
  | some b =>
    cases readsAsDeclaration prelude with
    | true => exact hrejection _ h.location
    | false =>
      have htext : textOf prelude ++ textOf b.tokens =
          textOf (prelude ++ b.opener :: b.body) ++ textOf b.closer.toList := by
        simp [Block.tokens, textOf]
      have hinner : (m'.advance (textOf (prelude ++ b.opener :: b.body))).location.behind =
          (m.advance (textOf (prelude ++ b.opener :: b.body))).location.behind.shifted front := by
        rw [Option.elim_some, htext] at h
        exact h.advance.behind
      dsimp only
      unfold StyleRule.ofItem
      dsimp only
      rw [hinner, h.ofFirst]
      rfl

/-- A scan from a shifted mark finds the same, shifted. -/
theorem scanList_shifted {ts : List Token} (h : m.Shifted front m' (textOf ts)) :
    scanList m' ts = (scanList m ts).map (Finding.shifted front) := by
  -- both what a block holds and what is left behind an item are shorter than the whole
  induction hn : ts.length using Nat.strongRecOn generalizing m m' ts with
  | ind n ih =>
    subst hn
    cases hnext : Item.next? ts with
    | none => rw [scanList_none _ hnext, scanList_none _ hnext]; rfl
    | some found =>
      obtain ⟨gap, item, rest⟩ := found
      have hlength := Item.next?_length_lt hnext
      have htext : textOf ts = textOf gap ++ (textOf item.tokens ++ textOf rest) := by
        rw [← Item.next?_tokens hnext, textOf_append, textOf_append, List.append_assoc]
      rw [htext] at h
      have hhere := h.advance
      rw [scanList_some _ hnext, scanList_some _ hnext, List.map_append,
        ih rest.length (by omega) hhere.advance rfl]
      congr 1
      have hitem := hhere.of_append
      cases item with
      | atRule keyword prelude ending =>
        cases ending with
        | semicolon _ => rfl
        | listEnd => rfl
        | block b =>
          rw [Item.findings, Item.findings]
          split
          · have hbody : textOf (Item.atRule keyword prelude (.block b)).tokens =
                textOf (keyword :: prelude ++ [b.opener]) ++ (textOf b.body ++ textOf b.closer.toList) := by
              simp [Item.tokens, Ending.tokens, Block.tokens, textOf]
            rw [hbody] at hitem
            refine ih b.body.length ?_ hitem.advance.of_append rfl
            have hparts := hlength
            simp only [Item.tokens, Ending.tokens, Block.tokens, List.length_append, List.length_cons] at hparts
            omega
          · rfl
      | style prelude b => exact congrArg (· :: []) (Mark.Shifted.ofPrelude prelude (some b) hitem)
      | unfinished prelude =>
        refine congrArg (· :: []) (Mark.Shifted.ofPrelude prelude none ?_)
        rwa [Option.elim_none, List.append_nil]

end Findings

theorem rulesOf_map_shifted (front : List Char) (found : List Finding) :
    rulesOf (found.map (Finding.shifted front)) = (rulesOf found).map (StyleRule.shifted front) := by
  unfold rulesOf
  rw [List.filterMap_map, List.map_filterMap]
  refine List.filterMap_congr fun f _ => ?_
  cases f <;> rfl

theorem length_rejectionsOf_map_shifted (front : List Char) (found : List Finding) :
    (rejectionsOf (found.map (Finding.shifted front))).length = (rejectionsOf found).length := by
  unfold rejectionsOf
  rw [List.filterMap_map, List.length_filterMap_eq_countP, List.length_filterMap_eq_countP]
  refine List.countP_congr fun f _ => ?_
  cases f <;> rfl

theorem rejectionsOf_append (a b : List Finding) : rejectionsOf (a ++ b) = rejectionsOf a ++ rejectionsOf b :=
  List.filterMap_append

end Stylesheet

end ClassAtlas
