/-
Comments in selectors. A comment is free if it could be left out of a prelude without two tokens coming
together: next to white space, a comma, another free comment or an end (`uncommented`). Of these the keys
of a rule leave out the ones in front of each selector, and keep all others: the keys are those of the
rule without its free comments exactly if every free comment leads its selector (`CommentsLead`).
-/
import ClassAtlas.Proofs.Index.Ranges
import ClassAtlas.Proofs.Stylesheet.Parts

namespace ClassAtlas

namespace Stylesheet

open Text (isBlank squeeze AllBlank)

/-! ## Free comments -/

/-- Whether tokens start with white space, or end, once the comments in front are passed over. -/
def opensOut : List Token → Bool
  | [] => true
  | t :: ts => if t.kind = .comment then opensOut ts else t.kind == .gap

/-- Tokens without their free comments; told is whether a comment in front would be free by what stands
before it. -/
def clearFrom (free : Bool) : List Token → List Token
  | [] => []
  | t :: ts =>
    if t.kind = .comment then
      if free || opensOut ts then clearFrom true ts else t :: clearFrom false ts
    else
      t :: clearFrom (t.kind == .gap) ts

/-- A part without its free comments. -/
def uncommented (part : List Token) : List Token :=
  clearFrom true part

/-- A part without the comments in front of it. -/
def unled (part : List Token) : List Token :=
  (part.takeWhile Token.isSpacing).filter (fun t => t.kind != .comment) ++ part.dropWhile Token.isSpacing

/-- The key for some tokens: their text with its blanks squeezed. -/
def keyOf (ts : List Token) : String :=
  .ofList (squeeze (textOf ts))

/-- The rule of a node, with the comments in front of its selectors left out. -/
def StyleNode.unledRule (s : StyleNode) : StyleRule :=
  ⟨s.parts.map fun part => keyOf (unled part), s.rule.span⟩

/-- The rule of a node, with all free comments of its selectors left out. -/
def StyleNode.uncommentedRule (s : StyleNode) : StyleRule :=
  ⟨s.parts.map fun part => keyOf (uncommented part), s.rule.span⟩

/-- Every free comment in a selector of a rule that is noted leads the selector. -/
def CommentsLead (css : String) : Prop :=
  ∀ s ∈ notedNodes css, ∀ part ∈ s.parts,
    uncommented (part.dropWhile Token.isSpacing) = part.dropWhile Token.isSpacing

instance (css : String) : Decidable (CommentsLead css) :=
  inferInstanceAs (Decidable (∀ s ∈ notedNodes css, ∀ part ∈ s.parts, _ = _))

/-- A comment between two words of one selector is not free, and one in a row is free with the others. -/
example : textOf (uncommented (tokens "/**/.a/**/.b/**//**/ .c/**/".toList)) = ".a/**/.b .c".toList := by
  decide +kernel

/-! ## Keys without comments -/

theorem keyOf_blank {t : Token} (ht : AllBlank t.text) (ts : List Token) : keyOf (t :: ts) = keyOf ts := by
  rw [keyOf, textOf, List.flatMap_cons, Text.squeeze_append ht]
  rfl

section Parts

variable {part : List Token} (h : ∀ t ∈ part, t.Spelled)
include h

/-- The key of a part keeps all but the comments in front. -/
theorem selectorOf_eq_unled : selectorOf part = keyOf (unled part) := by
  induction part with
  | nil => rfl
  | cons t ts ih =>
    obtain ⟨ht, hts⟩ := List.forall_mem_cons.1 h
    have ih := ih hts
    cases hs : t.isSpacing with
    | false => simp [selectorOf, unled, keyOf, hs]
    | true =>
      have hkey : selectorOf (t :: ts) = selectorOf ts := by simp [selectorOf, hs]
      by_cases hk : t.kind = .comment
      · rw [hkey, ih]
        simp [unled, hs, hk]
      · have hgap : t.kind = .gap := (isSpacing_iff.1 hs).resolve_right hk
        rw [hkey, ih, ← keyOf_blank (ht.allBlank hgap)]
        simp [unled, hs, hgap]

/-- Spacing in front makes no difference to the key of a part without its free comments. -/
theorem keyOf_uncommented : keyOf (uncommented part) = keyOf (uncommented (part.dropWhile Token.isSpacing)) := by
  induction part with
  | nil => rfl
  | cons t ts ih =>
    obtain ⟨ht, hts⟩ := List.forall_mem_cons.1 h
    cases hs : t.isSpacing with
    | false => rw [List.dropWhile_cons_of_neg (by rw [hs]; exact Bool.false_ne_true)]
    | true =>
      rw [List.dropWhile_cons_of_pos hs, ← ih hts, uncommented, clearFrom]
      by_cases hk : t.kind = .comment
      · rw [if_pos hk, Bool.true_or, if_pos rfl]
        rfl
      · have hgap : t.kind = .gap := (isSpacing_iff.1 hs).resolve_right hk
        rw [if_neg hk, keyOf_blank (ht.allBlank hgap), hgap]
        rfl

end Parts

/-! ## What leaving comments out takes away -/

/-- The number of characters of some tokens that are not blank. -/
def solid (ts : List Token) : Nat :=
  ((textOf ts).filter fun c => !isBlank c).length

theorem solid_cons (t : Token) (ts : List Token) :
    solid (t :: ts) = (t.text.filter fun c => !isBlank c).length + solid ts := by
  rw [solid, textOf, List.flatMap_cons, List.filter_append, List.length_append]
  rfl

theorem solid_eq_of_keyOf {a b : List Token} (h : keyOf a = keyOf b) : solid a = solid b := by
  have hsqueeze : squeeze (textOf a) = squeeze (textOf b) := String.ofList_inj.1 h
  rw [solid, solid, ← Text.filter_squeeze, hsqueeze, Text.filter_squeeze]

theorem solid_clearFrom_le (free : Bool) (ts : List Token) : solid (clearFrom free ts) ≤ solid ts := by
  fun_induction clearFrom free ts with
  | case1 => exact Nat.le_refl _
  | case2 free t ts hk hfree ih => rw [solid_cons]; omega
  | case3 free t ts hk hfree ih => rw [solid_cons, solid_cons]; omega
  | case4 free t ts hk ih => rw [solid_cons, solid_cons]; omega

/-- If no character that is not blank goes, then no comment did. -/
theorem clearFrom_eq_of_solid {free : Bool} {ts : List Token} (h : ∀ t ∈ ts, t.Spelled)
    (hs : solid (clearFrom free ts) = solid ts) : clearFrom free ts = ts := by
  fun_induction clearFrom free ts with
  | case1 => rfl
  | case2 free t ts hk hfree ih =>
    have hpos : 0 < (t.text.filter fun c => !isBlank c).length :=
      List.length_pos_of_mem (List.mem_filter.2 ⟨(h t List.mem_cons_self).comment hk, by decide⟩)
    have hle := solid_clearFrom_le true ts
    rw [solid_cons] at hs
    omega
  | case3 free t ts hk hfree ih =>
    rw [solid_cons, solid_cons] at hs
    rw [ih (List.forall_mem_cons.1 h).2 (Nat.add_left_cancel hs)]
  | case4 free t ts hk ih =>
    rw [solid_cons, solid_cons] at hs
    rw [ih (List.forall_mem_cons.1 h).2 (Nat.add_left_cancel hs)]

/-- The key of a part is the key without its free comments exactly if it has none behind its first token. -/
theorem selectorOf_eq_uncommented_iff {part : List Token} (h : ∀ t ∈ part, t.Spelled) :
    selectorOf part = keyOf (uncommented part) ↔
      uncommented (part.dropWhile Token.isSpacing) = part.dropWhile Token.isSpacing := by
  have hrest : ∀ t ∈ part.dropWhile Token.isSpacing, t.Spelled :=
    fun t ht => h t ((List.dropWhile_sublist _).subset ht)
  rw [keyOf_uncommented h]
  constructor
  · intro hkey
    exact clearFrom_eq_of_solid hrest (solid_eq_of_keyOf hkey).symm
  · intro hsame
    rw [hsame]
    rfl

/-! ## Rules -/

theorem spelled_of_mem {css : String} {s : StyleNode} (hs : s ∈ notedNodes css) {part : List Token}
    (hp : part ∈ s.parts) : ∀ t ∈ part, t.Spelled := by
  obtain ⟨v, hv, hread⟩ := exists_readBefore (mem_partsOf hs hp)
  exact hread.spelled (ne_nil_of_startsBehindPart hv)

theorem rule_eq_iff {s : StyleNode} (h : s.Formed) (key : List Token → String) :
    s.rule = ⟨s.parts.map key, s.rule.span⟩ ↔ ∀ part ∈ s.parts, selectorOf part = key part := by
  have hrule : s.rule = ⟨s.parts.map selectorOf, s.rule.span⟩ := by
    rw [← h.selectors_eq_map]
    rfl
  rw [hrule, StyleRule.mk.injEq, and_iff_left rfl, List.map_inj_left]

theorem rule_eq_unledRule {css : String} {s : StyleNode} (hs : s ∈ notedNodes css) : s.rule = s.unledRule :=
  (rule_eq_iff (formed_of_mem_notedNodes hs) _).2 fun _ hp => selectorOf_eq_unled (spelled_of_mem hs hp)

theorem rule_eq_uncommentedRule_iff {css : String} {s : StyleNode} (hs : s ∈ notedNodes css) :
    s.rule = s.uncommentedRule ↔ ∀ part ∈ s.parts,
      uncommented (part.dropWhile Token.isSpacing) = part.dropWhile Token.isSpacing :=
  (rule_eq_iff (formed_of_mem_notedNodes hs) _).trans
    (forall₂_congr fun _ hp => selectorOf_eq_uncommented_iff (spelled_of_mem hs hp))

theorem rulesOf_scan_eq_uncommented_iff (css : String) :
    rulesOf (scan css) = (notedNodes css).map StyleNode.uncommentedRule ↔ CommentsLead css := by
  rw [rulesOf_scan_eq_map, List.map_inj_left]
  exact forall₂_congr fun _ hs => rule_eq_uncommentedRule_iff hs

end Stylesheet

namespace Index

open Stylesheet

/-- The keys of all rules leave out the comments in front of each selector. They leave out all free comments
exactly if these lead their selectors, and then so does the index. -/
theorem keys_uncommented (css : String) :
    rulesOf (scan css) = (notedNodes css).map StyleNode.unledRule ∧
    (rulesOf (scan css) = (notedNodes css).map StyleNode.uncommentedRule ↔ CommentsLead css) ∧
    ∀ sheet i, (ofText sheet css).1 = .ok i → CommentsLead css →
      i.spans = spansOf (entriesOf ((notedNodes css).map StyleNode.uncommentedRule)) := by
  refine ⟨?_, rulesOf_scan_eq_uncommented_iff css, fun sheet i h hlead => ?_⟩
  · rw [rulesOf_scan_eq_map]
    exact List.map_congr_left fun s hs => rule_eq_unledRule hs
  · rw [(ofText_eq_ok h).2.2, (rulesOf_scan_eq_uncommented_iff css).2 hlead]

/-- Comments in front of selectors, whatever they hold, are in no key. -/
theorem keys_uncommented_leading : ∃ i, (ofText sampleSheet "/*,*/.a,\n/*\x7b*/ .b\x7b\x7d").1 = .ok i ∧
    (i.find? "a").isSome ∧ (i.find? "b").isSome ∧
    i.spans = spansOf (entriesOf ((notedNodes "/*,*/.a,\n/*\x7b*/ .b\x7b\x7d").map StyleNode.uncommentedRule)) := by
  have hfound : ((ofText sampleSheet "/*,*/.a,\n/*\x7b*/ .b\x7b\x7d").1.toOption.map fun i =>
      (i.find? "a").isSome && (i.find? "b").isSome) = some true := by decide +kernel
  cases h : (ofText sampleSheet "/*,*/.a,\n/*\x7b*/ .b\x7b\x7d").1 with
  | error e => rw [h] at hfound; cases hfound
  | ok i =>
    rw [h] at hfound
    obtain ⟨ha, hb⟩ := Bool.and_eq_true_iff.1 (Option.some.inj hfound)
    exact ⟨i, rfl, ha, hb, (keys_uncommented _).2.2 sampleSheet i h (by decide +kernel)⟩

/-- A comment right behind a selector is in its key, and the class is not found. -/
theorem keys_uncommented_trailing :
    rulesOf (scan ".a/*x*/\x7b\x7d") ≠ (notedNodes ".a/*x*/\x7b\x7d").map StyleNode.uncommentedRule ∧
    ((ofText sampleSheet ".a/*x*/\x7b\x7d").1.toOption.bind (·.find? "a")) = none ∧
    ((ofText sampleSheet "/*x*/.a\x7b\x7d").1.toOption.bind (·.find? "a")).isSome := by
  decide +kernel

end Index

end ClassAtlas
