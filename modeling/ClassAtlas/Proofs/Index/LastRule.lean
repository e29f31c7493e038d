/-
The last rule wins. An index holds for a class selector the span of the last rule of the stylesheet
that lists it, rules inside grouping at-rules counting at their place, and nothing for a selector
that no rule lists (`find?_ofText_iff`).
-/
import ClassAtlas.Definition
import Mathlib.Data.List.Induction

namespace ClassAtlas

/-- A rule is the last one of a list of rules that lists a selector. -/
def LastListing (rules : List Stylesheet.StyleRule) (selector : String) (rule : Stylesheet.StyleRule) : Prop :=
  ∃ earlier later, rules = earlier ++ rule :: later ∧ selector ∈ rule.selectors ∧
    ∀ r ∈ later, selector ∉ r.selectors

theorem not_lastListing_nil (selector : String) (rule : Stylesheet.StyleRule) :
    ¬ LastListing [] selector rule := by
  rintro ⟨earlier, later, h, -⟩
  simp at h

/-- With one more rule at the end, the last one is that rule or the last one before it. -/
theorem lastListing_concat (rules : List Stylesheet.StyleRule) (r : Stylesheet.StyleRule) (selector : String)
    (rule : Stylesheet.StyleRule) :
    LastListing (rules ++ [r]) selector rule ↔
      if selector ∈ r.selectors then rule = r else LastListing rules selector rule := by
  constructor
  · rintro ⟨earlier, later, h, hm, hl⟩
    rcases List.eq_nil_or_concat later with rfl | ⟨later, r', rfl⟩
    · obtain ⟨-, hr⟩ := List.append_inj' h rfl
      cases hr
      rw [if_pos hm]
    · rw [List.concat_eq_append] at h hl
      rw [← List.cons_append, ← List.append_assoc] at h
      obtain ⟨hrules, hr⟩ := List.append_inj' h rfl
      cases hr
      subst hrules
      rw [if_neg (hl r (by simp))]
      exact ⟨earlier, later, rfl, hm, fun s hs => hl s (by simp [hs])⟩
  · intro h
    split at h
    · next hm => subst h; exact ⟨rules, [], rfl, hm, by simp⟩
    · next hn =>
      obtain ⟨earlier, later, rfl, hm, hl⟩ := h
      refine ⟨earlier, later ++ [r], by simp, hm, fun s hs => ?_⟩
      rcases List.mem_append.1 hs with hs | hs
      · exact hl s hs
      · rw [List.mem_singleton.1 hs]; exact hn

/-- There is a last rule that lists a selector exactly if some rule does. -/
theorem exists_lastListing_iff (rules : List Stylesheet.StyleRule) (selector : String) :
    (∃ rule, LastListing rules selector rule) ↔ ∃ rule ∈ rules, selector ∈ rule.selectors := by
  induction rules using List.reverseRecOn with
  | nil => simp [not_lastListing_nil]
  | append_singleton rules r ih =>
    simp only [lastListing_concat]
    by_cases hm : selector ∈ r.selectors
    · simp only [hm, if_true, exists_eq, true_iff]
      exact ⟨r, by simp, hm⟩
    · simp only [hm, if_false, ih, List.mem_append, List.mem_singleton]
      constructor
      · rintro ⟨rule, h, hs⟩; exact ⟨rule, .inl h, hs⟩
      · rintro ⟨rule, h | rfl, hs⟩
        · exact ⟨rule, h, hs⟩
        · exact absurd hs hm

namespace Index

/-! ## The spans -/

theorem getElem?_insert (spans : Std.TreeMap String Span) (k : String) (span : Span) (selector : String) :
    (spans.insert k span)[selector]? = if k = selector then some span else spans[selector]? := by
  rw [Std.TreeMap.getElem?_insert]
  simp only [Std.LawfulEqOrd.compare_eq_iff_eq]

/-- One rule puts its span under each of its class selectors and leaves the others alone. -/
theorem getElem?_foldl_insert (spans : Std.TreeMap String Span) (span : Span) (selectors : List String)
    (selector : String) :
    ((selectors.map fun s => (s, span)).foldl (fun spans (s, span) => spans.insert s span) spans)[selector]? =
      if selector ∈ selectors then some span else spans[selector]? := by
  induction selectors generalizing spans with
  | nil => simp
  | cons s rest ih =>
    simp only [List.map_cons, List.foldl_cons, ih, getElem?_insert, List.mem_cons]
    by_cases hr : selector ∈ rest
    · simp [hr]
    · by_cases hs : s = selector
      · simp [hs]
      · simp [hr, hs, Ne.symm hs]

theorem spansOf_concat (rules : List Stylesheet.StyleRule) (r : Stylesheet.StyleRule) (selector : String) :
    (spansOf (entriesOf (rules ++ [r])))[selector]? =
      if selector ∈ r.selectors.filter isClassSelector then some r.span
      else (spansOf (entriesOf rules))[selector]? := by
  unfold spansOf entriesOf
  rw [List.flatMap_append, List.foldl_append]
  simp only [List.flatMap_cons, List.flatMap_nil, List.append_nil]
  exact getElem?_foldl_insert _ _ _ _

/-- The span kept for a class selector is that of the last rule that lists it. -/
theorem spansOf_eq_some_iff (rules : List Stylesheet.StyleRule) {selector : String}
    (hc : isClassSelector selector = true) (span : Span) :
    (spansOf (entriesOf rules))[selector]? = some span ↔
      ∃ rule, LastListing rules selector rule ∧ rule.span = span := by
  induction rules using List.reverseRecOn with
  | nil => simp [spansOf, entriesOf, not_lastListing_nil]
  | append_singleton rules r ih =>
    rw [spansOf_concat]
    simp only [lastListing_concat, List.mem_filter, hc, and_true]
    by_cases hm : selector ∈ r.selectors
    · simp [hm]
    · simp [hm, ih]

/-! ## Looking up -/

theorem isClassSelector_dot (name : String) : isClassSelector ("." ++ name) = true := by
  unfold isClassSelector
  rw [String.toList_append]
  rfl

/-- An index made from a text: it has the URI of the stylesheet and the spans of its rules. -/
theorem ofText_eq_ok {sheet : Sheet} {css : String} {i : Index} (h : (ofText sheet css).1 = .ok i) :
    Uri.ofPath? sheet.path = some i.uri ∧ i.sheet = sheet ∧
      i.spans = spansOf (entriesOf (Stylesheet.rulesOf (Stylesheet.scan css))) := by
  unfold ofText at h
  cases hu : Uri.ofPath? sheet.path with
  | none => rw [hu] at h; cases h
  | some uri =>
    rw [hu] at h
    dsimp only at h
    split at h
    · cases h
    · cases h; exact ⟨rfl, rfl, rfl⟩

/-- A class is found exactly if some rule lists it, and then at the last such rule. -/
theorem find?_ofText_iff {sheet : Sheet} {css : String} {i : Index} (h : (ofText sheet css).1 = .ok i)
    (name : String) (d : Declaration) :
    i.find? name = some d ↔ Uri.ofPath? sheet.path = some d.uri ∧
      ∃ rule, LastListing (Stylesheet.rulesOf (Stylesheet.scan css)) ("." ++ name) rule ∧ rule.span = d.span := by
  obtain ⟨hu, -, hs⟩ := ofText_eq_ok h
  obtain ⟨uri, span⟩ := d
  unfold find? get?
  rw [Option.map_eq_some_iff, hs, hu]
  simp only [spansOf_eq_some_iff _ (isClassSelector_dot name), Declaration.mk.injEq, Option.some.injEq]
  constructor
  · rintro ⟨span, hr, hi, rfl⟩; exact ⟨hi, hr⟩
  · rintro ⟨hi, hr⟩; exact ⟨span, hr, hi, rfl⟩

/-- A declaration is that of the word under the position. -/
theorem declarationAt_eq_some_iff {i : Index} {document : String} {p : Position} {d : Declaration} :
    (i.declarationAt document p).1 = some d ↔
      ∃ name, classUnder document p = some name ∧ i.find? name = some d := by
  unfold declarationAt
  cases classUnder document p with
  | none => simp
  | some name =>
    dsimp only
    cases hf : i.find? name with
    | none => simp [hf]
    | some d' => simp [hf]

end Index

end ClassAtlas
