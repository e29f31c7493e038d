/-
What is reported of a stylesheet. Every piece that a scan rejects is told, and the number of all is told
once if there is an index, or in the failure if nothing but rejected pieces was found (`reported_ofText`).
-/
import ClassAtlas.Proofs.Index.Ranges
import ClassAtlas.Proofs.Stylesheet.Rejected

namespace ClassAtlas

open Stylesheet (rulesOf rejectionsOf scan ruleTree ruleLists rejectedIn pieceText RuleList)

theorem Uri.ofPath?_eq_none_iff {p : Path} : Uri.ofPath? p = none ↔ p.isAbsolute = false := by
  unfold Uri.ofPath?
  split
  · next h => simp [h]
  · next h => simpa using h

/-- The rejected piece that an event tells of. -/
def Event.rejection? : Event → Option Stylesheet.Rejection
  | .rejected r => some r
  | _ => none

/-- The number of rejected pieces that an event tells, and of which stylesheet. -/
def Event.skipped? : Event → Option (Nat × Path)
  | .skipped count path => some (count, path)
  | _ => none

namespace Index

/-- The number of style rules that read as declarations and of rule lists that end before a block. -/
def skippedIn (css : String) : Nat :=
  (Stylesheet.stylesOf (ruleTree css)).countP Stylesheet.StyleNode.isDeclaration +
    (ruleLists css).countP Stylesheet.endsUnfinished

/-- What is rejected in a stylesheet, and what is told of it. -/
structure Reported (sheet : Sheet) (css : String) : Prop where
  /-- Rejected are style rules that read as declarations and unfinished preludes, and no at-rules. -/
  rejected : (rejectionsOf (scan css)).map (·.text) = (rejectedIn (ruleTree css)).map pieceText
  /-- A rule list has at most one unfinished prelude, which reaches the end of the list. -/
  lists : ∀ nodes ∈ ruleLists css, RuleList css.toList nodes
  count : (rejectionsOf (scan css)).length = skippedIn css
  /-- Every rejected piece has its event. -/
  events : sheet.path.isAbsolute = true →
    (ofText sheet css).2.filterMap Event.rejection? = rejectionsOf (scan css)
  /-- Only a stylesheet of which all was rejected has no index. -/
  fails : sheet.path.isAbsolute = true → ∀ e, (ofText sheet css).1 = .error e ↔
    rulesOf (scan css) = [] ∧ 0 < skippedIn css ∧ e = .parse sheet.path (skippedIn css)
  /-- The number is told once with an index, if anything was rejected. -/
  warns : sheet.path.isAbsolute = true → (ofText sheet css).2.filterMap Event.skipped? =
    if rulesOf (scan css) ≠ [] ∧ 0 < skippedIn css then [(skippedIn css, sheet.path)] else []
  /-- Without a URI nothing is told, whatever the text. -/
  noUri : Uri.ofPath? sheet.path = none → ofText sheet css = (.error (.invalidPath sheet.path), [])

theorem filterMap_rejection? (found : List Stylesheet.Rejection) :
    (found.map Event.rejected).filterMap Event.rejection? = found := by
  rw [List.filterMap_map]
  exact List.filterMap_some

theorem filterMap_skipped? (found : List Stylesheet.Rejection) :
    (found.map Event.rejected).filterMap Event.skipped? = [] := by
  rw [List.filterMap_map, List.filterMap_eq_nil_iff]
  exact fun _ _ => rfl

/-- What comes of a text whose stylesheet has a URI. -/
theorem ofText_of_uri {sheet : Sheet} {uri : Uri} (hu : Uri.ofPath? sheet.path = some uri) (css : String) :
    ofText sheet css =
      if rulesOf (scan css) = [] ∧ 0 < skippedIn css then
        (.error (.parse sheet.path (skippedIn css)), (rejectionsOf (scan css)).map Event.rejected)
      else
        (.ok ⟨sheet, uri, spansOf (entriesOf (rulesOf (scan css)))⟩,
          (rejectionsOf (scan css)).map Event.rejected ++
            (if 0 < skippedIn css then [.skipped (skippedIn css) sheet.path] else []) ++
            [.indexed (spansOf (entriesOf (rulesOf (scan css)))).size sheet.path]) := by
  have hcount : (rejectionsOf (scan css)).length = skippedIn css := Stylesheet.length_rejectionsOf_scan css
  have hempty : (rejectionsOf (scan css)).isEmpty = !decide (0 < skippedIn css) := by
    rw [← hcount, Bool.eq_iff_iff, List.isEmpty_iff]
    simp [List.length_pos_iff]
  unfold ofText
  simp only [hu, hcount, hempty, Bool.not_not, Bool.and_eq_true, List.isEmpty_iff, decide_eq_true_eq,
    Bool.not_eq_true', decide_eq_false_iff_not]
  split
  · rfl
  · by_cases hpos : 0 < skippedIn css
    · rw [if_neg (not_not_intro hpos), if_pos hpos]
      rfl
    · rw [if_pos hpos, if_neg hpos]
      rfl

/-- What is rejected in a stylesheet is told piece by piece and by number. -/
theorem reported_ofText (sheet : Sheet) (css : String) : Reported sheet css := by
  have huri : sheet.path.isAbsolute = true → ∃ uri, Uri.ofPath? sheet.path = some uri := by
    intro h
    rw [← Option.ne_none_iff_exists', ne_eq, Uri.ofPath?_eq_none_iff, h]
    exact Bool.noConfusion
  refine ⟨Stylesheet.rejections_scan css, fun _ => Stylesheet.ruleList_of_mem,
    Stylesheet.length_rejectionsOf_scan css, fun h => ?_, fun h e => ?_, fun h => ?_, fun h => ?_⟩
  · obtain ⟨uri, hu⟩ := huri h
    rw [ofText_of_uri hu]
    split
    · exact filterMap_rejection? _
    · rw [List.filterMap_append, List.filterMap_append, filterMap_rejection?, List.append_assoc]
      split <;> exact List.append_nil _
  · obtain ⟨uri, hu⟩ := huri h
    rw [ofText_of_uri hu]
    split
    · next hfail =>
      rw [Except.error.injEq]
      exact ⟨fun he => ⟨hfail.1, hfail.2, he.symm⟩, fun he => he.2.2.symm⟩
    · next hfail => exact ⟨nofun, fun he => absurd ⟨he.1, he.2.1⟩ hfail⟩
  · obtain ⟨uri, hu⟩ := huri h
    rw [ofText_of_uri hu]
    split
    · next hfail => rw [filterMap_skipped?, if_neg fun hs => hs.1 hfail.1]
    · next hfail =>
      rw [List.filterMap_append, List.filterMap_append, filterMap_skipped?]
      by_cases hpos : 0 < skippedIn css
      · rw [if_pos hpos, if_pos ⟨fun hrules => hfail ⟨hrules, hpos⟩, hpos⟩]
        rfl
      · rw [if_neg hpos, if_neg fun hs => hpos hs.2]
        rfl
  · unfold ofText
    rw [h]

/-- A last prelude in an at-rule, a declaration and a last prelude of the stylesheet are rejected, and the one
rule that is left is indexed. -/
example :
    (rejectionsOf (scan "@media x\x7ba\x7d.b\x7b\x7d--c:d\x7b\x7de")).map (·.text) = ["a", "--c:d\x7b\x7d", "e"] ∧
    (ofText sampleSheet "@media x\x7ba\x7d.b\x7b\x7d--c:d\x7b\x7de").1.toOption.map (·.size) = some 1 := by
  decide +kernel

/-- Declarations are rejected in a list that does not end before a block, and two in one list. -/
theorem reported_declarations :
    (rejectionsOf (scan "--a:b\x7b\x7d--c:d\x7b\x7d.e\x7b\x7d")).length = 2 ∧
    (ruleLists "--a:b\x7b\x7d--c:d\x7b\x7d.e\x7b\x7d").length = 1 ∧
    (ruleLists "--a:b\x7b\x7d--c:d\x7b\x7d.e\x7b\x7d").countP Stylesheet.endsUnfinished = 0 := by
  decide +kernel

end Index

end ClassAtlas
