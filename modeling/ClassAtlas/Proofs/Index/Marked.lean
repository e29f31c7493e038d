/-
Loading a stylesheet with a byte-order mark in front. The mark begins the first selector of the file, and makes one
rule of all up to the end of the first block (`indexesMarked_ofText`). So the outcome is another one, unless every
class that is declared up to there is listed in a later part of that rule or declared behind it, too (`load_marked`).
-/
import ClassAtlas.Proofs.Files.Extends
import ClassAtlas.Proofs.Index.Appended
import ClassAtlas.Proofs.Index.Keys
import ClassAtlas.Proofs.Stylesheet.Marked

namespace ClassAtlas.Index

open Stylesheet

/-! ## Outcomes -/

/-- Loading comes to the same but for places: the same error, or indexes with the same keys. -/
inductive SameOutcome : Except IndexError Index → Except IndexError Index → Prop
  | error (e : IndexError) : SameOutcome (.error e) (.error e)
  | ok {i j : Index} : (∀ selector, (i.get? selector).isSome ↔ (j.get? selector).isSome) → SameOutcome (.ok i) (.ok j)

/-- A class selector that some rules among findings list. -/
def ListsClass (found : List Finding) (selector : String) : Prop :=
  isClassSelector selector = true ∧ ∃ rule ∈ rulesOf found, selector ∈ rule.selectors

theorem isSome_get?_iff (sheet : Sheet) (uri : Uri) (found : List Finding) (selector : String) :
    ((Index.mk sheet uri (spansOf (entriesOf (rulesOf found)))).get? selector).isSome ↔ ListsClass found selector := by
  rw [get?, Option.isSome_map, ← Std.TreeMap.mem_iff_isSome_getElem?, mem_spansOf, mem_classSelectors]
  rfl

theorem listsClass_append {a b : List Finding} {selector : String} :
    ListsClass (a ++ b) selector ↔ ListsClass a selector ∨ ListsClass b selector := by
  unfold ListsClass
  rw [rulesOf_append]
  simp only [List.mem_append, or_and_right, exists_or, and_or_left]

theorem listsClass_map_shifted {front : List Char} {found : List Finding} {selector : String} :
    ListsClass (found.map (Finding.shifted front)) selector ↔ ListsClass found selector := by
  unfold ListsClass
  rw [rulesOf_map_shifted]
  simp only [List.mem_map, exists_exists_and_eq_and]
  rfl

/-! ## With the mark -/

/-- What is kept of the classes of a stylesheet behind a mark: those in the later parts of the first rule, whose
prelude is what leads up to the first block, and those that are listed behind the block. -/
def KeepsClass (lead : List Token) (behind : List Finding) (selector : String) : Prop :=
  (isClassSelector selector = true ∧ selector ∈ laterSelectors lead) ∨ ListsClass behind selector

/-- What is found behind the first block of a stylesheet. -/
def foundBehind (lead : List Token) (b : Block) (rest : List Token) : List Finding :=
  scanList (Mark.start.advance (textOf (lead ++ b.tokens))) rest

/-- What indexing a stylesheet that starts with a mark comes to. -/
inductive IndexesMarked (sheet : Sheet) (cs : List Char) : Except IndexError Index → Prop
  | noUri : Uri.ofPath? sheet.path = none → IndexesMarked sheet cs (.error (.invalidPath sheet.path))
  | noBlock {uri : Uri} : Uri.ofPath? sheet.path = some uri → firstBlock? (tokens cs) = none →
      IndexesMarked sheet cs (.error (.parse sheet.path 1))
  | block {uri : Uri} {lead rest : List Token} {b : Block} {i : Index} : Uri.ofPath? sheet.path = some uri →
      firstBlock? (tokens cs) = some (lead, b, rest) →
      (∀ selector, (i.get? selector).isSome ↔ KeepsClass lead (foundBehind lead b rest) selector) →
      IndexesMarked sheet cs (.ok i)

/-- A rule whose prelude starts with the mark lists the classes of its later parts. -/
theorem listsClass_marked {t : Token} (ht : t.IsMarked) (m : Mark) (lead : List Token) (b : Block)
    (behind : List Finding) (selector : String) :
    ListsClass (.rule (.ofItem m (t :: lead) b) :: behind) selector ↔ KeepsClass (t :: lead) behind selector := by
  obtain ⟨first, hselectors, hfirst⟩ := selectorsOf_marked ht lead
  have hclass : isClassSelector first = false := by
    rw [isClassSelector, hfirst]
    rfl
  have hrule : ListsClass [.rule (.ofItem m (t :: lead) b)] selector ↔
      isClassSelector selector = true ∧ selector ∈ laterSelectors (t :: lead) := by
    have hmem : ListsClass [.rule (.ofItem m (t :: lead) b)] selector ↔
        isClassSelector selector = true ∧ selector ∈ selectorsOf (t :: lead) := by
      simp [ListsClass, rulesOf, StyleRule.ofItem]
    rw [hmem, hselectors, List.mem_cons]
    refine and_congr_right fun hs => or_iff_right ?_
    rintro rfl
    rw [hclass] at hs
    cases hs
  rw [KeepsClass, ← hrule, ← listsClass_append]
  rfl

theorem indexesMarked_ofText (sheet : Sheet) (css : String) :
    IndexesMarked sheet (byteOrderMark :: css.toList) (ofText sheet ("\ufeff" ++ css)).1 := by
  obtain ⟨t, ts, htokens, ht⟩ := exists_marked css.toList
  have hscan : scan ("\ufeff" ++ css) = scanList .start (t :: ts) := by
    rw [scan, String.toList_append]
    exact congrArg _ htokens
  cases hu : Uri.ofPath? sheet.path with
  | none =>
    rw [(indexes_iff sheet _ _).1 (.noUri hu)]
    exact .noUri hu
  | some uri =>
    have hfound := foundMarked ht .start ts
    rw [← hscan, ← htokens] at hfound
    generalize hfirst : firstBlock? (tokens (byteOrderMark :: css.toList)) = first at hfound
    generalize hall : scan ("\ufeff" ++ css) = found at hfound
    cases hfound with
    | none r =>
      rw [(indexes_iff sheet _ _).1 (.noRule hu (by rw [hall]; rfl) (by rw [hall]; exact List.cons_ne_nil _ _)), hall]
      exact .noBlock hu hfirst
    | some ht lead rest b =>
      rw [(indexes_iff sheet _ _).1 (.indexed hu (.inl (by rw [hall]; exact List.cons_ne_nil _ _))), hall]
      refine .block hu hfirst fun selector => ?_
      rw [isSome_get?_iff, listsClass_marked ht]
      rfl

/-! ## Without the mark -/

/-- A mark in front of a stylesheet changes nothing but places. Without a block outside all brackets something has to
be rejected anyway. Otherwise there has to be an index without the mark, too, and its classes have to be those that
are kept. -/
inductive Unharmed (css : String) : Prop
  | noBlock : firstBlock? (tokens css.toList) = none → rejectionsOf (scan css) ≠ [] → Unharmed css
  | block {lead rest : List Token} {b : Block} : firstBlock? (tokens css.toList) = some (lead, b, rest) →
      rulesOf (scan css) ≠ [] ∨ rejectionsOf (scan css) = [] →
      (∀ selector, ListsClass (scanList .start (lead ++ b.tokens)) selector →
        KeepsClass lead (foundBehind lead b rest) selector) →
      (∀ selector ∈ laterSelectors lead, isClassSelector selector = true → ListsClass (scan css) selector) →
      Unharmed css

/-- What is found behind the first block is found there with the mark, too. -/
theorem foundBehind_withMark (lead : List Token) (b : Block) (rest : List Token) :
    foundBehind (withMark lead) b rest = (foundBehind lead b rest).map (Finding.shifted [byteOrderMark]) := by
  have hstart : Mark.start.Shifted [byteOrderMark] (Mark.start.advance [byteOrderMark])
      (textOf (lead ++ b.tokens) ++ textOf rest) := shifted_start fun h => absurd h.1 (by decide)
  have htext : textOf (withMark lead ++ b.tokens) = [byteOrderMark] ++ textOf (lead ++ b.tokens) := by
    rw [textOf_append, textOf_append, textOf_withMark]
    rfl
  rw [foundBehind, htext, Mark.advance_append, scanList_shifted hstart.advance]
  rfl

theorem keepsClass_withMark (lead : List Token) (b : Block) (rest : List Token) (selector : String) :
    KeepsClass (withMark lead) (foundBehind (withMark lead) b rest) selector ↔
      KeepsClass lead (foundBehind lead b rest) selector := by
  rw [KeepsClass, KeepsClass, laterSelectors_withMark, foundBehind_withMark, listsClass_map_shifted]

section Compare

variable {sheet : Sheet} {css : String} {uri : Uri} (hu : Uri.ofPath? sheet.path = some uri)
include hu

/-- Without a block outside all brackets the outcome is the same exactly if something is rejected. -/
theorem sameOutcome_noBlock (hfirst : firstBlock? (tokens css.toList) = none) :
    SameOutcome (ofText sheet css).1 (.error (.parse sheet.path 1)) ↔ Unharmed css := by
  have hscans := scansByBlock .start (tokens css.toList)
  rw [hfirst] at hscans
  obtain ⟨hrules, hone⟩ : rulesOf (scan css) = [] ∧ (rejectionsOf (scan css)).length ≤ 1 := by
    cases hscans with
    | none hrules hone => exact ⟨hrules, hone⟩
  by_cases hrejected : rejectionsOf (scan css) = []
  · rw [(indexes_iff sheet css _).1 (.indexed hu (.inr hrejected))]
    refine iff_of_false nofun fun h => ?_
    cases h with
    | noBlock _ hr => exact hr hrejected
    | block hsome => rw [hfirst] at hsome; cases hsome
  · have hlength : (rejectionsOf (scan css)).length = 1 :=
      Nat.le_antisymm hone (List.length_pos_iff.2 hrejected)
    rw [(indexes_iff sheet css _).1 (.noRule hu hrules hrejected), hlength]
    exact iff_of_true (.error _) (.noBlock hfirst hrejected)

/-- With one, it is the same exactly if the classes are those that are kept. -/
theorem sameOutcome_block {lead rest : List Token} {b : Block} {i : Index}
    (hfirst : firstBlock? (tokens css.toList) = some (lead, b, rest))
    (hkeys : ∀ selector, (i.get? selector).isSome ↔ KeepsClass lead (foundBehind lead b rest) selector) :
    SameOutcome (ofText sheet css).1 (.ok i) ↔ Unharmed css := by
  have hscans := scansByBlock .start (tokens css.toList)
  rw [hfirst] at hscans
  have hparts : ∀ selector, ListsClass (scan css) selector ↔
      ListsClass (scanList .start (lead ++ b.tokens)) selector ∨ ListsClass (foundBehind lead b rest) selector := by
    cases hscans with
    | some hscan =>
      intro selector
      rw [scan, hscan, listsClass_append]
      rfl
  by_cases hindexed : rulesOf (scan css) ≠ [] ∨ rejectionsOf (scan css) = []
  · rw [(indexes_iff sheet css _).1 (.indexed hu hindexed)]
    constructor
    · rintro (_ | hsame)
      simp only [isSome_get?_iff, hkeys] at hsame
      refine .block hfirst hindexed (fun selector hs => ?_) fun selector hs hc => ?_
      · exact (hsame selector).1 ((hparts selector).2 (.inl hs))
      · exact (hsame selector).2 (.inl ⟨hc, hs⟩)
    · intro h
      refine .ok fun selector => ?_
      rw [isSome_get?_iff, hkeys]
      cases h with
      | noBlock hnone => rw [hfirst] at hnone; cases hnone
      | block hsome _ hlost hnew =>
        rw [hfirst] at hsome
        cases hsome
        constructor
        · intro hs
          rcases (hparts selector).1 hs with hs | hs
          · exact hlost selector hs
          · exact .inr hs
        · rintro (⟨hc, hs⟩ | hs)
          · exact hnew selector hs hc
          · exact (hparts selector).2 (.inr hs)
  · obtain ⟨hrules, hrejections⟩ := not_or.1 hindexed
    rw [(indexes_iff sheet css _).1 (.noRule hu (Classical.not_not.1 hrules) hrejections)]
    refine iff_of_false nofun fun h => ?_
    cases h with
    | noBlock hnone => rw [hfirst] at hnone; cases hnone
    | block _ hind => exact hindexed hind

end Compare

theorem sameOutcome_ofText_iff (sheet : Sheet) {css : String} (hplain : StartsPlainly css.toList) :
    SameOutcome (ofText sheet css).1 (ofText sheet ("\ufeff" ++ css)).1 ↔
      Uri.ofPath? sheet.path = none ∨ Unharmed css := by
  have hmark := firstBlock?_withMark (tokens css.toList)
  rw [← tokens_mark hplain] at hmark
  have hmarked := indexesMarked_ofText sheet css
  generalize (ofText sheet ("\ufeff" ++ css)).1 = result at hmarked
  cases hmarked with
  | noUri hu =>
    rw [(indexes_iff sheet css _).1 (.noUri hu)]
    exact iff_of_true (.error _) (.inl hu)
  | noBlock hu hnone =>
    rw [hmark, Option.map_eq_none_iff] at hnone
    rw [sameOutcome_noBlock hu hnone, hu]
    simp
  | block hu hsome hkeys =>
    rw [hmark, Option.map_eq_some_iff] at hsome
    obtain ⟨⟨lead, b, rest⟩, hfirst, hlead⟩ := hsome
    cases hlead
    simp only [keepsClass_withMark] at hkeys
    rw [sameOutcome_block hu hfirst hkeys, hu]
    simp

/-! ## Files -/

/-- The bytes of the mark. -/
def markBytes : ByteArray := ⟨#[0xEF, 0xBB, 0xBF]⟩

theorem load_of_readText {fs : Files} {sheet : Sheet} {css : String} (h : fs.readText sheet.path = .ok css) :
    (load fs sheet).1 = (ofText sheet css).1 :=
  (loads_iff fs sheet _).1 (.read h (indexes_ofText sheet css))

theorem readText_marked {fs : Files} {p : Path} {css : String} (h : fs.read p = .ok (markBytes ++ css.toUTF8)) :
    fs.readText p = .ok ("\ufeff" ++ css) := by
  have hmark : "\ufeff".toUTF8 = markBytes := rfl
  rw [Files.readText_eq_ok_iff, h, ← hmark]
  exact congrArg _ String.toByteArray_append.symm

/-- A stylesheet with a byte-order mark in front is loaded with the mark as part of a name: without a block outside
all brackets it is refused with one rejection, and otherwise it has the classes that the later parts of its first rule
list and those behind its first block. If it starts plainly without the mark, the outcome is the same as without it
exactly if its path has no URI, or the mark does no harm. -/
theorem load_marked {fs fs' : Files} {sheet : Sheet} {css : String} (hread : fs.read sheet.path = .ok css.toUTF8)
    (hmarked : fs'.read sheet.path = .ok (markBytes ++ css.toUTF8)) :
    IndexesMarked sheet (byteOrderMark :: css.toList) (load fs' sheet).1 ∧
      (StartsPlainly css.toList → (SameOutcome (load fs sheet).1 (load fs' sheet).1 ↔
        Uri.ofPath? sheet.path = none ∨ Unharmed css)) := by
  rw [load_of_readText (Files.readText_eq_ok_iff.2 hread), load_of_readText (readText_marked hmarked)]
  exact ⟨indexesMarked_ofText sheet css, sameOutcome_ofText_iff sheet⟩

/-- Files with a stylesheet of some bytes at the path of `sampleSheet`. -/
def sampleLoaded (content : ByteArray) : Files := ⟨[([[0x61]], .file content)], []⟩

theorem read_sampleLoaded (content : ByteArray) : (sampleLoaded content).read sampleSheet.path = .ok content := rfl

/-- What leads up to the first block of `/**/html\x7b\x7d.a\x7b\x7d`. -/
def sampleLead : List Token := [⟨.comment, "/**/".toList⟩, ⟨.ident, "html".toList⟩]

/-- The block itself. -/
def sampleBlock : Block := ⟨⟨.opening .curly, ['\x7b']⟩, [], some ⟨.closing .curly, ['\x7d']⟩⟩

/-- The first rule of that stylesheet declares no class, so that nothing is lost behind a mark. -/
theorem load_marked_harmless :
    SameOutcome (load (sampleLoaded "/**/html\x7b\x7d.a\x7b\x7d".toUTF8) sampleSheet).1
      (load (sampleLoaded (markBytes ++ "/**/html\x7b\x7d.a\x7b\x7d".toUTF8)) sampleSheet).1 := by
  have hfirst : firstBlock? (tokens "/**/html\x7b\x7d.a\x7b\x7d".toList) =
      some (sampleLead, sampleBlock, tokens ".a\x7b\x7d".toList) := by decide +kernel
  have hnone : classSelectors (rulesOf (scanList .start (sampleLead ++ sampleBlock.tokens))) = [] := by decide +kernel
  have hlater : laterSelectors sampleLead = [] := by decide +kernel
  refine ((load_marked (read_sampleLoaded _) (read_sampleLoaded _)).2 (.inl (by decide +kernel))).2 (.inr ?_)
  refine .block hfirst (.inl (by decide +kernel)) (fun selector hs => ?_) fun selector hs => ?_
  · rw [ListsClass, ← mem_classSelectors, hnone] at hs
    cases hs
  · rw [hlater] at hs
    cases hs

theorem SameOutcome.isSome_eq {a b : Except IndexError Index} (h : SameOutcome a b) (selector : String) :
    (a.toOption.bind (·.get? selector)).isSome = (b.toOption.bind (·.get? selector)).isSome := by
  cases h with
  | error e => rfl
  | ok hsame => exact Bool.eq_iff_iff.2 (hsame selector)

/-- A class that the first rule declares is lost behind a mark. -/
theorem load_marked_loses :
    ¬ SameOutcome (load (sampleLoaded "\n.a\x7b\x7d".toUTF8) sampleSheet).1
      (load (sampleLoaded (markBytes ++ "\n.a\x7b\x7d".toUTF8)) sampleSheet).1 := by
  intro h
  have hclass := h.isSome_eq ".a"
  revert hclass
  decide +kernel

end ClassAtlas.Index
