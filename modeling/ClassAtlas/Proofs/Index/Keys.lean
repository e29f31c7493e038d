/-
The keys of an index. It holds the selectors with a dot of all rules, each with the span of the last rule
that lists it, where rules count in the order in which they stand in the stylesheet (`keySet_ofText`). A
class that is made of word characters is found only at a rule that lists the class alone, with nothing but
blanks around it (`NamesAlone`). These are white space, unless they belong to names (`keySet_blankType`).
-/
import ClassAtlas.Proofs.Index.Ranges
import ClassAtlas.Proofs.Stylesheet.SameKey
import ClassAtlas.Word
import Mathlib.Data.List.Dedup

namespace ClassAtlas

namespace Stylesheet

open Text (isBlank AllBlank NoBlank)

/-- A part is written as a class by itself, with nothing but blanks around it. If no token of the part holds
a blank, the class comes first, and white space is all that follows. -/
structure NamesAlone (part : List Token) (name : List Char) : Prop where
  text : ∃ x y, AllBlank x ∧ AllBlank y ∧
    textOf (part.dropWhile Token.isSpacing) = x ++ ('.' :: name ++ y)
  plain : Plain part → ∃ y, (∀ c ∈ y, isGap c = true) ∧
    textOf (part.dropWhile Token.isSpacing) = '.' :: name ++ y

theorem mem_textOf {ts : List Token} {c : Char} : c ∈ textOf ts ↔ ∃ t ∈ ts, c ∈ t.text :=
  List.mem_flatMap

theorem not_slash_of_isWordChar {name : List Char} (h : ∀ c ∈ name, Word.isWordChar c = true) : '/' ∉ name := by
  intro hc
  have hslash := h _ hc
  revert hslash
  decide

theorem noBlank_of_isWordChar {name : List Char} (h : ∀ c ∈ name, Word.isWordChar c = true) :
    NoBlank ('.' :: name) := by
  refine List.forall_mem_cons.2 ⟨by decide, fun c hc => ?_⟩
  have hword := h c hc
  rw [Word.isWordChar, Bool.and_eq_true, Bool.not_eq_true'] at hword
  exact hword.1

/-- Only a class alone has the key of a class that is made of word characters. -/
theorem namesAlone_of_selectorOf {css : String} {part : List Token} (hp : part ∈ partsOf css) {name : List Char}
    (hname : ∀ c ∈ name, Word.isWordChar c = true) (h : selectorOf part = .ofList ('.' :: name)) :
    NamesAlone part name := by
  have hword := noBlank_of_isWordChar hname
  obtain ⟨x, y, hx, hy, htext⟩ :=
    (Text.squeeze_eq_word_iff hword (List.cons_ne_nil _ _)).1 (String.ofList_inj.1 h)
  refine ⟨⟨x, y, hx, hy, htext⟩, fun hplain => ⟨y, fun c hc => ?_, ?_⟩⟩
  · obtain ⟨v, hv, hread, hrest, -⟩ := exists_of_mem_partsOf hp hplain
    obtain ⟨t, ht, hct⟩ := mem_textOf.1 (htext ▸ List.mem_append_right x (List.mem_append_right _ hc))
    have hspelled := hread.spelled (ne_nil_of_startsBehindPart hv) t ht
    -- the blank is in white space: there is no slash for a comment, and other tokens hold no blanks
    by_cases hspacing : t.isSpacing = true
    · rcases isSpacing_iff.1 hspacing with hgap | hcomment
      · exact hspelled.gap hgap c hct
      · have hslash := mem_textOf.2 ⟨t, ht, hspelled.comment hcomment⟩
        rw [htext, List.mem_append, List.mem_append, List.mem_cons] at hslash
        rcases hslash with hslash | (hslash | hslash) | hslash
        · exact absurd (hx _ hslash) (by decide)
        · cases hslash
        · exact absurd hslash (not_slash_of_isWordChar hname)
        · exact absurd (hy _ hslash) (by decide)
    · have hno := hrest t ht (Bool.eq_false_iff.2 hspacing) c hct
      rw [hy c hc] at hno
      cases hno
  · obtain ⟨-, -, -, -, hstart⟩ := exists_of_mem_partsOf hp hplain
    rw [htext, List.dropWhile_append_of_pos hx, List.cons_append,
      List.dropWhile_cons_of_neg (by decide)] at hstart
    rw [htext]
    exact hstart.symm

end Stylesheet

namespace Index

open Stylesheet (rulesOf scan notedNodes StyleNode NamesAlone)

/-- The selectors of some rules that start with a dot. -/
def classSelectors (rules : List Stylesheet.StyleRule) : List String :=
  (rules.flatMap (·.selectors)).filter isClassSelector

theorem mem_classSelectors {rules : List Stylesheet.StyleRule} {selector : String} :
    selector ∈ classSelectors rules ↔
      isClassSelector selector = true ∧ ∃ rule ∈ rules, selector ∈ rule.selectors := by
  rw [classSelectors, List.mem_filter, List.mem_flatMap, and_comm]

theorem mem_spansOf {rules : List Stylesheet.StyleRule} {selector : String} :
    selector ∈ spansOf (entriesOf rules) ↔ selector ∈ classSelectors rules := by
  rw [Std.TreeMap.mem_iff_isSome_getElem?, mem_classSelectors]
  cases hc : isClassSelector selector with
  | false => simp [spansOf_eq_none rules hc]
  | true =>
    simp only [Option.isSome_iff_exists, spansOf_eq_some_iff rules hc, true_and,
      ← exists_lastListing_iff]
    exact ⟨fun ⟨_, rule, hrule, _⟩ => ⟨rule, hrule⟩, fun ⟨rule, hrule⟩ => ⟨rule.span, rule, hrule, rfl⟩⟩

/-- There are as many spans as there are different selectors with a dot. -/
theorem size_spansOf (rules : List Stylesheet.StyleRule) :
    (spansOf (entriesOf rules)).size = (classSelectors rules).dedup.length := by
  rw [← Std.TreeMap.length_keys]
  refine List.Perm.length_eq ((List.perm_ext_iff_of_nodup Std.TreeMap.nodup_keys (List.nodup_dedup _)).2 fun s => ?_)
  rw [Std.TreeMap.mem_keys, mem_spansOf, List.mem_dedup]

/-- What the index of a stylesheet holds. -/
structure KeySet (sheet : Sheet) (css : String) (i : Index) : Prop where
  /-- The rules are those of the nodes that a walk through the tree comes to. -/
  rules : rulesOf (scan css) = (notedNodes css).map StyleNode.rule
  /-- These stand one behind the other, also the ones in at-rules that hold rules. -/
  order : (notedNodes css).Pairwise StyleNode.Precedes
  present : ∀ selector, (i.get? selector).isSome ↔
    isClassSelector selector = true ∧ ∃ rule ∈ rulesOf (scan css), selector ∈ rule.selectors
  last : ∀ selector d, i.get? selector = some d ↔ isClassSelector selector = true ∧
    Uri.ofPath? sheet.path = some d.uri ∧
    ∃ rule, LastListing (rulesOf (scan css)) selector rule ∧ rule.span = d.span
  size : i.size = (classSelectors (rulesOf (scan css))).dedup.length
  find : ∀ name, i.find? name = i.get? ("." ++ name)
  /-- What answers for a class of word characters is a rule that lists the class alone. -/
  alone : ∀ name d, (∀ c ∈ name.toList, Word.isWordChar c = true) → i.find? name = some d →
    ∃ s ∈ notedNodes css, LastListing (rulesOf (scan css)) ("." ++ name) s.rule ∧ s.rule.span = d.span ∧
      ∃ part ∈ s.parts, NamesAlone part name.toList

/-- The index of a stylesheet holds the selectors with a dot of its rules, at the last rule for each. -/
theorem keySet_ofText {sheet : Sheet} {css : String} {i : Index} (h : (ofText sheet css).1 = .ok i) :
    KeySet sheet css i := by
  obtain ⟨huri, -, hspans⟩ := ofText_eq_ok h
  have hrules := Stylesheet.rulesOf_scan_eq_map css
  have hlast : ∀ selector d, i.get? selector = some d ↔ isClassSelector selector = true ∧
      Uri.ofPath? sheet.path = some d.uri ∧
      ∃ rule, LastListing (rulesOf (scan css)) selector rule ∧ rule.span = d.span := by
    rintro selector ⟨uri, span⟩
    rw [get?, Option.map_eq_some_iff, hspans, huri]
    cases hc : isClassSelector selector with
    | false => simp [spansOf_eq_none _ hc]
    | true =>
      simp only [spansOf_eq_some_iff _ hc, Declaration.mk.injEq, Option.some.injEq, true_and]
      exact ⟨fun ⟨_, hrule, huri, hspan⟩ => ⟨huri, hspan ▸ hrule⟩, fun ⟨huri, hrule⟩ => ⟨span, hrule, huri, rfl⟩⟩
  refine ⟨hrules, ?_, fun selector => ?_, hlast, ?_, fun _ => rfl, fun name d hname hd => ?_⟩
  · obtain ⟨ended, hforest⟩ := Stylesheet.forest_componentsOf (Stylesheet.tokens css.toList)
    exact (Stylesheet.pairwise_precedes hforest []).filter _
  · rw [get?, Option.isSome_map, hspans, ← Std.TreeMap.mem_iff_isSome_getElem?, mem_spansOf, mem_classSelectors]
  · rw [size, hspans, size_spansOf]
  · obtain ⟨-, -, rule, hlisting, hspan⟩ := (hlast _ d).1 hd
    have hmem : rule ∈ (notedNodes css).map StyleNode.rule ∧ "." ++ name ∈ rule.selectors := by
      obtain ⟨earlier, later, hall, hselector, -⟩ := hlisting
      exact ⟨by rw [← hrules, hall]; simp, hselector⟩
    obtain ⟨⟨s, hs, rfl⟩, hselector⟩ := hmem.imp_left List.mem_map.1
    have hkeys : s.rule.selectors = s.parts.map Stylesheet.selectorOf :=
      (Stylesheet.formed_of_mem_notedNodes hs).selectors_eq_map
    rw [hkeys] at hselector
    obtain ⟨part, hpart, hkey⟩ := List.mem_map.1 hselector
    refine ⟨s, hs, hlisting, hspan, part, hpart,
      Stylesheet.namesAlone_of_selectorOf (Stylesheet.mem_partsOf hs hpart) hname ?_⟩
    rw [hkey, ← String.toList_inj, String.toList_append]
    simp

/-- Of two rules for a class the one in the at-rule counts; a rule for a state of the class and one for
what is inside have keys of their own. -/
theorem keySet_sample : ∃ i,
    (ofText sampleSheet ".a,.b,.a\x7b\x7d@media x\x7b.a\x7b\x7d\x7d.a:hover,.b .a,p\x7b\x7d").1 = .ok i ∧
    KeySet sampleSheet ".a,.b,.a\x7b\x7d@media x\x7b.a\x7b\x7d\x7d.a:hover,.b .a,p\x7b\x7d" i ∧
    i.size = 4 ∧ (i.find? "a").map (·.span) = some ⟨⟨0, 19⟩, ⟨0, 23⟩⟩ := by
  have hvalues : (ofText sampleSheet ".a,.b,.a\x7b\x7d@media x\x7b.a\x7b\x7d\x7d.a:hover,.b .a,p\x7b\x7d").1.toOption.map
      (fun i => (i.size, (i.find? "a").map (·.span))) = some (4, some ⟨⟨0, 19⟩, ⟨0, 23⟩⟩) := by decide +kernel
  cases h : (ofText sampleSheet ".a,.b,.a\x7b\x7d@media x\x7b.a\x7b\x7d\x7d.a:hover,.b .a,p\x7b\x7d").1 with
  | error e => rw [h] at hvalues; cases hvalues
  | ok i =>
    rw [h] at hvalues
    obtain ⟨hsize, hspan⟩ := Prod.mk.inj (Option.some.inj hvalues)
    exact ⟨i, rfl, keySet_ofText h, hsize, hspan⟩

/-- A type selector whose name is a no-break space does not show in a key: a descendant selector answers
for the class in it, and so does a compound selector. -/
theorem keySet_blankType :
    (notedNodes ".a \u00a0\x7b\x7d").map (fun s => s.parts.map Stylesheet.essence) =
      [[[⟨.symbol, ['.']⟩, ⟨.ident, ['a']⟩, ⟨.gap, [' ']⟩, ⟨.ident, ['\u00a0']⟩]]] ∧
    ((ofText sampleSheet ".a \u00a0\x7b\x7d").1.toOption.bind (·.find? "a")).isSome ∧
    (notedNodes "\u00a0.a\x7b\x7d").map (fun s => s.parts.map Stylesheet.essence) =
      [[[⟨.ident, ['\u00a0']⟩, ⟨.symbol, ['.']⟩, ⟨.ident, ['a']⟩]]] ∧
    ((ofText sampleSheet "\u00a0.a\x7b\x7d").1.toOption.bind (·.find? "a")).isSome := by
  decide +kernel

end Index

end ClassAtlas
