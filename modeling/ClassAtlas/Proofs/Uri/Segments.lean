/-
The URI of a file in text. Each component of the path is written in a segment of its own, with codes for the bytes
that would be taken for something else. The segment stands for the component again (`standsFor_percentEncode`), and
nothing in it ends the segment or the path, so the text tells the components (`spells_ofPath?`) and tells no others
(`Spells.names_unique`).
-/
import ClassAtlas.Proofs.Path
import ClassAtlas.Proofs.Uri.Local
import Mathlib.Tactic.IntervalCases

namespace ClassAtlas.Uri

open ClassAtlas.Text

/-! ## Codes -/

theorem digitValue?_hexDigit {n : Nat} (h : n < 16) : digitValue? (hexDigit n) = some n := by
  interval_cases n <;> decide

/-- A character that ends neither a segment nor the path. -/
def IsInner (c : Char) : Prop :=
  c ≠ '/' ∧ c ≠ '?' ∧ c ≠ '#'

theorem isInner_hexDigit {n : Nat} (h : n < 16) : IsInner (hexDigit n) := by
  unfold IsInner
  interval_cases n <;> decide

theorem isInner_percentCode (b : UInt8) : ∀ c ∈ percentCode b, IsInner c := by
  have hlow : b.toNat % 16 < 16 := Nat.mod_lt _ (by decide)
  have hhigh : b.toNat / 16 < 16 := Nat.div_lt_of_lt_mul b.toNat_lt
  rw [percentCode, List.forall_mem_cons, List.forall_mem_cons, List.forall_mem_singleton]
  exact ⟨by unfold IsInner; decide, isInner_hexDigit hhigh, isInner_hexDigit hlow⟩

/-- A byte that a name need not code is that of an ASCII character, which starts no code and ends nothing. -/
theorem of_not_codedInName {b : UInt8} (h : codedInName b = false) :
    b < 0x80 ∧ Char.ofNat b.toNat ≠ '%' ∧ IsInner (Char.ofNat b.toNat) := by
  simp only [codedInName, codedInPath, codedInFragment, codedAlways, Bool.or_eq_false_iff, decide_eq_false_iff_not,
    isOneOf, List.contains_eq_mem] at h
  obtain ⟨⟨⟨⟨-, hlow⟩, -⟩, hpath⟩, hname⟩ := h
  have hmark : Char.ofNat b.toNat ≠ '#' ∧ Char.ofNat b.toNat ≠ '?' := by
    constructor <;> exact fun heq => hpath (heq ▸ by decide)
  have hsign : Char.ofNat b.toNat ≠ '/' ∧ Char.ofNat b.toNat ≠ '%' := by
    constructor <;> exact fun heq => hname (heq ▸ by decide)
  refine ⟨?_, hsign.2, hsign.1, hmark.2, hmark.1⟩
  rw [UInt8.le_iff_toNat_le] at hlow
  rw [UInt8.lt_iff_toNat_lt]
  exact Nat.lt_succ_of_lt (Nat.not_le.1 hlow)

theorem utf8EncodeChar_ofNat {b : UInt8} (h : b < 0x80) : String.utf8EncodeChar (Char.ofNat b.toNat) = [b] := by
  have hb : b.toNat < 0x80 := UInt8.lt_iff_toNat_lt.1 h
  have hvalue : (Char.ofNat b.toNat).val.toNat = b.toNat := by
    rw [Char.ofNat, dif_pos (.inl (Nat.lt_trans hb (by decide)))]
    rfl
  unfold String.utf8EncodeChar
  dsimp only
  rw [hvalue, if_pos (Nat.le_of_lt_succ hb), UInt8.ofNat_toNat]

theorem isInner_percentEncode (name : Path.Name) : ∀ c ∈ percentEncode codedInName name, IsInner c := by
  intro c hc
  obtain ⟨b, -, hcode⟩ := List.mem_flatMap.1 hc
  cases hcoded : codedInName b with
  | true =>
    rw [hcoded, if_pos rfl] at hcode
    exact isInner_percentCode b c hcode
  | false =>
    rw [hcoded, if_neg Bool.false_ne_true, List.mem_singleton] at hcode
    rw [hcode]
    exact (of_not_codedInName hcoded).2.2

/-- What is written for a name stands for it. -/
theorem standsFor_percentEncode (name : Path.Name) : StandsFor (percentEncode codedInName name) name := by
  unfold percentEncode
  induction name with
  | nil => exact .nil
  | cons b name ih =>
    rw [List.flatMap_cons]
    cases hcoded : codedInName b with
    | true =>
      have hlow : b.toNat % 16 < 16 := Nat.mod_lt _ (by decide)
      have hhigh : b.toNat / 16 < 16 := Nat.div_lt_of_lt_mul b.toNat_lt
      have hcode := StandsFor.code (digitValue?_hexDigit hhigh) (digitValue?_hexDigit hlow) ih
      rwa [Nat.div_add_mod, UInt8.ofNat_toNat] at hcode
    | false =>
      obtain ⟨hascii, hpercent, -⟩ := of_not_codedInName hcoded
      have hplain := StandsFor.plain (fun h => absurd h hpercent) ih
      rwa [utf8EncodeChar_ofNat hascii] at hplain

/-! ## Segments -/

/-- A text is the URI of a file in which each of some names has a segment that stands for it. Nothing in a segment
ends it early, and there is neither a query nor a fragment. -/
def Spells (text : String) (names : List Path.Name) : Prop :=
  ∃ segments : List (List Char), text.toList = "file://".toList ++ segments.flatMap ('/' :: ·) ∧
    (∀ s ∈ segments, ∀ c ∈ s, IsInner c) ∧ List.Forall₂ StandsFor segments names

theorem append_flatMap_slash (s : List Char) (segments : List (List Char)) :
    s ++ segments.flatMap ('/' :: ·) = ['/'].intercalate (s :: segments) := by
  induction segments generalizing s with
  | nil => simp
  | cons t segments ih =>
    rw [List.flatMap_cons, List.cons_append, ih, List.intercalate_cons_cons, List.append_assoc, List.singleton_append]

/-- The segments of a path are the pieces of its text between slashes. -/
theorem splitOn_flatMap_slash {segments : List (List Char)} (h : ∀ s ∈ segments, ∀ c ∈ s, IsInner c) :
    (segments.flatMap ('/' :: ·)).splitOn '/' = [] :: segments := by
  rw [← List.nil_append (segments.flatMap _), append_flatMap_slash]
  refine List.splitOn_intercalate '/' (fun s hs hslash => ?_) (List.cons_ne_nil _ _)
  rcases List.mem_cons.1 hs with rfl | hs
  · exact List.not_mem_nil hslash
  · exact (h s hs _ hslash).1 rfl

/-- One text spells one list of names. -/
theorem Spells.names_unique {text : String} {names names' : List Path.Name} (h : Spells text names)
    (h' : Spells text names') : names = names' := by
  obtain ⟨segments, htext, hinner, hnames⟩ := h
  obtain ⟨segments', htext', hinner', hnames'⟩ := h'
  have hsame : segments.flatMap ('/' :: ·) = segments'.flatMap ('/' :: ·) :=
    List.append_cancel_left (htext.symm.trans htext')
  have hsegments := congrArg (List.splitOn '/') hsame
  rw [splitOn_flatMap_slash hinner, splitOn_flatMap_slash hinner', List.cons.injEq, and_iff_right rfl] at hsegments
  rw [forall₂_standsFor_iff] at hnames hnames'
  rw [hnames, hnames', hsegments]

/-! ## Files -/

theorem ofPath?_eq_some {p : Path} {u : Uri} (h : ofPath? p = some u) (hne : p.components ≠ []) :
    u = ⟨fileScheme, some ⟨[], none, none⟩, .rooted (p.components.map (percentEncode codedInName)), none, none⟩ := by
  unfold ofPath? at h
  split at h
  · dsimp only at h
    rw [if_neg (by rwa [List.map_eq_nil_iff])] at h
    exact (Option.some.inj h).symm
  · cases h

/-- The URI of a path spells its components, if it has any. -/
theorem spells_ofPath? {p : Path} {u : Uri} (h : ofPath? p = some u) (hne : p.components ≠ []) :
    Spells u.text p.components := by
  refine ⟨p.components.map (percentEncode codedInName), ?_, ?_, ?_⟩
  · rw [ofPath?_eq_some h hne]
    simp [text, chars, Route.text, Authority.text, fileScheme]
  · intro s hs
    obtain ⟨name, -, rfl⟩ := List.mem_map.1 hs
    exact isInner_percentEncode name
  · rw [List.forall₂_map_left_iff, List.forall₂_same]
    exact fun name _ => standsFor_percentEncode name

end ClassAtlas.Uri
