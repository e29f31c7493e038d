/-
Where a URI leads on this machine. The segments of its path stand for names: a percent code for its
byte, and any other character for its bytes in UTF-8 (`StandsFor`). The path that a URI leads to is
these names with a slash before each (`LeadsTo`); the scheme of the URI has no part in it
(`toPath?_eq_some_iff`).
-/
import ClassAtlas.Uri
import Mathlib.Data.List.Forall2

namespace ClassAtlas.Uri

open ClassAtlas.Text

/-! ## Percent codes -/

/-- A text stands for bytes. A percent sign without two digits after it stands for itself. -/
inductive StandsFor : List Char → List UInt8 → Prop
  | nil : StandsFor [] []
  | code {a b : Char} {m n : Nat} {r : List Char} {bytes : List UInt8} :
      digitValue? a = some m → digitValue? b = some n → StandsFor r bytes →
      StandsFor ('%' :: a :: b :: r) (UInt8.ofNat (16 * m + n) :: bytes)
  | plain {c : Char} {r : List Char} {bytes : List UInt8} :
      (c = '%' → ∀ a b t, r = a :: b :: t → digitValue? a = none ∨ digitValue? b = none) →
      StandsFor r bytes → StandsFor (c :: r) (String.utf8EncodeChar c ++ bytes)

theorem percentDecode_code {a b : Char} {m n : Nat} (ha : digitValue? a = some m) (hb : digitValue? b = some n)
    (r : List Char) : percentDecode ('%' :: a :: b :: r) = UInt8.ofNat (16 * m + n) :: percentDecode r := by
  rw [percentDecode, ha, hb]

/-- What does not start with a percent code stands for itself. -/
theorem percentDecode_plain {c : Char} {r : List Char}
    (h : c = '%' → ∀ a b t, r = a :: b :: t → digitValue? a = none ∨ digitValue? b = none) :
    percentDecode (c :: r) = String.utf8EncodeChar c ++ percentDecode r := by
  by_cases hc : c = '%'
  · subst hc
    rcases r with _ | ⟨a, _ | ⟨b, t⟩⟩
    · rfl
    · rfl
    · rw [percentDecode]
      split
      · next ha hb =>
        rcases h rfl a b t rfl with hn | hn
        · rw [hn] at ha; cases ha
        · rw [hn] at hb; cases hb
      · rfl
  · rw [percentDecode]
    simp [hc]

theorem standsFor_percentDecode (cs : List Char) : StandsFor cs (percentDecode cs) := by
  fun_induction percentDecode cs with
  | case1 => exact .nil
  | case2 a b r m n hb ha ih => exact .code ha hb ih
  | case3 a b r h ih =>
    -- two characters follow, but they are not both digits
    refine .plain (fun _ a' b' t ht => ?_) ih
    obtain ⟨rfl, rfl, -⟩ : a = a' ∧ b = b' ∧ r = t := by simpa using ht
    cases ha : digitValue? a with
    | none => exact .inl rfl
    | some m =>
      cases hb : digitValue? b with
      | none => exact .inr rfl
      | some n => exact (h m n ha hb).elim
  | case4 c r h ih =>
    -- it is no percent sign, or too few characters follow
    exact .plain (fun hc a b t ht => (h a b t hc ht).elim) ih

theorem standsFor_iff (cs : List Char) (bytes : List UInt8) : StandsFor cs bytes ↔ bytes = percentDecode cs := by
  constructor
  · intro h
    induction h with
    | nil => rfl
    | code ha hb _ ih => rw [percentDecode_code ha hb, ih]
    | plain hc _ ih => rw [percentDecode_plain hc, ih]
  · rintro rfl
    exact standsFor_percentDecode cs

/-! ## Paths -/

/-- A URI names no machine, or this one. -/
def OnThisMachine (u : Uri) : Prop :=
  ∀ a, u.authority = some a → a.host = none ∨ a.host = some (.name "localhost".toList)

/-- Names with a slash before each. -/
def rootedBytes (names : List Path.Name) : List UInt8 :=
  names.flatMap (Path.slash :: ·)

/-- A URI leads to a path: it has a rooted path of its own and names no other machine, and the path
consists of the names that its segments stand for. After the name of a drive there is one more slash. -/
def LeadsTo (u : Uri) (p : Path) : Prop :=
  ∃ segments names, u.route = .rooted segments ∧ segments ≠ [] ∧ u.OnThisMachine ∧
    List.Forall₂ StandsFor segments names ∧
    p.bytes = rootedBytes names ++ if endsInDrive (rootedBytes names) then [Path.slash] else []

/-- A URI of a file leads to a path. -/
def LeadsToFile (u : Uri) (p : Path) : Prop :=
  u.scheme = fileScheme ∧ u.LeadsTo p

theorem isLocal_iff (u : Uri) : isLocal (u.authority.bind (·.host)) = true ↔ u.OnThisMachine := by
  unfold isLocal OnThisMachine
  cases u.authority with
  | none => simp
  | some a => simp

theorem forall₂_standsFor_iff (segments : List (List Char)) (names : List Path.Name) :
    List.Forall₂ StandsFor segments names ↔ names = segments.map percentDecode := by
  induction segments generalizing names with
  | nil => simp
  | cons s ss ih =>
    rw [List.forall₂_cons_left_iff]
    simp only [standsFor_iff, ih, List.map_cons]
    constructor
    · rintro ⟨_, _, rfl, rfl, rfl⟩; rfl
    · rintro rfl; exact ⟨_, _, rfl, rfl, rfl⟩

/-- The path that is found for a URI is the one that it leads to. -/
theorem toPath?_eq_some_iff (u : Uri) (p : Path) : u.toPath? = some p ↔ u.LeadsTo p := by
  unfold toPath? LeadsTo
  simp only [forall₂_standsFor_iff, ← isLocal_iff]
  cases u.route with
  | rootless text => simp
  | rooted segments =>
    cases segments with
    | nil => simp
    | cons s ss =>
      have hbytes : rootedBytes ((s :: ss).map percentDecode) =
          (s :: ss).flatMap fun s => Path.slash :: percentDecode s := List.flatMap_map ..
      cases isLocal (u.authority.bind (·.host)) with
      | false => simp
      | true =>
        obtain ⟨bytes⟩ := p
        simp only [if_true, Option.some.injEq, Path.mk.injEq, Route.rooted.injEq, true_and]
        constructor
        · rintro rfl
          refine ⟨s :: ss, _, rfl, nofun, rfl, ?_⟩
          rw [hbytes]
          split <;> simp
        · rintro ⟨_, _, rfl, -, rfl, h⟩
          rw [h, hbytes]
          split <;> simp

theorem toPath?_eq_none_iff (u : Uri) : u.toPath? = none ↔ ∀ p, ¬ u.LeadsTo p := by
  simp only [← toPath?_eq_some_iff, Option.eq_none_iff_forall_ne_some, ne_eq]

end ClassAtlas.Uri
