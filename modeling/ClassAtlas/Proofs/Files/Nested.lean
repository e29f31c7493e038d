/-
Making a directory and those above it. With nothing but directories on its way it is made, or it is there already
(`makeDirectories_of_unblocked`): whatever is missing above it is made first, the outermost before the others.
-/
import ClassAtlas.Proofs.Files.Extends
import Mathlib.Data.List.Induction
import Mathlib.Data.List.TakeWhile

namespace ClassAtlas.Files

/-- Where the path goes through or ends there is a directory or nothing. -/
def Unblocked (fs : Files) (p : Path) : Prop :=
  ∀ loc ∈ fs.way p, ∀ e, fs.entry? loc = some e → e = .directory

/-- A dot is never made: where a path ends in one, its directory is there. -/
def DotThere (fs : Files) (p : Path) : Prop :=
  (withoutTrailing p.pieces).getLast? = some Path.dot → fs.isDirectory p = true

theorem Unblocked.extends {new : Location → Prop} {fs made : Files} {p : Path} (h : fs.Unblocked p)
    (hmade : Extends new fs made) : made.Unblocked p := by
  intro loc hloc e he
  rw [way_of_working hmade.working] at hloc
  rcases hmade.added loc e he with hold | ⟨hdirectory, -⟩
  · exact h loc hloc e hold
  · exact hdirectory

theorem exists_withoutTrailing (pieces : List Path.Name) : ∃ rest, pieces = withoutTrailing pieces ++ rest ∧
    (∀ n ∈ rest, n = []) ∧ ∀ n ∈ (withoutTrailing pieces).getLast?, n ≠ [] := by
  refine ⟨(pieces.reverse.takeWhile (· = [])).reverse, ?_, fun n hn => ?_, fun n hn => ?_⟩
  · rw [withoutTrailing, ← List.reverse_append, List.takeWhile_append_dropWhile, List.reverse_reverse]
  · exact of_decide_eq_true (List.mem_takeWhile_imp (p := (· = [])) (List.mem_reverse.1 hn))
  · rw [withoutTrailing, List.getLast?_reverse, Option.mem_def] at hn
    have hhead := List.head?_dropWhile_not (· = []) pieces.reverse
    rw [hn] at hhead
    exact of_decide_eq_false hhead

/-- Slashes at the end of a path lead nowhere else. -/
theorem mem_way_iff_withoutTrailing {fs : Files} {p : Path} {v : Location} :
    v ∈ fs.way p ↔ v ∈ trail (fs.origin p) (withoutTrailing p.pieces) := by
  obtain ⟨rest, hpieces, hrest, -⟩ := exists_withoutTrailing p.pieces
  rw [mem_way_iff, Path.components_eq, hpieces, Path.names_append, Path.names_empties hrest, List.append_nil, ← hpieces]
  exact mem_trail_names

theorem directory_of_walk {fs : Files} {loc v : Location} {pieces : List Path.Name} (h : fs.walk loc pieces = .ok v) :
    ∀ u ∈ trail loc pieces, u = v ∨ fs.entry? u = some .directory := by
  induction pieces generalizing loc with
  | nil =>
    cases h
    exact fun u hu => .inl (List.mem_singleton.1 hu)
  | cons n r ih =>
    rw [walk_cons] at h
    split at h
    · cases h
    · cases h
    · cases h
    · next hloc => exact List.forall_mem_cons.2 ⟨.inr hloc, ih h⟩

section

variable {fs : Files} {p : Path} (hbytes : p.bytes ≠ []) (hfree : fs.Unblocked p)
include hbytes hfree

/-- A directory that can be reached is made, or it is there. -/
theorem makeDirectory_of_walk {loc : Location} (hwalk : fs.walk (fs.origin p) (withoutTrailing p.pieces) = .ok loc) :
    (∃ made, fs.makeDirectory p = .ok made ∧ made.isDirectory p = true) ∨
      fs.makeDirectory p = .error .exists ∧ fs.isDirectory p = true := by
  have hway : ∀ u ∈ fs.way p, u = loc ∨ fs.entry? u = some .directory := fun u hu =>
    directory_of_walk hwalk u (mem_way_iff_withoutTrailing.1 hu)
  cases hloc : fs.entry? loc with
  | none =>
    have hmade : fs.makeDirectory p = .ok (fs.put loc .directory) :=
      makeDirectory_eq_ok_iff.2 ⟨hbytes, loc, hwalk, hloc, rfl⟩
    have hroot : loc ≠ [] := by
      rintro rfl
      cases hloc
    refine .inl ⟨_, hmade, isDirectory_iff_way.2 ⟨hbytes, fun u hu => ?_⟩⟩
    rw [entry?_put]
    split
    · rfl
    · next hne => exact (hway u hu).resolve_left fun heq => hne ⟨heq ▸ hroot, heq⟩
  | some e =>
    obtain rfl := hfree loc (mem_way_iff_withoutTrailing.2 (walk_mem hwalk)) e hloc
    refine .inr ⟨?_, isDirectory_iff_way.2 ⟨hbytes, fun u hu => (hway u hu).elim (fun heq => heq ▸ hloc) id⟩⟩
    rw [makeDirectory, if_neg hbytes, hwalk]
    dsimp only [bind, Except.bind]
    rw [hloc]

theorem makeNested_of_walk {loc : Location} (hwalk : fs.walk (fs.origin p) (withoutTrailing p.pieces) = .ok loc)
    (above : List Path) : ∃ made, fs.makeNested (p :: above) = (made, .ok ()) ∧ made.isDirectory p = true := by
  rcases makeDirectory_of_walk hbytes hfree hwalk with ⟨made, hmade, hthere⟩ | ⟨hexists, hthere⟩
  · exact ⟨made, by rw [makeNested, hmade], hthere⟩
  · exact ⟨fs, by rw [makeNested, hexists]; exact if_pos hthere, hthere⟩

/-- A directory is made in the one above it, if that can be made. -/
theorem makeNested_of_above {made : Files} {above : List Path} {front : List Path.Name} {last : Path.Name}
    (hlast : withoutTrailing p.pieces = front ++ [last]) (habove : fs.makeNested above = (made, .ok ()))
    (hfront : ∀ u ∈ trail (fs.origin p) (Path.names front), made.entry? u = some .directory) :
    ∃ made, fs.makeNested (p :: above) = (made, .ok ()) ∧ made.isDirectory p = true := by
  rcases walk_of_unblocked fun u hu => hfree u (mem_way_iff_withoutTrailing.2 hu) with hfound | hmissing
  · exact makeNested_of_walk hbytes hfree hfound above
  · have hfirst : fs.makeDirectory p = .error .notFound := by
      rw [makeDirectory, if_neg hbytes, hmissing]
      rfl
    have hextends := extends_of_makeNested habove
    have hwalk : made.walk (made.origin p) (withoutTrailing p.pieces) = .ok (goal (fs.origin p) (front ++ [last])) := by
      rw [hextends.origin, hlast, walk_concat_eq_ok_iff]
      exact ⟨fun u hu => hfront u (mem_trail_names.2 hu), rfl⟩
    rcases makeDirectory_of_walk hbytes (hfree.extends hextends) hwalk with ⟨more, hmore, hthere⟩ | ⟨hexists, hthere⟩
    · exact ⟨more, by simp only [makeNested, hfirst, habove, hmore], hthere⟩
    · exact ⟨made, by simp only [makeNested, hfirst, habove, hexists, hthere, if_true], hthere⟩

end

/-- The last piece of a path names its directory, and those before lead to the one above. -/
theorem withoutTrailing_cases {p : Path} (hend : (withoutTrailing p.pieces).getLast? ≠ some Path.dot) :
    withoutTrailing p.pieces = [] ∨ ∃ front last, withoutTrailing p.pieces = front ++ [last] ∧
      p.components = Path.names front ++ [last] := by
  obtain ⟨rest, hpieces, hrest, hlast⟩ := exists_withoutTrailing p.pieces
  rcases List.eq_nil_or_concat (withoutTrailing p.pieces) with hnil | ⟨front, last, hfront⟩
  · exact .inl hnil
  · rw [List.concat_eq_append] at hfront
    rw [hfront, List.getLast?_concat] at hend hlast
    refine .inr ⟨front, last, hfront, ?_⟩
    have hnamed : Path.isNamed last = true := Path.isNamed_iff.2 ⟨hlast last rfl, fun h => hend (h ▸ rfl)⟩
    rw [Path.components_eq, hpieces, hfront, Path.names_append, Path.names_empties hrest, List.append_nil,
      Path.names_append]
    exact congrArg _ (List.filter_cons_of_pos hnamed)

theorem not_dot_ofComponents {components : List Path.Name} (hne : components ≠ [])
    (h : ∀ n ∈ components, Path.IsComponent n) (absolute : Bool) :
    (withoutTrailing (Path.ofComponents absolute components).pieces).getLast? ≠ some Path.dot := by
  intro hdot
  have hmem := List.IsPrefix.subset ( withoutTrailing_prefix _) (List.mem_of_getLast? hdot)
  rw [Path.pieces_ofComponents hne h, List.mem_append] at hmem
  rcases hmem with hroot | hmem
  · cases absolute
    · exact List.not_mem_nil hroot
    · exact absurd (List.mem_singleton.1 hroot) (by decide)
  · exact (h _ hmem).ne_dot rfl

/-- With nothing but directories on the way, a directory and those above it can be made. -/
theorem makeNested_of_unblocked {fs : Files} {p : Path} (hbytes : p.bytes ≠ [])
    (hstart : fs.entry? (fs.origin p) = some .directory)
    (hend : (withoutTrailing p.pieces).getLast? ≠ some Path.dot) (hfree : fs.Unblocked p) :
    ∃ made, fs.makeNested (p :: p.above) = (made, .ok ()) ∧ made.isDirectory p = true := by
  induction hlength : p.components.length using Nat.strong_induction_on generalizing p with
  | _ length ih =>
    rcases withoutTrailing_cases hend with hroot | ⟨front, last, hlast, hcomponents⟩
    · have hwalk : fs.walk (fs.origin p) (withoutTrailing p.pieces) = .ok (fs.origin p) := by
        rw [hroot]
        rfl
      exact makeNested_of_walk hbytes hfree hwalk p.above
    · by_cases hne : Path.names front = []
      · have habove : fs.makeNested p.above = (fs, .ok ()) := by
          rw [Path.above_eq_nil (by rw [hcomponents, hne]; exact Nat.le_refl 1)]
          rfl
        refine makeNested_of_above hbytes hfree hlast habove ?_
        rw [hne]
        exact fun u hu => List.mem_singleton.1 hu ▸ hstart
      · have hnames : ∀ n ∈ Path.names front, Path.IsComponent n := fun n hn =>
          Path.isComponent_of_mem (hcomponents ▸ List.mem_append_left _ hn)
        have habove := Path.above_eq hcomponents hne
        have horigin := origin_of_isAbsolute (Path.isAbsolute_ofComponents hne hnames p.isAbsolute) fs
        have hhere := Path.components_ofComponents hne hnames p.isAbsolute
        have hshorter : (Path.names front).length < length := by
          rw [← hlength, hcomponents, List.length_append]
          exact Nat.lt_succ_self _
        obtain ⟨made, hmade, hthere⟩ := ih _ hshorter (Path.bytes_ofComponents hne hnames p.isAbsolute)
          (horigin ▸ hstart) (not_dot_ofComponents hne hnames _)
          (fun u hu => hfree u (way_above (habove ▸ List.mem_cons_self) hu)) (congrArg List.length hhere)
        refine makeNested_of_above hbytes hfree hlast (habove ▸ hmade) fun u hu => ?_
        refine (isDirectory_iff_way.1 hthere).2 u ?_
        rwa [way_of_working (extends_of_makeNested hmade).working, mem_way_iff, hhere, horigin]

/-- With nothing but directories on the way, a directory is made, or it is there, and so are those on the way. -/
theorem makeDirectories_of_unblocked {fs : Files} {p : Path} (hstart : fs.entry? (fs.origin p) = some .directory)
    (hend : fs.DotThere p) (hfree : fs.Unblocked p) :
    ∃ made, fs.makeDirectories p = (made, .ok ()) ∧ ∀ u ∈ fs.way p, made.entry? u = some .directory := by
  unfold makeDirectories
  split
  · next hroot =>
    refine ⟨fs, rfl, fun u hu => ?_⟩
    rw [Bool.or_eq_true, decide_eq_true_iff, decide_eq_true_iff] at hroot
    have hcomponents : p.components = [] := by
      rcases hroot with hroot | hroot <;> rw [Path.components_eq, Path.pieces, hroot] <;> rfl
    rw [mem_way_iff, hcomponents] at hu
    exact List.mem_singleton.1 hu ▸ hstart
  · next hnot =>
    have hbytes : p.bytes ≠ [] := fun h => hnot (by simp [h])
    have hmade : ∃ made, fs.makeNested (p :: p.above) = (made, .ok ()) ∧ made.isDirectory p = true := by
      by_cases hdot : (withoutTrailing p.pieces).getLast? = some Path.dot
      · have hway := (isDirectory_iff_way.1 (hend hdot)).2
        obtain ⟨front, hfront⟩ := List.getLast?_eq_some_iff.1 hdot
        have hwalk : fs.walk (fs.origin p) (withoutTrailing p.pieces) =
            .ok (goal (fs.origin p) (front ++ [Path.dot])) := by
          rw [hfront, walk_concat_eq_ok_iff]
          refine ⟨fun u hu => hway u (mem_way_iff_withoutTrailing.2 ?_), rfl⟩
          rw [hfront]
          exact mem_trail_append hu
        exact makeNested_of_walk hbytes hfree hwalk p.above
      · exact makeNested_of_unblocked hbytes hstart hdot hfree
    obtain ⟨made, hmade, hthere⟩ := hmade
    refine ⟨made, hmade, fun u hu => (isDirectory_iff_way.1 hthere).2 u ?_⟩
    rwa [way_of_working (extends_of_makeNested hmade).working]

/-- A directory that is not there is not made by a path that ends in a dot, though nothing is in the way. -/
example : ((Files.empty []).makeDirectories (.ofString "/x/.")).2 = .error .notFound := by decide

end ClassAtlas.Files
