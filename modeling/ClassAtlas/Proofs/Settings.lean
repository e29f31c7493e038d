/-
Which options of an editor are accepted, what they set, and what is told of those that are not (`readsOptions_iff`).
Options give values for the two settings by name or by place, and each value is read for itself. The error is that of
the first thing that is wrong: something in the languages, then the value for waiting, then an array with too many
items.
-/
import ClassAtlas.Settings.Options

namespace ClassAtlas

/-! ## Fields -/

namespace Json

/-- The value of the field with a name; of several such fields the last counts. -/
inductive HasField (name : String) (fields : List (String × Json)) : Option Json → Prop
  | absent : (∀ f ∈ fields, f.1 ≠ name) → HasField name fields none
  | last (before : List (String × Json)) {after : List (String × Json)} {x : Json} :
      fields = before ++ (name, x) :: after → (∀ f ∈ after, f.1 ≠ name) → HasField name fields (some x)

theorem lastField?_eq_none {name : String} {fields : List (String × Json)} (h : ∀ f ∈ fields, f.1 ≠ name) :
    lastField? name fields = none := by
  induction fields with
  | nil => rfl
  | cons f rest ih =>
    obtain ⟨hf, hrest⟩ := List.forall_mem_cons.1 h
    rw [lastField?, ih hrest]
    exact if_neg hf

theorem lastField?_append (name : String) (a b : List (String × Json)) :
    lastField? name (a ++ b) = (lastField? name b).or (lastField? name a) := by
  induction a with
  | nil => simp [lastField?]
  | cons f a ih =>
    rw [List.cons_append, lastField?, lastField?, ih]
    cases lastField? name b <;> rfl

theorem hasField_iff {name : String} {fields : List (String × Json)} {x : Option Json} :
    HasField name fields x ↔ lastField? name fields = x := by
  constructor
  · rintro (habsent | ⟨before, rfl, hafter⟩)
    · exact lastField?_eq_none habsent
    · rw [lastField?_append, lastField?, lastField?_eq_none hafter]
      dsimp only
      rw [if_pos rfl]
      rfl
  · rintro rfl
    induction fields with
    | nil => exact .absent nofun
    | cons f rest ih =>
      obtain ⟨key, value⟩ := f
      rw [lastField?]
      generalize lastField? name rest = found at ih
      cases ih with
      | last before hrest hafter => exact .last ((key, value) :: before) (congrArg _ hrest) hafter
      | absent hrest =>
        dsimp only
        split
        · next hkey => exact .last [] (by rw [hkey]; rfl) hrest
        · next hkey => exact .absent (List.forall_mem_cons.2 ⟨hkey, hrest⟩)

end Json

namespace Settings

open Json (Mismatch HasField)

/-! ## Languages -/

/-- What reading the value for the languages comes to. If it is absent or null, they are not set; the first item that is
no text is the error. -/
inductive ReadsLanguages : Option Json → Except Mismatch (Option (List String)) → Prop
  | absent : ReadsLanguages none (.ok none)
  | null : ReadsLanguages (some .null) (.ok none)
  | list (names : List String) : ReadsLanguages (some (.array (names.map .text))) (.ok (some names))
  | item {names : List String} {x : Json} {rest : List Json} : (∀ s, x ≠ .text s) →
      ReadsLanguages (some (.array (names.map .text ++ x :: rest))) (.error (.unexpected x "a string"))
  | value {x : Json} : x ≠ .null → (∀ items, x ≠ .array items) →
      ReadsLanguages (some x) (.error (.unexpected x "a sequence"))

theorem languageOf_error {x : Json} (h : ∀ s, x ≠ .text s) : languageOf x = .error (.unexpected x "a string") := by
  cases x with
  | text s => exact absurd rfl (h s)
  | _ => rfl

theorem mapM_languageOf (names : List String) : (names.map Json.text).mapM languageOf = .ok names := by
  induction names with
  | nil => rfl
  | cons name names ih =>
    rw [List.map_cons, List.mapM_cons, ih]
    rfl

theorem mapM_languageOf_error (names : List String) {x : Json} (h : ∀ s, x ≠ .text s) (rest : List Json) :
    (names.map Json.text ++ x :: rest).mapM languageOf = .error (.unexpected x "a string") := by
  induction names with
  | nil =>
    rw [List.map_nil, List.nil_append, List.mapM_cons, languageOf_error h]
    rfl
  | cons name names ih =>
    rw [List.map_cons, List.cons_append, List.mapM_cons, ih]
    rfl

/-- All items are texts, or there is a first one that is none. -/
theorem texts_or_item (items : List Json) : (∃ names : List String, items = names.map .text) ∨
    ∃ (names : List String) (x : Json) (rest : List Json), items = names.map .text ++ x :: rest ∧ ∀ s, x ≠ .text s := by
  induction items with
  | nil => exact .inl ⟨[], rfl⟩
  | cons x rest ih =>
    by_cases hx : ∃ s, x = .text s
    · obtain ⟨s, rfl⟩ := hx
      rcases ih with ⟨names, rfl⟩ | ⟨names, y, more, rfl, hy⟩
      · exact .inl ⟨s :: names, rfl⟩
      · exact .inr ⟨s :: names, y, more, rfl, hy⟩
    · exact .inr ⟨[], x, rest, rfl, not_exists.1 hx⟩

theorem readsLanguages_iff {x : Option Json} {r : Except Mismatch (Option (List String))} :
    ReadsLanguages x r ↔ languagesOf x = r := by
  constructor
  · rintro (_ | _ | names | hitem | ⟨hnull, harray⟩)
    · rfl
    · rfl
    · rw [languagesOf, mapM_languageOf]
      rfl
    · rw [languagesOf, mapM_languageOf_error _ hitem]
      rfl
    · rename_i v
      cases v with
      | null => exact absurd rfl hnull
      | array items => exact absurd rfl (harray items)
      | _ => rfl
  · rintro rfl
    cases x with
    | none => exact .absent
    | some v =>
      cases v with
      | null => exact .null
      | array items =>
        rw [languagesOf]
        rcases texts_or_item items with ⟨names, rfl⟩ | ⟨names, y, rest, rfl, hy⟩
        · rw [mapM_languageOf]
          exact .list names
        · rw [mapM_languageOf_error _ hy]
          exact .item hy
      | _ => exact .value (by simp) (by simp)

/-! ## Waiting -/

/-- What reading the value for waiting comes to. -/
inductive ReadsWait : Option Json → Except Mismatch (Option Bool) → Prop
  | absent : ReadsWait none (.ok none)
  | null : ReadsWait (some .null) (.ok none)
  | bool (b : Bool) : ReadsWait (some (.bool b)) (.ok (some b))
  | value {x : Json} : x ≠ .null → (∀ b, x ≠ .bool b) → ReadsWait (some x) (.error (.unexpected x "a boolean"))

theorem readsWait_iff {x : Option Json} {r : Except Mismatch (Option Bool)} : ReadsWait x r ↔ waitOf x = r := by
  constructor
  · rintro (_ | _ | b | ⟨hnull, hbool⟩)
    · rfl
    · rfl
    · rfl
    · rename_i v
      cases v with
      | null => exact absurd rfl hnull
      | bool b => exact absurd rfl (hbool b)
      | _ => rfl
  · rintro rfl
    cases x with
    | none => exact .absent
    | some v =>
      cases v with
      | null => exact .null
      | bool b => exact .bool b
      | _ => exact .value (by simp) (by simp)

/-! ## Options -/

/-- What reading the values for both settings comes to: what is wrong with the languages comes first. -/
inductive ReadsBoth (languages wait : Option Json) : Except Mismatch Overrides → Prop
  | set {names : Option (List String)} {b : Option Bool} : ReadsLanguages languages (.ok names) →
      ReadsWait wait (.ok b) → ReadsBoth languages wait (.ok ⟨names, b⟩)
  | languages {e : Mismatch} : ReadsLanguages languages (.error e) → ReadsBoth languages wait (.error e)
  | wait {names : Option (List String)} {e : Mismatch} : ReadsLanguages languages (.ok names) →
      ReadsWait wait (.error e) → ReadsBoth languages wait (.error e)

theorem readsBoth_iff {languages wait : Option Json} {r : Except Mismatch Overrides} :
    ReadsBoth languages wait r ↔ overridesOf languages wait = r := by
  unfold overridesOf
  constructor
  · rintro (⟨hl, hw⟩ | hl | ⟨hl, hw⟩)
    · rw [readsLanguages_iff.1 hl, readsWait_iff.1 hw]
      rfl
    · rw [readsLanguages_iff.1 hl]
      rfl
    · rw [readsLanguages_iff.1 hl, readsWait_iff.1 hw]
      rfl
  · rintro rfl
    cases hl : languagesOf languages with
    | error e => exact .languages (readsLanguages_iff.2 hl)
    | ok names =>
      cases hw : waitOf wait with
      | error e => exact .wait (readsLanguages_iff.2 hl) (readsWait_iff.2 hw)
      | ok b => exact .set (readsLanguages_iff.2 hl) (readsWait_iff.2 hw)

/-- What reading options comes to. Null sets nothing. An object gives the values for the settings by the names of its
fields, and no other field is looked at; an array gives them by their places, and further items are wrong if all else is
right. Anything else is no options. -/
inductive ReadsOptions : Json → Except Mismatch Overrides → Prop
  | null : ReadsOptions .null (.ok ⟨none, none⟩)
  | byName {fields : List (String × Json)} {languages wait : Option Json} {r : Except Mismatch Overrides} :
      HasField "languages" fields languages → HasField "waitForIndex" fields wait → ReadsBoth languages wait r →
      ReadsOptions (.object fields) r
  | byPlace {items : List Json} {r : Except Mismatch Overrides} : ReadsBoth items[0]? items[1]? r →
      (items.length ≤ 2 ∨ ∃ e, r = .error e) → ReadsOptions (.array items) r
  | surplus {items : List Json} {o : Overrides} : ReadsBoth items[0]? items[1]? (.ok o) → 2 < items.length →
      ReadsOptions (.array items) (.error (.length items.length "fewer elements in array"))
  | kind {v : Json} : v ≠ .null → (∀ fields, v ≠ .object fields) → (∀ items, v ≠ .array items) →
      ReadsOptions v (.error (.unexpected v "struct ConfigOverrides"))

theorem ofOptions_array (items : List Json) : ofOptions (.array items) =
    match overridesOf items[0]? items[1]? with
    | .error e => .error e
    | .ok o => if 2 < items.length then .error (.length items.length "fewer elements in array") else .ok o := by
  rw [ofOptions]
  cases overridesOf items[0]? items[1]? <;> rfl

theorem readsOptions_of_eq {v : Json} {r : Except Mismatch Overrides} (h : ofOptions v = r) : ReadsOptions v r := by
  subst h
  cases v with
  | null => exact .null
  | object fields => exact .byName (Json.hasField_iff.2 rfl) (Json.hasField_iff.2 rfl) (readsBoth_iff.2 rfl)
  | array items =>
    rw [ofOptions_array]
    cases hboth : overridesOf items[0]? items[1]? with
    | error e => exact .byPlace (readsBoth_iff.2 hboth) (.inr ⟨e, rfl⟩)
    | ok o =>
      dsimp only
      split
      · next hmany => exact .surplus (readsBoth_iff.2 hboth) hmany
      · next hfew => exact .byPlace (readsBoth_iff.2 hboth) (.inl (Nat.le_of_not_lt hfew))
  | _ => exact .kind (by simp) (by simp) (by simp)

theorem eq_of_readsOptions {v : Json} {r : Except Mismatch Overrides} (h : ReadsOptions v r) : ofOptions v = r := by
  cases h with
  | null => rfl
  | byName hl hw hboth => rw [ofOptions, Json.hasField_iff.1 hl, Json.hasField_iff.1 hw, readsBoth_iff.1 hboth]
  | byPlace hboth hlength =>
    rw [ofOptions_array, readsBoth_iff.1 hboth]
    rcases hlength with hfew | ⟨e, rfl⟩
    · cases r with
      | error e => rfl
      | ok o => exact if_neg (Nat.not_lt.2 hfew)
    · rfl
  | surplus hboth hmany =>
    rw [ofOptions_array, readsBoth_iff.1 hboth]
    exact if_pos hmany
  | kind hnull hobject harray =>
    cases v with
    | null => exact absurd rfl hnull
    | object fields => exact absurd rfl (hobject fields)
    | array items => exact absurd rfl (harray items)
    | _ => rfl

/-- Options are read so, whatever value they are; two values come to the same by name and by place. -/
theorem readsOptions_iff (v languages wait : Json) :
    (∀ r, ReadsOptions v r ↔ ofOptions v = r) ∧
      ofOptions (.array [languages, wait]) =
        ofOptions (.object [("languages", languages), ("waitForIndex", wait)]) := by
  refine ⟨fun r => ⟨eq_of_readsOptions, readsOptions_of_eq⟩, ?_⟩
  have hname : ReadsOptions (.object [("languages", languages), ("waitForIndex", wait)])
      (overridesOf (some languages) (some wait)) :=
    .byName (.last [] rfl (by simp)) (.last [("languages", languages)] rfl nofun)
      (readsBoth_iff.2 rfl)
  have hplace : ReadsOptions (.array [languages, wait]) (overridesOf (some languages) (some wait)) :=
    .byPlace (readsBoth_iff.2 rfl) (.inl (Nat.le_refl 2))
  rw [eq_of_readsOptions hname, eq_of_readsOptions hplace]

end Settings

end ClassAtlas
