/-
Component values. A list of tokens is read into leaves and groups, a group being a bracket or a
function with all it holds; a closing bracket that does not match the innermost open one is a leaf,
and the end of the list closes whatever is open. A reading carries what is known of it (`Reading`).

Cutting tokens while counting brackets, as items are read, is nothing but cutting the components
at the first one whose head stops (`cut_tokensOf`).
-/
import ClassAtlas.Stylesheet.Item
import Mathlib.Data.List.TakeDrop

namespace ClassAtlas.Stylesheet

/-- The bracket that a token opens. -/
def Token.opens? (t : Token) : Option Bracket :=
  match t.kind with
  | .opening b => some b
  | .function => some .round
  | _ => none

/-- Whether a token closes a bracket of a kind. -/
def Token.closes (b : Bracket) (t : Token) : Bool :=
  t.kind == .closing b

/-- A component: a token by itself, or a group with the token that opens it, what it holds, and the
token that closes it, unless the stylesheet ends first. -/
inductive Component
  | leaf (t : Token)
  | group (opener : Token) (inside : List Component) (closer : Option Token)

mutual

/-- The tokens of a component, in order. -/
def Component.tokens : Component → List Token
  | .leaf t => [t]
  | .group opener inside closer => opener :: tokensOf inside ++ closer.toList

/-- The tokens of some components, in order. -/
def tokensOf : List Component → List Token
  | [] => []
  | c :: r => c.tokens ++ tokensOf r

end

/-- The first token of a component. -/
def Component.head : Component → Token
  | .leaf t => t
  | .group opener _ _ => opener

@[simp] theorem tokensOf_nil : tokensOf [] = [] := by rw [tokensOf]

@[simp] theorem tokensOf_leaf (t : Token) (r : List Component) : tokensOf (.leaf t :: r) = t :: tokensOf r := by
  rw [tokensOf, Component.tokens]; rfl

@[simp] theorem tokensOf_group (o : Token) (inside : List Component) (closer : Option Token) (r : List Component) :
    tokensOf (.group o inside closer :: r) = o :: (tokensOf inside ++ (closer.toList ++ tokensOf r)) := by
  rw [tokensOf, Component.tokens]; simp

@[simp] theorem tokensOf_append (a b : List Component) : tokensOf (a ++ b) = tokensOf a ++ tokensOf b := by
  induction a with
  | nil => simp
  | cons c r ih => rw [List.cons_append, tokensOf, tokensOf, ih, List.append_assoc]

/-- The tokens of some components start with the head of the first one. -/
theorem tokensOf_cons (c : Component) (r : List Component) : ∃ ts, tokensOf (c :: r) = c.head :: ts := by
  cases c with
  | leaf t => exact ⟨_, tokensOf_leaf t r⟩
  | group o inside closer => exact ⟨_, tokensOf_group o inside closer r⟩

/-! ## Parts of a list -/

theorem append_of_span_eq {α : Type} {p : α → Bool} {l a b : List α} (h : l.span p = (a, b)) : a ++ b = l := by
  rw [List.span_eq_takeWhile_dropWhile, Prod.mk.injEq] at h
  rw [← h.1, ← h.2, List.takeWhile_append_dropWhile]

theorem of_span_eq_cons {α : Type} {p : α → Bool} {x : α} {l a r : List α} (h : l.span p = (a, x :: r)) :
    p x = false := by
  rw [List.span_eq_takeWhile_dropWhile, Prod.mk.injEq] at h
  have := List.head?_dropWhile_not p l
  rwa [h.2] at this

/-! ## Forests -/

/-- Components as they stand in some bracket, or in none: leaves open nothing and do not close that
bracket, and groups are closed by a matching token. Only a list that is not `ended` may break off in
a group that is not closed. -/
inductive Forest : Option Bracket → Bool → List Component → Prop
  | nil (within : Option Bracket) : Forest within true []
  | leaf {within : Option Bracket} {ended : Bool} {t : Token} {r : List Component} :
      t.opens? = none → (∀ b ∈ within, t.closes b = false) → Forest within ended r →
      Forest within ended (.leaf t :: r)
  | closed {within : Option Bracket} {ended : Bool} {b : Bracket} {o u : Token} {inside r : List Component} :
      o.opens? = some b → Forest (some b) true inside → u.closes b = true → Forest within ended r →
      Forest within ended (.group o inside (some u) :: r)
  | unclosed {within : Option Bracket} {ended : Bool} {b : Bracket} {o : Token} {inside : List Component} :
      o.opens? = some b → Forest (some b) ended inside → Forest within false [.group o inside none]

section Forests

variable {within : Option Bracket} {ended : Bool} {c : Component} {o : Token} {F r inside : List Component}
  {closer : Option Token}

theorem Forest.tail (h : Forest within ended (c :: r)) : ∃ ended', Forest within ended' r := by
  cases h with
  | leaf _ _ h => exact ⟨_, h⟩
  | closed _ _ _ h => exact ⟨_, h⟩
  | unclosed _ _ => exact ⟨true, .nil _⟩

theorem Forest.of_append_right {a b : List Component} (h : Forest within ended (a ++ b)) :
    ∃ ended', Forest within ended' b := by
  induction a generalizing ended with
  | nil => exact ⟨ended, h⟩
  | cons c r ih =>
    obtain ⟨e, ht⟩ := h.tail
    exact ih ht

theorem Forest.of_append_left {a b : List Component} (h : Forest within ended (a ++ b)) :
    ∃ ended', Forest within ended' a := by
  induction a generalizing ended with
  | nil => exact ⟨true, .nil _⟩
  | cons c r ih =>
    obtain ⟨e, ht⟩ := h.tail
    obtain ⟨e', hr⟩ := ih ht
    rw [List.cons_append] at h
    -- a group that is not closed comes last, so that nothing can be cut off behind it
    generalize hrest : r ++ b = rest at h
    cases h with
    | leaf ho hc _ => exact ⟨e', .leaf ho hc hr⟩
    | closed ho hi hu _ => exact ⟨e', .closed ho hi hu hr⟩
    | unclosed ho hi =>
      rw [(List.append_eq_nil_iff.1 hrest).1]
      exact ⟨false, .unclosed ho hi⟩

/-- Both parts of a forest are forests. -/
theorem Forest.of_span_eq {a b : List Component} {p : Component → Bool} (h : Forest within ended F)
    (hs : F.span p = (a, b)) :
    (∃ ended', Forest within ended' a) ∧ ∃ ended', Forest within ended' b := by
  rw [← append_of_span_eq hs] at h
  exact ⟨h.of_append_left, h.of_append_right⟩

/-- A component of a forest whose head opens nothing is a leaf. -/
theorem Forest.eq_leaf (h : Forest within ended (c :: r)) (hc : c.head.opens? = none) : c = .leaf c.head := by
  cases h with
  | leaf _ _ _ => rfl
  | closed ho _ _ _ => exact absurd (hc.symm.trans ho) nofun
  | unclosed ho _ => exact absurd (hc.symm.trans ho) nofun

theorem Forest.eq_leaf_of_mem (h : Forest within ended F) :
    ∀ c ∈ F, c.head.opens? = none → c = .leaf c.head := by
  induction F generalizing ended with
  | nil => nofun
  | cons c r ih =>
    obtain ⟨e, hr⟩ := h.tail
    exact List.forall_mem_cons.2 ⟨h.eq_leaf, ih hr⟩

/-- The first component of a forest is closed, unless it is the last one. -/
theorem Forest.first (h : Forest within ended (c :: r)) :
    ∃ ended', Forest within ended' [c] ∧ (r ≠ [] → ended' = true) := by
  cases h with
  | leaf ho hc _ => exact ⟨true, .leaf ho hc (.nil _), fun _ => rfl⟩
  | closed ho hi hu _ => exact ⟨true, .closed ho hi hu (.nil _), fun _ => rfl⟩
  | unclosed ho hi => exact ⟨false, .unclosed ho hi, fun hr => absurd rfl hr⟩

/-- What a group holds stands in the bracket that its opener opens. -/
theorem Forest.of_group (h : Forest within ended (.group o inside closer :: r)) :
    ∃ b ended', o.opens? = some b ∧ Forest (some b) ended' inside := by
  cases h with
  | closed ho hi _ _ => exact ⟨_, true, ho, hi⟩
  | unclosed ho hi => exact ⟨_, _, ho, hi⟩

/-- What is left behind an at-rule is a forest. -/
theorem Forest.behind_atRule {p q : Component → Bool} {gap rest prelude more : List Component} {d : Component}
    (h : Forest within ended F) (hF : F.span p = (gap, c :: rest)) (hr : rest.span q = (prelude, d :: more)) :
    ∃ ended', Forest within ended' more := by
  obtain ⟨_, hc⟩ := (h.of_span_eq hF).2
  obtain ⟨_, hrest⟩ := hc.tail
  obtain ⟨_, hd⟩ := (hrest.of_span_eq hr).2
  exact hd.tail

/-- What the block of an at-rule holds is a forest. -/
theorem Forest.inside_atRule {p q : Component → Bool} {gap rest prelude more : List Component}
    (h : Forest within ended F) (hF : F.span p = (gap, c :: rest))
    (hr : rest.span q = (prelude, .group o inside closer :: more)) :
    ∃ b ended', Forest (some b) ended' inside := by
  obtain ⟨_, hc⟩ := (h.of_span_eq hF).2
  obtain ⟨_, hrest⟩ := hc.tail
  obtain ⟨_, hgroup⟩ := (hrest.of_span_eq hr).2
  obtain ⟨b, e, -, hinside⟩ := hgroup.of_group
  exact ⟨b, e, hinside⟩

/-- What is left behind a style rule is a forest. -/
theorem Forest.behind_style {p q : Component → Bool} {gap left prelude more : List Component} {d : Component}
    (h : Forest within ended F) (hF : F.span p = (gap, left)) (hr : left.span q = (prelude, d :: more)) :
    ∃ ended', Forest within ended' more := by
  obtain ⟨_, hleft⟩ := (h.of_span_eq hF).2
  obtain ⟨_, hd⟩ := (hleft.of_span_eq hr).2
  exact hd.tail

theorem Token.opens?_of_opensBlock {t : Token} (h : t.opensBlock = true) : t.opens? = some .curly := by
  unfold Token.opensBlock at h
  rw [Token.opens?, beq_iff_eq.1 h]

/-- The token that closes a block is of the kind that its opener asks for. -/
theorem Forest.closes (h : Forest within ended (.group o inside closer :: r)) (ho : o.opensBlock = true) :
    ∀ u ∈ closer, u.closes .curly = true := by
  cases h with
  | closed ho' _ hu _ =>
    cases (Token.opens?_of_opensBlock ho).symm.trans ho'
    rintro _ ⟨⟩
    exact hu
  | unclosed _ _ => nofun

/-- No component of a bracket has a head that closes the bracket. -/
theorem Forest.not_closes_head {b : Bracket} (h : Forest (some b) ended F) :
    ∀ c ∈ F, c.head.closes b = false := by
  have hopener : ∀ {o : Token} {b' : Bracket}, o.opens? = some b' → o.closes b = false := by
    intro o b' ho
    unfold Token.opens? at ho
    unfold Token.closes
    cases hk : o.kind <;> simp_all
  induction F generalizing ended with
  | nil => nofun
  | cons c r ih =>
    obtain ⟨e, hr⟩ := h.tail
    rw [List.forall_mem_cons]
    refine ⟨?_, ih hr⟩
    cases h with
    | leaf _ hc _ => exact hc b rfl
    | closed ho _ _ _ => exact hopener ho
    | unclosed ho _ => exact hopener ho

end Forests

/-! ## Reading components -/

/-- What is read of a list of tokens that stand in a bracket, or in none: the components, and the
tokens from the one on that closes the bracket. -/
structure Reading (within : Option Bracket) (ts : List Token) where
  components : List Component
  rest : List Token
  /-- No token is lost, added or moved. -/
  whole : tokensOf components ++ rest = ts
  /-- The components are a forest, which breaks off only where the tokens do. -/
  forest : ∃ ended, Forest within ended components ∧ (rest ≠ [] → ended = true)
  /-- Reading stops at nothing but a token that closes the bracket. -/
  stops : ∀ t ∈ rest.head?, ∃ b ∈ within, t.closes b = true

namespace Reading

variable {within : Option Bracket} {b : Bracket} {t u : Token} {r left : List Token}

/-- Nothing is read of no tokens. -/
def nil (within : Option Bracket) : Reading within [] :=
  ⟨[], [], by rw [tokensOf_nil, List.append_nil], ⟨true, .nil _, fun _ => rfl⟩, by nofun⟩

/-- Nothing is read of tokens that close the bracket. -/
def stop (hc : within.any t.closes = true) : Reading within (t :: r) where
  components := []
  rest := t :: r
  whole := by rw [tokensOf_nil, List.nil_append]
  forest := ⟨true, .nil _, fun _ => rfl⟩
  stops := by
    rintro _ ⟨⟩
    cases within with
    | none => cases hc
    | some b => exact ⟨b, rfl, hc⟩

/-- A token by itself, and what is read behind it. -/
def leaf (ho : t.opens? = none) (hc : within.any t.closes = false) (next : Reading within r) :
    Reading within (t :: r) where
  components := .leaf t :: next.components
  rest := next.rest
  whole := by rw [tokensOf_leaf, List.cons_append, next.whole]
  forest := by
    obtain ⟨e, hn, he⟩ := next.forest
    refine ⟨e, .leaf ho ?_ hn, he⟩
    rintro _ ⟨⟩
    exact hc
  stops := next.stops

/-- A group that takes all tokens and is not closed. -/
def unclosed (ho : t.opens? = some b) (inner : Reading (some b) r) (hr : inner.rest = []) :
    Reading within (t :: r) where
  components := [.group t inner.components none]
  rest := []
  whole := by
    have hw := inner.whole
    rw [hr, List.append_nil] at hw
    rw [tokensOf_group, hw, tokensOf_nil, Option.toList_none, List.append_nil, List.append_nil, List.append_nil]
  forest := by
    obtain ⟨_, hi, -⟩ := inner.forest
    exact ⟨false, .unclosed ho hi, fun h => absurd rfl h⟩
  stops := by nofun

/-- A group that is closed, and what is read behind it. -/
def closed (ho : t.opens? = some b) (inner : Reading (some b) r) (hr : inner.rest = u :: left)
    (next : Reading within left) : Reading within (t :: r) where
  components := .group t inner.components (some u) :: next.components
  rest := next.rest
  whole := by
    have hw := inner.whole
    rw [hr] at hw
    rw [tokensOf_group, List.cons_append, List.append_assoc, List.append_assoc, next.whole, Option.toList_some,
      List.singleton_append, hw]
  forest := by
    obtain ⟨e, hi, he⟩ := inner.forest
    obtain ⟨e', hn, he'⟩ := next.forest
    obtain ⟨b', hb, hu⟩ := inner.stops u (by rw [hr]; rfl)
    cases hb
    rw [he (by rw [hr]; exact List.cons_ne_nil _ _)] at hi
    exact ⟨e', .closed ho hi hu hn, he'⟩
  stops := next.stops

theorem length_lt (inner : Reading within r) (hr : inner.rest = u :: left) : left.length < r.length := by
  have h := congrArg List.length inner.whole
  rw [List.length_append, hr, List.length_cons] at h
  omega

end Reading

/-- Reads components up to the token that closes the bracket they stand in. -/
def read (within : Option Bracket) : (ts : List Token) → Reading within ts
  | [] => .nil within
  | t :: r =>
    match ho : t.opens? with
    | some b =>
      let inner := read (some b) r
      match hr : inner.rest with
      | [] => .unclosed ho inner hr
      | u :: left =>
        have := inner.length_lt hr
        .closed ho inner hr (read within left)
    | none =>
      match hc : within.any t.closes with
      | true => .stop hc
      | false => .leaf ho hc (read within r)
termination_by ts => ts.length

/-- The components of a list of tokens. -/
def componentsOf (ts : List Token) : List Component :=
  (read none ts).components

@[simp] theorem tokensOf_componentsOf (ts : List Token) : tokensOf (componentsOf ts) = ts := by
  have hw := (read none ts).whole
  have hs := (read none ts).stops
  cases hr : (read none ts).rest with
  | nil => rw [hr, List.append_nil] at hw; exact hw
  | cons t r =>
    obtain ⟨b, hb, -⟩ := hs t (by rw [hr]; rfl)
    cases hb

theorem forest_componentsOf (ts : List Token) : ∃ ended, Forest none ended (componentsOf ts) := by
  obtain ⟨ended, h, -⟩ := (read none ts).forest
  exact ⟨ended, h⟩

/-! ## Cutting components -/

theorem nest_opener {t : Token} {b : Bracket} (h : t.opens? = some b) (pending : List Bracket) :
    t.nest pending = b :: pending := by
  unfold Token.opens? at h
  unfold Token.nest
  cases hk : t.kind <;> simp_all

/-- A token that neither opens a bracket nor closes the innermost one. -/
theorem nest_leaf {t : Token} {pending : List Bracket} (h : t.opens? = none)
    (hc : ∀ b ∈ pending.head?, t.closes b = false) : t.nest pending = pending := by
  unfold Token.opens? at h
  unfold Token.closes at hc
  unfold Token.nest
  cases hk : t.kind with
  | closing b =>
    dsimp only
    rw [if_neg]
    intro hb
    have := hc b hb
    simp [hk] at this
  | _ => simp_all

theorem nest_closer {t : Token} {b : Bracket} (h : t.closes b = true) (pending : List Bracket) :
    t.nest (b :: pending) = pending := by
  unfold Token.closes at h
  unfold Token.nest
  rw [beq_iff_eq] at h
  simp [h]

section Cut

variable {stop : Token → Bool} {within : Option Bracket} {ended : Bool} {F r : List Component}

/-- Cutting passes over some tokens without a stop, one stack of open brackets becoming another. -/
def Passes (stop : Token → Bool) (pending : List Bracket) (ts : List Token) (pending' : List Bracket) : Prop :=
  ∀ rest, cut stop pending (ts ++ rest) = (ts ++ (cut stop pending' rest).1, (cut stop pending' rest).2)

theorem Passes.nil (pending : List Bracket) : Passes stop pending [] pending := fun _ => rfl

theorem Passes.cons {pending pending' : List Bracket} {t : Token} {ts : List Token}
    (ht : pending ≠ [] ∨ stop t = false) (h : Passes stop (t.nest pending) ts pending') :
    Passes stop pending (t :: ts) pending' := by
  intro rest
  have hn : ¬ (pending.isEmpty && stop t) = true := by
    rcases ht with ht | ht
    · cases pending with
      | nil => exact absurd rfl ht
      | cons b p => simp
    · simp [ht]
  rw [List.cons_append, cut, if_neg hn, h rest]
  rfl

theorem Passes.append {pending pending' pending'' : List Bracket} {a b : List Token}
    (ha : Passes stop pending a pending') (hb : Passes stop pending' b pending'') :
    Passes stop pending (a ++ b) pending'' := by
  intro rest
  rw [List.append_assoc, ha, hb, List.append_assoc]

/-- What has been passed over is all that is cut off if nothing follows. -/
theorem Passes.eq {pending pending' : List Bracket} {ts : List Token} (h : Passes stop pending ts pending') :
    cut stop pending ts = (ts, []) := by
  have := h []
  rwa [List.append_nil, cut, List.append_nil] at this

/-- Cutting may pass over a forest: it stands in the innermost open bracket, or no bracket is open and
none of its components has a head that stops. -/
def MayPass (stop : Token → Bool) (within : Option Bracket) (pending : List Bracket) (F : List Component) : Prop :=
  pending ≠ [] ∧ pending.head? = within ∨ pending = [] ∧ ∀ c ∈ F, stop c.head = false

/-- Cutting passes over a forest, and the brackets are as before unless the forest breaks off. -/
theorem Forest.passes (h : Forest within ended F) {pending : List Bracket} (hm : MayPass stop within pending F) :
    ∃ pending', Passes stop pending (tokensOf F) pending' ∧ (ended = true → pending' = pending) := by
  -- whoever may pass over a forest may pass over its first head, and over the rest
  have hhead : ∀ {within pending c r}, MayPass stop within pending (c :: r) →
      (pending ≠ [] ∨ stop c.head = false) ∧ MayPass stop within pending r := by
    rintro within pending c r (⟨hn, hw⟩ | ⟨hn, hs⟩)
    · exact ⟨.inl hn, .inl ⟨hn, hw⟩⟩
    · exact ⟨.inr (hs c (by simp)), .inr ⟨hn, fun d hd => hs d (List.mem_cons_of_mem _ hd)⟩⟩
  induction h generalizing pending with
  | nil within => exact ⟨pending, by rw [tokensOf_nil]; exact .nil _, fun _ => rfl⟩
  | leaf ho hc _ ih =>
    obtain ⟨ht, hr⟩ := hhead hm
    obtain ⟨p, hp, he⟩ := ih hr
    refine ⟨p, ?_, he⟩
    rw [tokensOf_leaf]
    refine .cons ht ?_
    rw [nest_leaf ho]
    · exact hp
    · rcases hm with ⟨-, hw⟩ | ⟨rfl, -⟩
      · rw [hw]; exact hc
      · nofun
  | @closed within ended b o u inside r ho _ hu _ ihi ihr =>
    obtain ⟨ht, hr⟩ := hhead hm
    have hin : MayPass stop (some b) (b :: pending) inside := .inl ⟨List.cons_ne_nil _ _, rfl⟩
    obtain ⟨pi, hpi, hei⟩ := ihi hin
    obtain ⟨p, hp, he⟩ := ihr hr
    refine ⟨p, ?_, he⟩
    rw [tokensOf_group]
    refine .cons ht ?_
    rw [nest_opener ho]
    rw [hei rfl] at hpi
    refine hpi.append (.cons (.inl (List.cons_ne_nil _ _)) ?_)
    rw [nest_closer hu]
    exact hp
  | @unclosed within ended b o inside ho _ ihi =>
    obtain ⟨ht, -⟩ := hhead hm
    have hin : MayPass stop (some b) (b :: pending) inside := .inl ⟨List.cons_ne_nil _ _, rfl⟩
    obtain ⟨pi, hpi, -⟩ := ihi hin
    -- the brackets that are open where the forest breaks off do not matter
    refine ⟨pi, ?_, nofun⟩
    rw [tokensOf_group]
    refine .cons ht ?_
    rw [nest_opener ho]
    simpa using hpi

/-- Outside all brackets cutting passes over a component whose head does not stop. -/
theorem cut_cons {c : Component} (h : Forest within ended (c :: r)) (hs : stop c.head = false) :
    cut stop [] (tokensOf (c :: r)) =
      (c.tokens ++ (cut stop [] (tokensOf r)).1, (cut stop [] (tokensOf r)).2) := by
  obtain ⟨e, hc, he⟩ := h.first
  have hmay : MayPass stop within [] [c] := .inr ⟨rfl, by simpa using hs⟩
  obtain ⟨p, hp, hpe⟩ := hc.passes hmay
  simp only [tokensOf, List.append_nil] at hp ⊢
  cases r with
  | nil => simpa [cut] using hp.eq
  | cons d r =>
    rw [hpe (he (List.cons_ne_nil _ _))] at hp
    exact hp _

/-- Outside all brackets a forest is cut before its first component whose head stops. -/
theorem cut_tokensOf {a b : List Component} (h : Forest within ended F) (hs : F.span (fun c => !stop c.head) = (a, b)) :
    cut stop [] (tokensOf F) = (tokensOf a, tokensOf b) := by
  rw [List.span_eq_takeWhile_dropWhile, Prod.mk.injEq] at hs
  obtain ⟨rfl, rfl⟩ := hs
  induction F generalizing ended with
  | nil => simp [cut]
  | cons c r ih =>
    cases hs : stop c.head with
    | true =>
      obtain ⟨ts, hts⟩ := tokensOf_cons c r
      rw [List.takeWhile_cons_of_neg (by simp [hs]), List.dropWhile_cons_of_neg (by simp [hs]), hts, cut,
        if_pos (by simp [hs]), tokensOf_nil]
    | false =>
      obtain ⟨e, hr⟩ := h.tail
      rw [List.takeWhile_cons_of_pos (by simp [hs]), List.dropWhile_cons_of_pos (by simp [hs]), cut_cons h hs, ih hr,
        tokensOf]

/-- The block behind its opening token is the group of that token. -/
theorem Block.read_tokensOf {o : Token} {inside : List Component} {closer : Option Token}
    (h : Forest within ended (.group o inside closer :: r)) (ho : o.opensBlock = true) :
    Block.read o (tokensOf inside ++ (closer.toList ++ tokensOf r)) = (⟨o, tokensOf inside, closer⟩, tokensOf r) := by
  have hcurly := Token.opens?_of_opensBlock ho
  have hpass : ∀ {e}, Forest (some .curly) e inside → ∃ pending',
      Passes Token.closesBlock [] (tokensOf inside) pending' ∧ (e = true → pending' = []) :=
    fun hi => hi.passes (.inr ⟨rfl, hi.not_closes_head⟩)
  unfold Block.read
  cases h with
  | @closed _ _ b _ u _ _ ho' hi hu _ =>
    cases hcurly.symm.trans ho'
    obtain ⟨p, hp, hpe⟩ := hpass hi
    rw [hpe rfl] at hp
    have hu' : cut Token.closesBlock [] (u :: tokensOf r) = ([], u :: tokensOf r) := by
      rw [cut, if_pos]
      exact hu
    rw [Option.toList_some, List.singleton_append, hp, hu']
    simp
  | unclosed ho' hi =>
    cases hcurly.symm.trans ho'
    obtain ⟨p, hp, -⟩ := hpass hi
    rw [Option.toList_none, tokensOf_nil, List.append_nil, List.append_nil, hp.eq]
    rfl

end Cut

end ClassAtlas.Stylesheet
