/-
Parts with the same key. A key keeps the words of a part, where a word ends at any blank character; a
token ends at white space of a stylesheet only, and may hold blanks, as a string does, or a name with a
no-break space. Where no token but white space and comments holds a blank, the key tells the tokens: two
parts with the same key have the same tokens, up to comments and amounts of white space (`squash_eq`).
Where one does, the key may be that of other tokens.
-/
import ClassAtlas.Proofs.Stylesheet.Parts

namespace ClassAtlas.Stylesheet

open Text (isBlank words squeeze AllBlank NoBlank EndsWord Alike)
open Token

/-! ## What a part says -/

/-- Tokens with a space in front, unless there are none, or white space is there. -/
def spaced : List Token → List Token
  | [] => []
  | t :: ts => if t.kind = .gap then t :: ts else ⟨.gap, [' ']⟩ :: t :: ts

/-- Tokens without their comments, with one space for white space between them, and none at the end. -/
def squash : List Token → List Token
  | [] => []
  | t :: ts =>
    if t.kind = .gap then spaced (squash ts)
    else if t.kind = .comment then squash ts
    else t :: squash ts

/-- What a part says: its tokens without comments, but for the amounts of white space. -/
def essence (part : List Token) : List Token :=
  squash (part.dropWhile Token.isSpacing)

/-- Tokens of which none holds a blank, white space and comments apart. -/
def Plain (ts : List Token) : Prop :=
  ∀ t ∈ ts, t.isSpacing = false → NoBlank t.text

instance (ts : List Token) : Decidable (Plain ts) :=
  decidable_of_iff ((ts.all fun t => t.isSpacing || t.text.all fun c => !isBlank c) = true) <| by
    simp [Plain, NoBlank, or_iff_not_imp_left]

theorem Plain.tail {t : Token} {ts : List Token} (h : Plain (t :: ts)) : Plain ts :=
  (List.forall_mem_cons.1 h).2

/-! ## Plain tokens -/

section Plain

variable {v : List Char} {t : Token} {ts : List Token}

/-- The text of plain tokens starts with a blank only if they start with white space. -/
theorem ReadBefore.starts (h : ReadBefore v (t :: ts)) (hv : v ≠ []) (hp : Plain (t :: ts)) (hk : t.kind ≠ .gap) :
    ∃ c r, textOf (t :: ts) = c :: r ∧ isBlank c = false := by
  by_cases hcomment : t.kind = .comment
  · obtain ⟨q, hq, -⟩ := h.comment hv hcomment
    exact ⟨'/', '*' :: q, hq, by decide⟩
  · have hspacing : t.isSpacing = false := by
      rw [Bool.eq_false_iff, ne_eq, isSpacing_iff]
      exact not_or.2 ⟨hk, hcomment⟩
    obtain ⟨c, r, hc⟩ := List.exists_cons_of_ne_nil (h.lexeme_eq hv).1
    refine ⟨c, r ++ textOf ts, by rw [textOf, List.flatMap_cons, hc]; rfl, ?_⟩
    exact hp t List.mem_cons_self hspacing c (by rw [hc]; exact List.mem_cons_self)

/-- Tokens that do not start with white space have a text that does not start with a blank. -/
theorem ReadBefore.dropWhile_isBlank (h : ReadBefore v ts) (hv : v ≠ []) (hp : Plain ts)
    (hgap : ∀ t ∈ ts.head?, t.kind ≠ .gap) : (textOf ts).dropWhile isBlank = textOf ts := by
  cases ts with
  | nil => rfl
  | cons t ts =>
    obtain ⟨c, r, hc, hblank⟩ := h.starts hv hp (hgap t rfl)
    rw [hc, List.dropWhile_cons_of_neg]
    rw [hblank]
    exact Bool.false_ne_true

/-- Plain tokens with a blank text say nothing. -/
theorem ReadBefore.squash_eq_nil (h : ReadBefore v ts) (hv : v ≠ []) (hp : Plain ts) (hblank : AllBlank (textOf ts)) :
    squash ts = [] := by
  induction ts with
  | nil => rfl
  | cons t ts ih =>
    by_cases hk : t.kind = .gap
    · have hrest : AllBlank (textOf ts) := fun c hc => hblank c (List.mem_append_right _ hc)
      rw [squash, if_pos hk, ih h.tail hp.tail hrest]
      rfl
    · obtain ⟨c, r, hc, hno⟩ := h.starts hv hp hk
      rw [hblank c (by rw [hc]; exact List.mem_cons_self)] at hno
      cases hno

end Plain

/-! ## Comments in texts that are alike -/

theorem commentLength_blank {x : List Char} (hx : AllBlank x) (r : List Char) :
    commentLength (x ++ r) = x.length + commentLength r := by
  induction x with
  | nil => simp
  | cons c x ih =>
    obtain ⟨hc, hx⟩ := List.forall_mem_cons.1 hx
    rw [List.cons_append, commentLength, ih hx, List.length_cons]
    · omega
    · rintro _ rfl _
      exact absurd hc (by decide)

/-- Where a comment ends in a text, it does in what is alike, and what is behind is alike. -/
theorem alike_behind_comment {p q v w : List Char} (h : Alike p q) (hv : StartsBehindPart v) (hw : StartsBehindPart w)
    (hp : commentLength (p ++ v) ≤ p.length) :
    Alike (p.drop (commentLength (p ++ v))) (q.drop (commentLength (q ++ w))) := by
  have hslash : ∀ {x}, StartsBehindPart x → x.head? ≠ some '/' := fun hx =>
    (edged_of_startsBehindPart hx).head?_ne (by decide)
  induction h with
  | @blank p q hblank _ =>
    obtain ⟨c, r, rfl, hc⟩ := hv
    -- the comment would go beyond the text
    have hpos : 0 < commentLength (c :: r) := by
      unfold commentLength
      split
      · next h => cases h
      · exact Nat.two_pos
      · exact Nat.succ_pos _
    rw [commentLength_blank hblank] at hp
    omega
  | @char c p q hc h ih =>
    by_cases hend : c = '*' ∧ p.head? = some '/'
    · obtain ⟨rfl, hp'⟩ := hend
      obtain ⟨p, rfl⟩ := List.head?_eq_some_iff.1 hp'
      obtain ⟨q, rfl, hrest⟩ := h.of_cons (by decide)
      exact hrest
    · have hend' : ¬ (c = '*' ∧ q.head? = some '/') := by
        rintro ⟨rfl, hq⟩
        obtain ⟨q, rfl⟩ := List.head?_eq_some_iff.1 hq
        obtain ⟨p, rfl, -⟩ := h.symm.of_cons (by decide)
        exact hend ⟨rfl, rfl⟩
      have hstep : ∀ {s x}, StartsBehindPart x → ¬ (c = '*' ∧ s.head? = some '/') →
          commentLength (c :: (s ++ x)) = commentLength (s ++ x) + 1 := by
        intro s x hx hs
        rw [commentLength]
        rintro r rfl hr
        refine hs ⟨rfl, ?_⟩
        rw [← head?_append_of_head (hslash hx), hr]
        rfl
      rw [List.cons_append, hstep hv hend, List.length_cons] at hp
      rw [List.cons_append, List.cons_append, hstep hv hend, hstep hw hend']
      exact ih (Nat.le_of_succ_le_succ hp)
  | @gap x y p q hx _ hy _ h ih =>
    rw [List.append_assoc, commentLength_blank hx, List.length_append] at hp
    rw [List.append_assoc, List.append_assoc, commentLength_blank hx, commentLength_blank hy,
      List.drop_length_add_append, List.drop_length_add_append]
    exact ih (Nat.le_of_add_le_add_left hp)

/-! ## Tokens in texts that are alike -/

/-- A text without blanks in front of another is in front of the word that the whole starts with. -/
theorem exists_of_append_eq {p r word a : List Char} (hp : NoBlank p) (ha : EndsWord a) (h : p ++ r = word ++ a) :
    ∃ word', word = p ++ word' ∧ r = word' ++ a := by
  rcases List.append_eq_append_iff.1 h with ⟨word', hword, hr⟩ | ⟨x, hpx, hax⟩
  · exact ⟨word', hword, hr⟩
  · cases x with
    | nil => exact ⟨[], by rw [hpx, List.append_nil, List.append_nil], hax.symm⟩
    | cons c x =>
      have hno := hp c (by rw [hpx]; exact List.mem_append_right _ List.mem_cons_self)
      rw [ha c (by rw [hax]; rfl)] at hno
      cases hno

theorem edged_append {a v : List Char} (ha : EndsWord a) (hv : StartsBehindPart v) : Edged (a ++ v) := by
  cases a with
  | nil => exact edged_of_startsBehindPart hv
  | cons c a => exact ⟨c, a ++ v, rfl, by rw [isEdge, ha c rfl]; rfl⟩

/-- Tokens without blanks that start texts that are alike are the same. -/
theorem token_eq_of_alike {v w : List Char} {t u : Token} {ts us : List Token} (hv : StartsBehindPart v)
    (hw : StartsBehindPart w) (ht : ReadBefore v (t :: ts)) (hu : ReadBefore w (u :: us)) (htext : NoBlank t.text)
    (hutext : NoBlank u.text) (h : Alike (textOf (t :: ts)) (textOf (u :: us))) :
    t = u ∧ Alike (textOf ts) (textOf us) := by
  obtain ⟨htne, htkind, htlength⟩ := ht.lexeme_eq (ne_nil_of_startsBehindPart hv)
  obtain ⟨hune, hukind, hulength⟩ := hu.lexeme_eq (ne_nil_of_startsBehindPart hw)
  -- the word that both texts start with, and what is behind it in each
  obtain ⟨word, a, hta, hword, ha⟩ : ∃ word a, textOf (t :: ts) = word ++ a ∧ NoBlank word ∧ EndsWord a :=
    ⟨_, _, List.takeWhile_append_dropWhile.symm, Text.noBlank_takeWhile _, Text.endsWord_dropWhile _⟩
  rw [hta] at h
  obtain ⟨b, hub, hab⟩ := h.of_word hword
  have hb : EndsWord b := hab.endsWord ha
  obtain ⟨wordt, hwordt, htsa⟩ := exists_of_append_eq htext ha hta
  obtain ⟨wordu, hwordu, husb⟩ := exists_of_append_eq hutext hb hub
  have hlexeme : lexeme (word ++ (a ++ v)) = lexeme (word ++ (b ++ w)) := by
    have hwordne : word ≠ [] := fun hnil => htne (List.append_eq_nil_iff.1 (hwordt.symm.trans hnil)).1
    have htle := congrArg List.length hwordt
    have hule := congrArg List.length hwordu
    have htpos := List.length_pos_iff.2 htne
    have hupos := List.length_pos_iff.2 hune
    rw [List.length_append] at htle hule
    rw [hta, List.append_assoc] at htlength
    rw [hub, List.append_assoc] at hulength
    exact lexeme_edge hword hwordne (edged_append ha hv) (edged_append hb hw) (by omega) (by omega)
  rw [hta, List.append_assoc, hlexeme, ← List.append_assoc, ← hub] at htkind htlength
  have hlength : t.text.length = u.text.length := by
    have htpos := List.length_pos_iff.2 htne
    have hupos := List.length_pos_iff.2 hune
    omega
  obtain ⟨hsame, rfl⟩ := List.append_inj (hwordt.symm.trans hwordu) hlength
  refine ⟨?_, ?_⟩
  · cases t
    cases u
    exact congr (congrArg Token.mk (htkind.symm.trans hukind)) hsame
  · have hrest : NoBlank wordt := fun c hc => hword c (by rw [hwordt]; exact List.mem_append_right _ hc)
    rw [show textOf ts = wordt ++ a from htsa, show textOf us = wordt ++ b from husb]
    exact hab.word hrest

section Kinds

variable {v w : List Char} {t u : Token} {ts us : List Token} (hv : v ≠ []) (hw : w ≠ [])
  (ht : ReadBefore v (t :: ts)) (hu : ReadBefore w (u :: us))
include hv hw ht hu

theorem gap_of_alike (hp : Plain (u :: us)) (h : Alike (textOf (t :: ts)) (textOf (u :: us)))
    (hk : t.kind = .gap) : u.kind = .gap := by
  by_contra hgap
  obtain ⟨c, r, hc, hno⟩ := hu.starts hw hp hgap
  rw [hc] at h
  obtain ⟨r', hr', -⟩ := h.symm.of_cons hno
  obtain ⟨d, x, hd⟩ := List.exists_cons_of_ne_nil (ht.lexeme_eq hv).1
  have hblank := (ht.gap hv hk).1 d (by rw [hd]; exact List.mem_cons_self)
  rw [textOf, List.flatMap_cons, hd, List.cons_append, List.cons.injEq] at hr'
  rw [hr'.1, hno] at hblank
  cases hblank

theorem comment_of_alike (h : Alike (textOf (t :: ts)) (textOf (u :: us))) (hk : t.kind = .comment) :
    u.kind = .comment := by
  obtain ⟨q, hq, -⟩ := ht.comment hv hk
  rw [hq] at h
  obtain ⟨b, hb, h⟩ := h.of_cons (by decide)
  obtain ⟨b', rfl, -⟩ := h.of_cons (by decide)
  exact hu.kind_of_comment hw hb

end Kinds

/-- Plain tokens whose texts are alike say the same. -/
theorem squash_eq {v w : List Char} (hv : StartsBehindPart v) (hw : StartsBehindPart w) {ts us : List Token}
    (hts : ReadBefore v ts) (hus : ReadBefore w us) (hpt : Plain ts) (hpu : Plain us)
    (h : Alike (textOf ts) (textOf us)) : squash ts = squash us := by
  have hvne := ne_nil_of_startsBehindPart hv
  have hwne := ne_nil_of_startsBehindPart hw
  induction ts generalizing us with
  | nil => exact (hus.squash_eq_nil hwne hpu (h.allBlank nofun)).symm
  | cons t ts ih =>
    cases us with
    | nil => exact hts.squash_eq_nil hvne hpt (h.symm.allBlank nofun)
    | cons u us =>
      have hrest : Alike (textOf ts) (textOf us) → squash ts = squash us := ih hts.tail hus.tail hpt.tail hpu.tail
      -- the first tokens are both white space, or both comments, or else the same token
      have hkinds : (t.kind = .gap ↔ u.kind = .gap) ∧ (t.kind = .comment ↔ u.kind = .comment) :=
        ⟨⟨gap_of_alike hvne hwne hts hus hpu h, gap_of_alike hwne hvne hus hts hpt h.symm⟩,
          comment_of_alike hvne hwne hts hus h, comment_of_alike hwne hvne hus hts h.symm⟩
      rw [squash, squash]
      by_cases hgap : t.kind = .gap
      · have hugap := hkinds.1.1 hgap
        obtain ⟨htblank, hthead⟩ := hts.gap hvne hgap
        obtain ⟨hublank, huhead⟩ := hus.gap hwne hugap
        have hbehind := h.dropWhile
        rw [textOf, textOf, List.flatMap_cons, List.flatMap_cons, List.dropWhile_append_of_pos htblank,
          List.dropWhile_append_of_pos hublank] at hbehind
        change Alike ((textOf ts).dropWhile isBlank) ((textOf us).dropWhile isBlank) at hbehind
        rw [hts.tail.dropWhile_isBlank hvne hpt.tail hthead, hus.tail.dropWhile_isBlank hwne hpu.tail huhead] at hbehind
        rw [if_pos hgap, if_pos hugap, hrest hbehind]
      · have hugap := mt hkinds.1.2 hgap
        rw [if_neg hgap, if_neg hugap]
        by_cases hcomment : t.kind = .comment
        · have hucomment := hkinds.2.1 hcomment
          obtain ⟨p, hp, hpclosed, hpbehind⟩ := hts.comment hvne hcomment
          obtain ⟨q, hq, -, hqbehind⟩ := hus.comment hwne hucomment
          rw [hp, hq] at h
          obtain ⟨_, ⟨⟩, h⟩ := h.of_cons (by decide)
          obtain ⟨_, ⟨⟩, h⟩ := h.of_cons (by decide)
          have hbehind := alike_behind_comment h hv hw hpclosed
          rw [← hpbehind, ← hqbehind] at hbehind
          rw [if_pos hcomment, if_pos hucomment, hrest hbehind]
        · have hucomment := mt hkinds.2.2 hcomment
          have hplain : ∀ {x : Token}, x.kind ≠ .gap → x.kind ≠ .comment → x.isSpacing = false := by
            intro x hxgap hxcomment
            rw [Bool.eq_false_iff, ne_eq, isSpacing_iff]
            exact not_or.2 ⟨hxgap, hxcomment⟩
          obtain ⟨rfl, hbehind⟩ := token_eq_of_alike hv hw hts hus
            (hpt t List.mem_cons_self (hplain hgap hcomment)) (hpu u List.mem_cons_self (hplain hugap hucomment)) h
          rw [if_neg hcomment, if_neg hcomment, hrest hbehind]

/-! ## Keys -/

/-- What is left of a part without its leading spacing is read as such, and does not start with a blank if
it is plain. -/
theorem exists_of_mem_partsOf {css : String} {part : List Token} (h : part ∈ partsOf css) (hp : Plain part) :
    ∃ v, StartsBehindPart v ∧ ReadBefore v (part.dropWhile Token.isSpacing) ∧ Plain (part.dropWhile Token.isSpacing) ∧
      (textOf (part.dropWhile Token.isSpacing)).dropWhile isBlank = textOf (part.dropWhile Token.isSpacing) := by
  obtain ⟨v, hv, hread⟩ := exists_readBefore h
  have hplain : Plain (part.dropWhile Token.isSpacing) := fun t ht => hp t ((List.dropWhile_sublist _).subset ht)
  have hrest : ReadBefore v (part.dropWhile Token.isSpacing) := by
    rw [← List.takeWhile_append_dropWhile (p := Token.isSpacing) (l := part)] at hread
    exact hread.of_append
  refine ⟨v, hv, hrest, hplain, hrest.dropWhile_isBlank (ne_nil_of_startsBehindPart hv) hplain fun t ht hk => ?_⟩
  have hhead := List.head?_dropWhile_not Token.isSpacing part
  rw [Option.mem_def.1 ht] at hhead
  exact absurd (isSpacing_iff.2 (.inl hk)) (by simpa using hhead)

/-- Two parts of style rules have the same key exactly if they have the same words, leading spacing apart.
If none of their tokens but white space and comments holds a blank, they then say the same. -/
theorem same_key {css css' : String} {p q : List Token} (hp : p ∈ partsOf css) (hq : q ∈ partsOf css') :
    (selectorOf p = selectorOf q ↔
      words (textOf (p.dropWhile Token.isSpacing)) = words (textOf (q.dropWhile Token.isSpacing))) ∧
    (Plain p → Plain q → selectorOf p = selectorOf q → essence p = essence q) := by
  have hkey : selectorOf p = selectorOf q ↔
      words (textOf (p.dropWhile Token.isSpacing)) = words (textOf (q.dropWhile Token.isSpacing)) := by
    rw [selectorOf, selectorOf, String.ofList_inj, Text.squeeze_inj]
  refine ⟨hkey, fun hpp hqp h => ?_⟩
  obtain ⟨v, hv, hpread, hpplain, hptext⟩ := exists_of_mem_partsOf hp hpp
  obtain ⟨w, hw, hqread, hqplain, hqtext⟩ := exists_of_mem_partsOf hq hqp
  have halike := Text.alike_of_words (hkey.1 h)
  rw [hptext, hqtext] at halike
  exact squash_eq hv hw hpread hqread hpplain hqplain halike

/-- Parts of two stylesheets that differ in white space only. -/
theorem same_key_spaced : ∃ p ∈ partsOf ".a \t.b\x7b\x7d", ∃ q ∈ partsOf "@media x\x7b.c,\n.a .b \x7b\x7d\x7d",
    p ≠ q ∧ selectorOf p = selectorOf q ∧ essence p = essence q := by
  have hp : tokens ".a \t.b".toList ∈ partsOf ".a \t.b\x7b\x7d" := by decide +kernel
  have hq : tokens "\n.a .b ".toList ∈ partsOf "@media x\x7b.c,\n.a .b \x7b\x7d\x7d" := by decide +kernel
  have hkey : selectorOf (tokens ".a \t.b".toList) = selectorOf (tokens "\n.a .b ".toList) := by decide +kernel
  exact ⟨_, hp, _, hq, by decide +kernel, hkey, (same_key hp hq).2 (by decide +kernel) (by decide +kernel) hkey⟩

/-- A no-break space is part of a class name, and the key does not tell the name without it. -/
theorem same_key_noBreak : ∃ p ∈ partsOf ".a\x7b\x7d", ∃ q ∈ partsOf ".a\u00a0\x7b\x7d",
    selectorOf p = selectorOf q ∧ essence p ≠ essence q :=
  ⟨tokens ".a".toList, by decide +kernel, tokens ".a\u00a0".toList, by decide +kernel, by decide +kernel,
    by decide +kernel⟩

/-- Nor does a key tell one space in a string from two, or where an escape ends and white space starts. -/
example : selectorOf (tokens "[a=\"b c\"]".toList) = selectorOf (tokens "[a=\"b  c\"]".toList) ∧
    selectorOf (tokens ".\\31 a".toList) = selectorOf (tokens ".\\31  a".toList) := by
  decide +kernel

end ClassAtlas.Stylesheet
