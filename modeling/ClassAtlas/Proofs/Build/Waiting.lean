/-
Calls that wait for a build. A call that begins during a build is pending as long as the build is
going on; the turn that ends the build releases all calls that are pending, and a call that begins
at any other time is released at once. Whoever is released at the end of the build or later is told
the same (`waiters_served`).

The calls that are pending are told from the turns so far: they are those that began during the
build, in the order in which they began. Each turn keeps to that (`kept_turn`).
-/
import ClassAtlas.Proofs.Build.Once

namespace ClassAtlas.Build

variable {Ticket : Type}

namespace Turn

/-- The call that a turn begins. -/
def begins? (t : Turn Ticket) : Option Ticket :=
  match t.move with
  | .wait call => some call
  | _ => none

/-- The call that a turn begins while the build is going on. -/
def suspends? (t : Turn Ticket) : Option Ticket :=
  if t.stateBefore.isBuilding then t.begins? else none

/-- The calls that a turn releases, each with what it is told: the index that is there after the
turn. -/
def told (t : Turn Ticket) : List (Ticket × Option Index) :=
  t.released.map fun call => (call, t.stateAfter.index?)

end Turn

/-- What it means for the turns of a new handle that no call that waits is lost, and that all are
told the same. -/
structure WaitersServed (ts : List (Turn Ticket)) : Prop where
  /-- Pending after a turn are the calls that began during the build, if it is still going on. -/
  pending : ∀ earlier t later, ts = earlier ++ t :: later →
    t.after.handle.waiting = if t.stateAfter.isBuilding then (earlier ++ [t]).filterMap Turn.suspends? else []
  /-- While the build is going on no call is released. -/
  held : ∀ t ∈ ts, t.stateAfter.isBuilding = true → t.released = []
  /-- The turn that ends the build releases the calls that are pending. -/
  released : ∀ t ∈ ts, t.stateBefore.isBuilding = true → t.stateAfter.isBuilding = false →
    t.released = t.before.handle.waiting
  /-- A turn outside the build releases the call that it begins, if it begins one, and no other. That
  call is told the index that was there already: none if the build had not started or had failed. -/
  atOnce : ∀ t ∈ ts, t.stateBefore.isBuilding = false →
    t.told = t.begins?.toList.map fun call => (call, t.stateBefore.index?)
  /-- Each call that began so far was released once, or is pending. -/
  once : ∀ earlier t later, ts = earlier ++ t :: later →
    ((earlier ++ [t]).flatMap Turn.released ++ t.after.handle.waiting).Perm
      ((earlier ++ [t]).filterMap Turn.begins?)
  /-- From the turn that ends the build on, the index is what the result brought by that turn holds,
  and that is what every released call is told. -/
  agree : ∀ earlier t later, ts = earlier ++ t :: later → t.stateBefore.isBuilding = true →
    t.stateAfter.isBuilding = false → ∃ result, t.brought? = some result ∧
      ∀ u ∈ t :: later, u.stateAfter.index? = result.toOption ∧ ∀ a ∈ u.told, a.2 = result.toOption

/-! ## What a turn does to the calls -/

section Turn

variable (r : Race Ticket) (m : Move Ticket)

/-- Outside a build only the call that begins is released, and nobody begins to wait. -/
theorem turn_idle_calls (hs : r.handle.state ≠ .building) :
    (r.turn m).released = (r.turn m).begins?.toList ∧ (r.turn m).after.handle.waiting = r.handle.waiting := by
  have hstart : r.handle.start.released = [] ∧ r.handle.start.handle.waiting = r.handle.waiting := by
    unfold Handle.start; split <;> exact ⟨rfl, rfl⟩
  have hconclude : ∀ make, (r.handle.conclude make).released = [] ∧
      (r.handle.conclude make).handle.waiting = r.handle.waiting := by
    intro make
    cases hj : r.handle.job with
    | none => rw [conclude_none _ hj]; exact ⟨rfl, rfl⟩
    | some job => rw [conclude_idle _ hj hs]; exact ⟨rfl, rfl⟩
  cases m with
  | start => exact hstart
  | publish result => simp [Race.turn, Race.turnOf, Turn.begins?, publish_idle _ hs]
  | check e => exact hstart
  | bring n =>
    cases hf : r.failing[n]? with
    | none => simp [Race.turn, Turn.begins?, hf]
    | some e => simp [Race.turn, Race.turnOf, Turn.begins?, hf, publish_idle _ hs]
  | spawn sheet css =>
    by_cases hu : r.handle.state = .unstarted
    · simp [Race.turn, Race.turnOf, Turn.begins?, spawn_unstarted _ hu]
    · simp [Race.turn, Race.turnOf, Turn.begins?, spawn_started _ hu]
  | finish => exact hconclude _
  | interrupt text => exact hconclude _
  | wait call => simp [Race.turn, Race.turnOf, Turn.begins?, wait_idle _ hs]

/-- During a build a call that begins joins those that wait, until a result releases them all. -/
theorem turn_building_calls (hs : r.handle.state = .building) :
    ((r.turn m).brought? = none ∧ (r.turn m).released = [] ∧
      (r.turn m).after.handle.waiting = r.handle.waiting ++ (r.turn m).begins?.toList) ∨
    ((r.turn m).brought?.isSome ∧ (r.turn m).begins? = none ∧ (r.turn m).released = r.handle.waiting ∧
      (r.turn m).after.handle.waiting = []) := by
  have hn : r.handle.state ≠ .unstarted := by rw [hs]; nofun
  cases m with
  | start => left; simp [Race.turn, Race.turnOf, Turn.brought?, Turn.begins?, start_started _ hn]
  | publish result => right; simp [Race.turn, Race.turnOf, Turn.brought?, Turn.begins?, publish_building _ hs]
  | check e => left; simp [Race.turn, Race.turnOf, Turn.brought?, Turn.begins?, prepareFailure_started _ hn]
  | bring n =>
    cases hf : r.failing[n]? with
    | none => left; simp [Race.turn, Turn.brought?, Turn.begins?, hf]
    | some e => right; simp [Race.turn, Race.turnOf, Turn.brought?, Turn.begins?, hf, publish_building _ hs]
  | spawn sheet css => left; simp [Race.turn, Race.turnOf, Turn.brought?, Turn.begins?, spawn_started _ hn]
  | finish =>
    cases hj : r.handle.job with
    | none => left; simp [Race.turn, Race.turnOf, Turn.brought?, Turn.begins?, Handle.run, hj, conclude_none]
    | some job =>
      right; simp [Race.turn, Race.turnOf, Turn.brought?, Turn.begins?, Handle.run, hj, conclude_building _ hj hs]
  | interrupt text =>
    cases hj : r.handle.job with
    | none => left; simp [Race.turn, Race.turnOf, Turn.brought?, Turn.begins?, Handle.interrupt, hj, conclude_none]
    | some job =>
      right; simp [Race.turn, Race.turnOf, Turn.brought?, Turn.begins?, Handle.interrupt, hj, conclude_building _ hj hs]
  | wait call => left; simp [Race.turn, Race.turnOf, Turn.brought?, Turn.begins?, wait_building _ hs]

/-- To begin a call changes no state. -/
theorem stateAfter_of_begins? {call : Ticket} (h : (r.turn m).begins? = some call) :
    (r.turn m).stateAfter = r.handle.state := by
  cases m with
  | wait call => exact wait_state _ call
  | _ => simp [Turn.begins?] at h

end Turn

/-! ## Calls by the turns so far -/

/-- What the turns so far say of the calls that wait now. -/
structure Kept (earlier : List (Turn Ticket)) (r : Race Ticket) : Prop where
  /-- Until the build has ended, those wait that began during it. -/
  suspended : r.handle.state.isOver = false → r.handle.waiting = earlier.filterMap Turn.suspends?
  /-- Outside the build nobody waits. -/
  nobody : r.handle.state ≠ .building → r.handle.waiting = []
  /-- Each call that began was released once, or waits. -/
  once : (earlier.flatMap Turn.released ++ r.handle.waiting).Perm (earlier.filterMap Turn.begins?)

theorem kept_nil : Kept [] (Race.new : Race Ticket) :=
  ⟨fun _ => rfl, fun _ => rfl, .refl _⟩

theorem filterMap_concat {α β : Type} (f : α → Option β) (l : List α) (a : α) :
    (l ++ [a]).filterMap f = l.filterMap f ++ (f a).toList := by
  rw [List.filterMap_append]
  cases h : f a <;> simp [h]

/-- A turn outside the build: it may start the build, but makes nobody wait. -/
theorem Kept.idle {earlier : List (Turn Ticket)} {r : Race Ticket} (h : Kept earlier r)
    (hs : r.handle.state ≠ .building) (m : Move Ticket) :
    Kept (earlier ++ [r.turn m]) (r.turn m).after := by
  obtain ⟨hr, hw⟩ := turn_idle_calls r m hs
  have hn : (r.turn m).suspends? = none := by
    rw [Turn.suspends?, turn_stateBefore, (isBuilding_eq_false_iff _).2 hs]; rfl
  have hempty := h.nobody hs
  refine ⟨fun ho => ?_, fun _ => hw.trans hempty, ?_⟩
  · have ho' : r.handle.state.isOver = false := by
      cases ho' : r.handle.state.isOver with
      | false => rfl
      | true =>
        rw [turn_after_state, turn_over r m ho', ho'] at ho
        cases ho
    rw [hw, filterMap_concat, hn, Option.toList_none, List.append_nil, h.suspended ho']
  · have honce := h.once
    rw [hempty, List.append_nil] at honce
    rw [hw, hempty, filterMap_concat, List.flatMap_append, List.append_nil, List.flatMap_singleton, hr]
    exact honce.append_right _

/-- A turn of the build: it makes the call that it begins wait, or releases all calls that wait. -/
theorem Kept.building {earlier : List (Turn Ticket)} {r : Race Ticket} (h : Kept earlier r)
    (hs : r.handle.state = .building) (m : Move Ticket) :
    Kept (earlier ++ [r.turn m]) (r.turn m).after := by
  have hm := turn_building r m hs
  have honce := h.once
  have hcalls := h.suspended (by rw [hs]; rfl)
  rcases turn_building_calls r m hs with ⟨hb, hr, hw⟩ | ⟨hb, hn, hr, hw⟩
  · rw [hb] at hm
    have hsus : (r.turn m).suspends? = (r.turn m).begins? := by
      rw [Turn.suspends?, turn_stateBefore, hs]; rfl
    refine ⟨fun _ => ?_, fun hne => absurd hm hne, ?_⟩
    · rw [hw, filterMap_concat, hsus, hcalls]
    · rw [hw, filterMap_concat, List.flatMap_append, List.flatMap_singleton, hr, List.append_nil, ← List.append_assoc]
      exact honce.append_right _
  · obtain ⟨result, hb⟩ := Option.isSome_iff_exists.1 hb
    rw [hb] at hm
    refine ⟨fun ho => ?_, fun _ => hw, ?_⟩
    · rw [turn_after_state, hm, (isOver_iff _).2 ⟨result, rfl⟩] at ho
      cases ho
    · rw [hw, filterMap_concat, hn, List.flatMap_append, List.flatMap_singleton, hr]
      simpa using honce

/-- Every turn keeps to what the turns say of the calls. -/
theorem kept_turn {earlier : List (Turn Ticket)} {r : Race Ticket} (h : Kept earlier r) (m : Move Ticket) :
    Kept (earlier ++ [r.turn m]) (r.turn m).after := by
  by_cases hs : r.handle.state = .building
  · exact h.building hs m
  · exact h.idle hs m

/-- At every turn of a run the turns before it say which calls wait; the turns behind it go on from
what it comes to. -/
theorem kept_turns {done : List (Turn Ticket)} {r : Race Ticket} (h : Kept done r) (ms : List (Move Ticket))
    {earlier later : List (Turn Ticket)} {t : Turn Ticket} (ht : r.turns ms = earlier ++ t :: later) :
    ∃ r' m ms', t = Race.turn r' m ∧ later = t.after.turns ms' ∧ Kept (done ++ earlier) r' := by
  induction ms generalizing done r earlier with
  | nil => cases earlier <;> cases ht
  | cons m ms ih =>
    cases earlier with
    | nil =>
      cases ht
      exact ⟨r, m, ms, rfl, rfl, by rwa [List.append_nil]⟩
    | cons s earlier =>
      obtain ⟨rfl, ht'⟩ := List.cons.inj ht
      rw [List.append_cons]
      exact ih (kept_turn h m) ht'

/-- Once the build has ended, the state stays. -/
theorem stateAfter_of_mem_turns {r : Race Ticket} (hs : r.handle.state.isOver = true) {ms : List (Move Ticket)}
    {u : Turn Ticket} (hu : u ∈ r.turns ms) : u.stateAfter = r.handle.state := by
  have h := List.mem_map_of_mem (f := Turn.stateAfter) hu
  rw [(turns_over hs ms).1] at h
  exact List.eq_of_mem_replicate h

/-- However many calls wait for a new handle, from whatever moment on, and whatever else is done to
it: none of them is lost, and all are told the same. -/
theorem waiters_served (ms : List (Move Ticket)) : WaitersServed (Race.new.turns ms) where
  pending := by
    intro earlier t later ht
    obtain ⟨r, m, -, rfl, -, h⟩ := kept_turns kept_nil ms ht
    have hk := kept_turn h m
    rw [List.nil_append] at hk
    cases hb : (r.turn m).stateAfter.isBuilding with
    | true =>
      rw [if_pos rfl]
      refine hk.suspended ?_
      rw [turn_after_state, (isBuilding_iff _).1 hb]
      rfl
    | false =>
      rw [if_neg Bool.false_ne_true]
      exact hk.nobody ((isBuilding_eq_false_iff _).1 hb)
  held := by
    intro t ht hb
    obtain ⟨r, m, rfl⟩ := mem_turns ht
    rw [isBuilding_iff] at hb
    by_cases hs : r.handle.state = .building
    · rcases turn_building_calls r m hs with ⟨-, hr, -⟩ | ⟨hr, -⟩
      · exact hr
      · obtain ⟨result, hr⟩ := Option.isSome_iff_exists.1 hr
        rw [turn_building r m hs, hr] at hb
        cases result <;> cases hb
    · rw [(turn_idle_calls r m hs).1]
      cases hc : (r.turn m).begins? with
      | none => rfl
      | some call => exact absurd ((stateAfter_of_begins? r m hc).symm.trans hb) hs
  released := by
    intro t ht hb ha
    obtain ⟨r, m, rfl⟩ := mem_turns ht
    rw [turn_stateBefore, isBuilding_iff] at hb
    rw [isBuilding_eq_false_iff, turn_building r m hb] at ha
    rw [turn_before]
    rcases turn_building_calls r m hb with ⟨hr, -⟩ | ⟨-, -, hr, -⟩
    · rw [hr] at ha
      exact absurd rfl ha
    · exact hr
  atOnce := by
    intro t ht hb
    obtain ⟨r, m, rfl⟩ := mem_turns ht
    rw [turn_stateBefore] at hb ⊢
    rw [Turn.told, (turn_idle_calls r m ((isBuilding_eq_false_iff _).1 hb)).1]
    cases hc : (r.turn m).begins? with
    | none => rfl
    | some call => rw [stateAfter_of_begins? r m hc]
  once := by
    intro earlier t later ht
    obtain ⟨r, m, -, rfl, -, h⟩ := kept_turns kept_nil ms ht
    exact (kept_turn h m).once
  agree := by
    intro earlier t later ht hb ha
    obtain ⟨r, m, ms', rfl, rfl, -⟩ := kept_turns kept_nil ms ht
    rw [turn_stateBefore, isBuilding_iff] at hb
    have hm := turn_building r m hb
    cases hr : (r.turn m).brought? with
    | none =>
      rw [hr] at hm
      rw [hm] at ha
      cases ha
    | some result =>
      rw [hr] at hm
      have hover : (r.turn m).after.handle.state.isOver = true := by
        rw [turn_after_state, hm]
        exact (isOver_iff _).2 ⟨result, rfl⟩
      have hstate : ∀ u ∈ r.turn m :: (r.turn m).after.turns ms', u.stateAfter = .ofResult result := by
        intro u hu
        rcases List.mem_cons.1 hu with rfl | hu
        · exact hm
        · rw [stateAfter_of_mem_turns hover hu, turn_after_state, hm]
      refine ⟨result, rfl, fun u hu => ?_⟩
      have hindex := congrArg State.index? (hstate u hu)
      rw [index?_ofResult] at hindex
      refine ⟨hindex, fun a ha => ?_⟩
      obtain ⟨call, -, rfl⟩ := List.mem_map.1 ha
      exact hindex

/-- A call that waits during a build is told of the index when it is ready, one that comes later at once. -/
example (i : Index) :
    ((Race.new : Race Nat).turns [.start, .wait 0, .publish (.ok i), .wait 1]).map Turn.told =
      [[], [], [(0, some i)], [(1, some i)]] :=
  rfl

end ClassAtlas.Build
