/-
A handle is built once. However parties race for a new handle, its states run through unstarted,
building, and what one result leads to; that result is the first that is brought while a build is
going on, and every other one is dropped with a warning (`races_build_once`).

The proof follows the three phases backwards: a build that is over stays as it is, one that is
going on stays so until its first result, and an unstarted one until somebody starts it.
-/
import ClassAtlas.Proofs.Build.Race

namespace ClassAtlas.Build

variable {Ticket : Type}

/-- The result that a turn brings while a build is going on. -/
def Turn.accepted? (t : Turn Ticket) : Option (Except IndexError Index) :=
  if t.stateBefore.isBuilding then t.brought? else none

/-- The results brought while a build is going on, in the order in which they are brought. -/
def accepted (ts : List (Turn Ticket)) : List (Except IndexError Index) :=
  ts.filterMap Turn.accepted?

/-- What it means for the turns of a new handle that it is built once. -/
structure BuiltOnce (ts : List (Turn Ticket)) : Prop where
  /-- The states are unstarted, then building, then what one result leads to, no phase being passed
  over; there is a last phase exactly if a result was accepted, and then it was that one alone. -/
  phases : ∃ (unstarted building ended : Nat) (result : Except IndexError Index),
    .unstarted :: ts.map Turn.stateAfter =
        List.replicate (unstarted + 1) .unstarted ++ List.replicate building .building ++
          List.replicate ended (.ofResult result) ∧
      (ended ≠ 0 → building ≠ 0) ∧ accepted ts = if ended = 0 then [] else [result]
  /-- At most one party is told that it started the build. -/
  starts : (ts.filter Turn.reportsStart).length ≤ 1
  /-- A result brought outside a build changes nothing and is warned of once. -/
  dropped : ∀ t ∈ ts, t.stateBefore.isBuilding = false → t.brought?.isSome →
    t.stateAfter = t.stateBefore ∧ t.events.count .resultIgnored = 1
  /-- There are no other such warnings. -/
  quiet : ∀ t ∈ ts, t.stateBefore.isBuilding = true ∨ t.brought? = none →
    t.events.count .resultIgnored = 0
  /-- A failure whose check finds the build ended does nothing at all, now or later. -/
  lateFailure : ∀ t ∈ ts, ∀ e, t.move = .check e → t.stateBefore.isOver = true →
    t.after = t.before ∧ t.events = [] ∧ t.released = []
  /-- Nothing is brought out of nowhere: a build that can end was spawned by a party that was told
  so, and an error still to be brought has passed its check. -/
  origins : ∀ earlier t later, ts = earlier ++ t :: later →
    (∀ job, t.before.handle.job = some job → ∃ s ∈ earlier, s.move = .spawn job.1 job.2 ∧ s.value = true) ∧
      ∀ e ∈ t.before.failing, ∃ s ∈ earlier, s.move = .check e ∧ s.value = true
  /-- When the build has ended, neither its state nor its index changes any more. -/
  settled : ∀ t ∈ ts, t.stateBefore.isOver = true →
    t.stateAfter = t.stateBefore ∧ t.stateAfter.index? = t.stateBefore.index?

/-! ## The three phases, the last one first -/

theorem turn_after_state (r : Race Ticket) (m : Move Ticket) :
    (r.turn m).after.handle.state = (r.turn m).stateAfter := rfl

theorem turns_over {r : Race Ticket} (hs : r.handle.state.isOver = true) (ms : List (Move Ticket)) :
    (r.turns ms).map Turn.stateAfter = List.replicate ms.length r.handle.state ∧ accepted (r.turns ms) = [] := by
  induction ms generalizing r with
  | nil => exact ⟨rfl, rfl⟩
  | cons m ms ih =>
    have hm := turn_over r m hs
    obtain ⟨h1, h2⟩ := ih (r := (r.turn m).after) (by rw [turn_after_state, hm]; exact hs)
    rw [turn_after_state, hm] at h1
    have hb : r.handle.state.isBuilding = false := by
      cases h : r.handle.state <;> simp_all [State.isOver, State.isBuilding]
    refine ⟨by simp [Race.turns, h1, hm, List.replicate_succ], ?_⟩
    have hn : (r.turn m).accepted? = none := by simp [Turn.accepted?, hb]
    unfold accepted at h2 ⊢
    rw [Race.turns, List.filterMap_cons_none hn, h2]

theorem turns_building {r : Race Ticket} (hs : r.handle.state = .building) (ms : List (Move Ticket)) :
    ∃ (building ended : Nat) (result : Except IndexError Index),
      (r.turns ms).map Turn.stateAfter =
          List.replicate building .building ++ List.replicate ended (.ofResult result) ∧
        accepted (r.turns ms) = if ended = 0 then [] else [result] := by
  induction ms generalizing r with
  | nil => exact ⟨0, 0, .error (.interrupted ""), rfl, rfl⟩
  | cons m ms ih =>
    have hm := turn_building r m hs
    have ha : (r.turn m).accepted? = (r.turn m).brought? := by
      simp [Turn.accepted?, hs, State.isBuilding]
    cases hb : (r.turn m).brought? with
    | none =>
      rw [hb] at hm ha
      obtain ⟨b, o, result, h1, h2⟩ := ih (r := (r.turn m).after) (by rw [turn_after_state, hm])
      refine ⟨b + 1, o, result, by simp [Race.turns, h1, hm, List.replicate_succ], ?_⟩
      unfold accepted at h2 ⊢
      rw [Race.turns, List.filterMap_cons_none ha, h2]
    | some result =>
      rw [hb] at hm ha
      obtain ⟨h1, h2⟩ := turns_over (r := (r.turn m).after)
        (by rw [turn_after_state, hm]; exact (isOver_iff _).2 ⟨result, rfl⟩) ms
      rw [turn_after_state, hm] at h1
      refine ⟨0, ms.length + 1, result, by simp [Race.turns, h1, hm, List.replicate_succ], ?_⟩
      unfold accepted at h2 ⊢
      rw [Race.turns, List.filterMap_cons_some ha, h2]
      simp

theorem turns_unstarted {r : Race Ticket} (hs : r.handle.state = .unstarted) (ms : List (Move Ticket)) :
    ∃ (unstarted building ended : Nat) (result : Except IndexError Index),
      (r.turns ms).map Turn.stateAfter =
          List.replicate unstarted .unstarted ++ List.replicate building .building ++
            List.replicate ended (.ofResult result) ∧
        (ended ≠ 0 → building ≠ 0) ∧ accepted (r.turns ms) = if ended = 0 then [] else [result] := by
  induction ms generalizing r with
  | nil => exact ⟨0, 0, 0, .error (.interrupted ""), rfl, by simp, rfl⟩
  | cons m ms ih =>
    have hm := turn_unstarted r m hs
    -- what is brought before the start is not accepted
    have ha : (r.turn m).accepted? = none := by simp [Turn.accepted?, hs, State.isBuilding]
    cases hw : (r.turn m).wouldStart with
    | false =>
      rw [hw] at hm
      obtain ⟨u, b, o, result, h1, h2, h3⟩ := ih (r := (r.turn m).after) (by rw [turn_after_state, hm]; rfl)
      refine ⟨u + 1, b, o, result, by simp [Race.turns, h1, hm, List.replicate_succ], h2, ?_⟩
      unfold accepted at h3 ⊢
      rw [Race.turns, List.filterMap_cons_none ha, h3]
    | true =>
      rw [hw] at hm
      obtain ⟨b, o, result, h1, h3⟩ := turns_building (r := (r.turn m).after) (by rw [turn_after_state, hm]; rfl) ms
      refine ⟨0, b + 1, o, result, by simp [Race.turns, h1, hm, List.replicate_succ], by simp, ?_⟩
      unfold accepted at h3 ⊢
      rw [Race.turns, List.filterMap_cons_none ha, h3]

/-! ## Starts -/

theorem starts_of_started {r : Race Ticket} (hs : r.handle.state ≠ .unstarted) (ms : List (Move Ticket)) :
    (r.turns ms).filter Turn.reportsStart = [] := by
  induction ms generalizing r with
  | nil => rfl
  | cons m ms ih =>
    have hr : ¬ (r.turn m).reportsStart = true := fun h => hs (unstarted_of_reportsStart r m h)
    rw [Race.turns, List.filter_cons_of_neg hr]
    apply ih
    rw [turn_after_state]
    exact turn_started r m hs

theorem starts_le_one (r : Race Ticket) (ms : List (Move Ticket)) :
    ((r.turns ms).filter Turn.reportsStart).length ≤ 1 := by
  induction ms generalizing r with
  | nil => exact Nat.zero_le 1
  | cons m ms ih =>
    by_cases hr : (r.turn m).reportsStart = true
    · have hs := unstarted_of_reportsStart r m hr
      have hm := turn_unstarted r m hs
      rw [wouldStart_of_reportsStart r m hr] at hm
      rw [Race.turns, List.filter_cons_of_pos hr,
        starts_of_started (r := (r.turn m).after) (by rw [turn_after_state, hm]; nofun)]
      exact Nat.le_refl 1
    · rw [Race.turns, List.filter_cons_of_neg hr]
      exact ih _

/-! ## Where jobs and errors come from -/

/-- The jobs and errors of a situation each have a turn in which they came up. -/
def Accounted (earlier : List (Turn Ticket)) (r : Race Ticket) : Prop :=
  (∀ job, r.handle.job = some job → ∃ s ∈ earlier, s.move = .spawn job.1 job.2 ∧ s.value = true) ∧
    ∀ e ∈ r.failing, ∃ s ∈ earlier, s.move = .check e ∧ s.value = true

theorem accounted_turn {earlier : List (Turn Ticket)} {r : Race Ticket} (h : Accounted earlier r)
    (m : Move Ticket) : Accounted (earlier ++ [r.turn m]) (r.turn m).after := by
  obtain ⟨hj, hf⟩ := h
  constructor
  · intro job hjob
    rcases turn_job hjob with h | h
    · obtain ⟨s, hs, hm⟩ := hj job h
      exact ⟨s, List.mem_append_left _ hs, hm⟩
    · exact ⟨r.turn m, by simp, by rw [turn_move]; exact h⟩
  · intro e he
    rcases turn_failing he with h | h
    · obtain ⟨s, hs, hm⟩ := hf e h
      exact ⟨s, List.mem_append_left _ hs, hm⟩
    · exact ⟨r.turn m, by simp, by rw [turn_move]; exact h⟩

theorem accounted_turns {done : List (Turn Ticket)} {r : Race Ticket} (h : Accounted done r)
    (ms : List (Move Ticket)) {earlier later : List (Turn Ticket)} {t : Turn Ticket}
    (ht : r.turns ms = earlier ++ t :: later) : Accounted (done ++ earlier) t.before := by
  induction ms generalizing done r earlier with
  | nil => cases earlier <;> cases ht
  | cons m ms ih =>
    cases earlier with
    | nil =>
      cases ht
      rw [List.append_nil, turn_before]
      exact h
    | cons s earlier =>
      obtain ⟨rfl, ht'⟩ := List.cons.inj ht
      rw [List.append_cons]
      exact ih (accounted_turn h m) ht'

/-! ## Every turn -/

/-- Every turn of a race is a move in some situation. -/
theorem mem_turns {r : Race Ticket} {ms : List (Move Ticket)} {t : Turn Ticket} (h : t ∈ r.turns ms) :
    ∃ r' m, t = Race.turn r' m := by
  induction ms generalizing r with
  | nil => cases h
  | cons m ms ih =>
    rcases List.mem_cons.1 h with rfl | h
    · exact ⟨r, m, rfl⟩
    · exact ih h

theorem turn_idle {r : Race Ticket} {m : Move Ticket} (hb : r.handle.state.isBuilding = false)
    (hr : (r.turn m).brought?.isSome = true) : (r.turn m).stateAfter = r.handle.state := by
  cases h : r.handle.state with
  | unstarted =>
    have hw : (r.turn m).wouldStart = false := by
      cases m <;> simp_all [Turn.brought?, Turn.wouldStart]
    rw [turn_unstarted r m h, hw]; rfl
  | building => rw [h] at hb; cases hb
  | ready i => rw [turn_over r m (by rw [h]; rfl), h]
  | failed e => rw [turn_over r m (by rw [h]; rfl), h]

/-- However many parties race for a new handle, in whatever order their moves come: it is built
once. -/
theorem races_build_once (ms : List (Move Ticket)) : BuiltOnce (Race.new.turns ms) where
  phases := by
    obtain ⟨u, b, o, result, h1, h2, h3⟩ := turns_unstarted (r := (.new : Race Ticket)) rfl ms
    exact ⟨u, b, o, result, by rw [h1]; simp [List.replicate_succ], h2, h3⟩
  starts := starts_le_one _ ms
  dropped := by
    intro t ht hb hr
    obtain ⟨r, m, rfl⟩ := mem_turns ht
    rw [turn_stateBefore] at hb ⊢
    exact ⟨turn_idle hb hr, by rw [turn_ignored, if_pos ⟨hb, hr⟩]⟩
  quiet := by
    intro t ht h
    obtain ⟨r, m, rfl⟩ := mem_turns ht
    rw [turn_stateBefore] at h
    rw [turn_ignored, if_neg]
    rintro ⟨hb, hr⟩
    rcases h with h | h
    · rw [h] at hb; cases hb
    · rw [h] at hr; cases hr
  lateFailure := by
    intro t ht e hm ho
    obtain ⟨r, m, rfl⟩ := mem_turns ht
    rw [turn_move] at hm
    rw [turn_stateBefore] at ho
    subst hm
    rw [turn_check_over r ho e]
    exact ⟨rfl, rfl, rfl⟩
  origins := by
    intro earlier t later ht
    have h : Accounted [] (Race.new : Race Ticket) :=
      ⟨fun job hj => (by cases hj), fun e he => (by cases he)⟩
    exact accounted_turns h ms ht
  settled := by
    intro t ht ho
    obtain ⟨r, m, rfl⟩ := mem_turns ht
    rw [turn_stateBefore] at ho ⊢
    rw [turn_over r m ho]
    exact ⟨rfl, rfl⟩

/-- Of two parties that start, the first does, and of two results that are brought, the first makes the
handle ready. -/
example (i : Index) :
    ((Race.new : Race Nat).turns [.start, .start, .publish (.ok i), .publish (.error (.interrupted ""))]).map
        (fun t => (t.value, t.stateAfter)) =
      [(true, .building), (false, .building), (false, .ready i), (false, .ready i)] :=
  rfl

end ClassAtlas.Build
