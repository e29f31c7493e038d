/-
The operations of a handle, one by one: what each comes to before a build, during one and after
it. Whoever reasons about a handle goes by these and looks into no operation again.
-/
import ClassAtlas.Build

namespace ClassAtlas.Build

/-- Whether a build has come to its end. -/
def State.isOver : State → Bool
  | .ready _ | .failed _ => true
  | _ => false

/-- A state is over exactly if it is what some result leads to. -/
theorem isOver_iff (s : State) : s.isOver = true ↔ ∃ result, s = .ofResult result := by
  cases s with
  | unstarted => exact ⟨by simp [State.isOver], by rintro ⟨_ | _, h⟩ <;> cases h⟩
  | building => exact ⟨by simp [State.isOver], by rintro ⟨_ | _, h⟩ <;> cases h⟩
  | ready i => exact ⟨fun _ => ⟨.ok i, rfl⟩, fun _ => rfl⟩
  | failed e => exact ⟨fun _ => ⟨.error e, rfl⟩, fun _ => rfl⟩

theorem ofResult_ne_unstarted (result : Except IndexError Index) : State.ofResult result ≠ .unstarted := by
  cases result <;> nofun

theorem isBuilding_iff (s : State) : s.isBuilding = true ↔ s = .building := by
  cases s <;> simp [State.isBuilding]

theorem isBuilding_eq_false_iff (s : State) : s.isBuilding = false ↔ s ≠ .building := by
  rw [ne_eq, ← isBuilding_iff, Bool.not_eq_true]

theorem index?_ofResult (result : Except IndexError Index) : (State.ofResult result).index? = result.toOption := by
  cases result <;> rfl

theorem ne_of_isOver {s : State} (h : s.isOver = true) : s ≠ .unstarted ∧ s ≠ .building := by
  constructor <;> rintro rfl <;> cases h

section Operations

variable {Ticket : Type} (h : Handle Ticket)

/-! ## Starting and publishing -/

theorem start_unstarted (hs : h.state = .unstarted) :
    h.start = ⟨{ h with state := .building }, [], [], true⟩ := by
  unfold Handle.start; simp [hs, State.isUnstarted]

theorem start_started (hs : h.state ≠ .unstarted) : h.start = ⟨h, [], [], false⟩ := by
  unfold Handle.start State.isUnstarted
  cases hs' : h.state <;> simp_all

theorem start_job : h.start.handle.job = h.job := by
  unfold Handle.start; split <;> rfl

theorem publish_building (hb : h.state = .building) (result : Except IndexError Index) :
    h.publish result = ⟨{ h with state := .ofResult result, waiting := [] }, [], h.waiting, ()⟩ := by
  unfold Handle.publish; simp [hb, State.isBuilding]

theorem publish_idle (hb : h.state ≠ .building) (result : Except IndexError Index) :
    h.publish result = ⟨h, [.resultIgnored], [], ()⟩ := by
  unfold Handle.publish State.isBuilding
  cases hs : h.state <;> simp_all

theorem publish_job (result : Except IndexError Index) : (h.publish result).handle.job = h.job := by
  unfold Handle.publish; split <;> rfl

/-! ## Failing -/

theorem prepareFailure_started (hs : h.state ≠ .unstarted) :
    h.prepareFailure = ⟨h, [], [], h.state.isBuilding⟩ := by
  unfold Handle.prepareFailure; rw [start_started h hs]

theorem fail_over (hs : h.state.isOver = true) (e : IndexError) : h.fail e = ⟨h, [], [], ()⟩ := by
  unfold Handle.fail
  rw [prepareFailure_started h (ne_of_isOver hs).1]
  cases hs' : h.state <;> simp_all [State.isOver, State.isBuilding]

/-- Unless the build has ended, a failure ends it, having started it if need be. -/
theorem fail_open (hs : h.state.isOver = false) (e : IndexError) :
    h.fail e = ⟨{ h with state := .failed e, waiting := [] }, [], h.waiting, ()⟩ := by
  unfold Handle.fail Handle.prepareFailure
  cases hs' : h.state with
  | unstarted =>
    rw [start_unstarted h hs']
    exact publish_building { h with state := .building } rfl (.error e)
  | building =>
    rw [start_started h (by rw [hs']; nofun)]
    simp only [hs', State.isBuilding, if_true]
    exact publish_building h hs' (.error e)
  | ready i => rw [hs'] at hs; cases hs
  | failed e => rw [hs'] at hs; cases hs

/-! ## Spawned builds -/

theorem spawn_unstarted (hs : h.state = .unstarted) (sheet : Sheet) (css : String) :
    h.spawn sheet css = ⟨{ h with state := .building, job := some (sheet, css) }, [], [], true⟩ := by
  unfold Handle.spawn; rw [start_unstarted h hs]; rfl

theorem spawn_started (hs : h.state ≠ .unstarted) (sheet : Sheet) (css : String) :
    h.spawn sheet css = ⟨h, [], [], false⟩ := by
  unfold Handle.spawn; rw [start_started h hs]; rfl

section Conclude

variable {make : Sheet → String → Except IndexError Index × List Event}

theorem conclude_none (hj : h.job = none) : h.conclude make = ⟨h, [], [], false⟩ := by
  unfold Handle.conclude; rw [hj]

theorem conclude_building {sheet : Sheet} {css : String} (hj : h.job = some (sheet, css))
    (hb : h.state = .building) :
    h.conclude make =
      ⟨{ state := .ofResult (make sheet css).1, job := none, waiting := [] },
        (make sheet css).2 ++ Handle.outcomeEvents sheet (make sheet css).1, h.waiting, true⟩ := by
  unfold Handle.conclude
  rw [hj]
  dsimp only
  rw [publish_building { h with job := none } hb, List.append_nil]

theorem conclude_idle {sheet : Sheet} {css : String} (hj : h.job = some (sheet, css))
    (hb : h.state ≠ .building) :
    h.conclude make =
      ⟨{ h with job := none },
        (make sheet css).2 ++ Handle.outcomeEvents sheet (make sheet css).1 ++ [.resultIgnored], [], true⟩ := by
  unfold Handle.conclude
  rw [hj]
  dsimp only
  rw [publish_idle { h with job := none } hb]

theorem conclude_job : (h.conclude make).handle.job = none := by
  cases hj : h.job with
  | none => rw [conclude_none h hj]; exact hj
  | some j =>
    by_cases hb : h.state = .building
    · rw [conclude_building h hj hb]
    · rw [conclude_idle h hj hb]

/-- During a build a result that is concluded ends it, if there is a job to conclude. -/
theorem conclude_state_building (hb : h.state = .building) :
    (h.conclude make).handle.state =
      match h.job.map fun j => (make j.1 j.2).1 with
      | some result => .ofResult result
      | none => .building := by
  cases hj : h.job with
  | none => rw [conclude_none h hj]; exact hb
  | some j => rw [conclude_building h hj hb]; rfl

theorem conclude_state_idle (hb : h.state ≠ .building) : (h.conclude make).handle.state = h.state := by
  cases hj : h.job with
  | none => rw [conclude_none h hj]
  | some j => rw [conclude_idle h hj hb]

end Conclude

/-! ## Who is released -/

/-- A result that is concluded releases who has waited for it, and ends the build in doing so. -/
theorem mem_conclude_released {make : Sheet → String → Except IndexError Index × List Event} {t : Ticket}
    (ht : t ∈ (h.conclude make).released) :
    (h.conclude make).handle.state.isOver = true ∧ t ∈ h.waiting := by
  cases hj : h.job with
  | none => rw [conclude_none h hj] at ht; cases ht
  | some j =>
    by_cases hb : h.state = .building
    · rw [conclude_building h hj hb] at ht ⊢
      exact ⟨(isOver_iff _).2 ⟨_, rfl⟩, ht⟩
    · rw [conclude_idle h hj hb] at ht; cases ht

/-- So does a failure. -/
theorem mem_fail_released {e : IndexError} {t : Ticket} (ht : t ∈ (h.fail e).released) :
    (h.fail e).handle.state.isOver = true ∧ t ∈ h.waiting := by
  cases hs : h.state.isOver with
  | true => rw [fail_over h hs] at ht; cases ht
  | false =>
    rw [fail_open h hs] at ht ⊢
    exact ⟨rfl, ht⟩

theorem spawn_released (sheet : Sheet) (css : String) : (h.spawn sheet css).released = [] := by
  by_cases hs : h.state = .unstarted
  · rw [spawn_unstarted h hs]
  · rw [spawn_started h hs]

/-! ## Waiting -/

theorem wait_building (hb : h.state = .building) (t : Ticket) :
    h.wait t = ⟨{ h with waiting := h.waiting ++ [t] }, [], [], ()⟩ := by
  unfold Handle.wait; simp [hb, State.isBuilding]

theorem wait_idle (hb : h.state ≠ .building) (t : Ticket) : h.wait t = ⟨h, [], [t], ()⟩ := by
  unfold Handle.wait State.isBuilding
  cases hs : h.state <;> simp_all

theorem wait_state (t : Ticket) : (h.wait t).handle.state = h.state := by
  unfold Handle.wait; split <;> rfl

theorem wait_job (t : Ticket) : (h.wait t).handle.job = h.job := by
  unfold Handle.wait; split <;> rfl

/-- Who begins to wait releases nobody else. -/
theorem mem_wait_released {t u : Ticket} (hu : u ∈ (h.wait t).released) : u = t := by
  by_cases hb : h.state = .building
  · rw [wait_building h hb] at hu; cases hu
  · rw [wait_idle h hb] at hu; exact List.mem_singleton.1 hu

/-! ## What is logged -/

theorem start_events : h.start.events = [] := by
  unfold Handle.start; split <;> rfl

theorem spawn_events (sheet : Sheet) (css : String) : (h.spawn sheet css).events = [] := by
  unfold Handle.spawn; dsimp only; split <;> exact start_events h

theorem wait_events (t : Ticket) : (h.wait t).events = [] := by
  unfold Handle.wait; split <;> rfl

theorem publish_ignored (result : Except IndexError Index) :
    (h.publish result).events.count .resultIgnored = if h.state.isBuilding then 0 else 1 := by
  unfold Handle.publish; split <;> simp

theorem ofText_quiet (sheet : Sheet) (css : String) : Event.resultIgnored ∉ (Index.ofText sheet css).2 := by
  unfold Index.ofText
  cases Uri.ofPath? sheet.path with
  | none => simp
  | some uri =>
    dsimp only
    split
    · simp
    · split <;> simp

theorem outcomeEvents_quiet (sheet : Sheet) (result : Except IndexError Index) :
    Event.resultIgnored ∉ Handle.outcomeEvents sheet result := by
  cases result <;> simp [Handle.outcomeEvents]

/-- A build that ends warns once if its result is ignored, and not otherwise. -/
theorem conclude_ignored {make : Sheet → String → Except IndexError Index × List Event}
    (hm : ∀ sheet css, Event.resultIgnored ∉ (make sheet css).2) :
    (h.conclude make).events.count .resultIgnored =
      if h.state.isBuilding = false ∧ h.job.isSome then 1 else 0 := by
  cases hj : h.job with
  | none => rw [conclude_none h hj]; simp
  | some j =>
    have h1 := List.count_eq_zero_of_not_mem (hm j.1 j.2)
    have h2 := List.count_eq_zero_of_not_mem (outcomeEvents_quiet j.1 (make j.1 j.2).1)
    by_cases hb : h.state = .building
    · rw [conclude_building h hj hb]
      simp [h1, h2, hb, State.isBuilding]
    · have hb' : h.state.isBuilding = false := by
        cases hs : h.state <;> simp_all [State.isBuilding]
      rw [conclude_idle h hj hb]
      simp [h1, h2, hb']

end Operations

end ClassAtlas.Build
