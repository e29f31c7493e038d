/-
Parties racing for one handle. A party moves in indivisible steps; marking a build as failed takes
two of them, the check and the error that is brought afterwards, and between the two anybody else
may move. A build that was spawned ends, or is broken off, at any later step.

What a move does to the state of the handle is said once (`turn_state`): outside a build only a
move that starts one changes it, and during a build only a result that is brought.
-/
import ClassAtlas.Proofs.Build.Handle
import Mathlib.Tactic.ByContra

namespace ClassAtlas.Build

/-- One indivisible step of a party. The second half of a failure is for the `n`-th of the errors
that are still to be brought. -/
inductive Move (Ticket : Type)
  | start
  | publish (result : Except IndexError Index)
  | check (e : IndexError)
  | bring (n : Nat)
  | spawn (sheet : Sheet) (css : String)
  | finish
  | interrupt (text : String)
  | wait (t : Ticket)

/-- A handle, and the errors whose check has passed and which are still to be brought. -/
structure Race (Ticket : Type) where
  handle : Handle Ticket
  failing : List IndexError

/-- A move, what it starts from and what it comes to; the value is what the party is told. -/
structure Turn (Ticket : Type) where
  before : Race Ticket
  move : Move Ticket
  after : Race Ticket
  events : List Event
  released : List Ticket
  value : Bool

namespace Race

variable {Ticket : Type}

/-- A new handle that nobody has touched. -/
def new : Race Ticket := ⟨.new, []⟩

/-- The turn of a move that comes to a change of the handle. -/
def turnOf {α : Type} (r : Race Ticket) (m : Move Ticket) (change : Change Ticket α)
    (failing : List IndexError) (value : Bool) : Turn Ticket :=
  ⟨r, m, ⟨change.handle, failing⟩, change.events, change.released, value⟩

/-- One move. A failure whose check finds a build going on has its error still to be brought; to
bring an error that is not there is no move at all. -/
def turn (r : Race Ticket) (m : Move Ticket) : Turn Ticket :=
  match m with
  | .start => let c := r.handle.start; r.turnOf m c r.failing c.value
  | .publish result => r.turnOf m (r.handle.publish result) r.failing false
  | .check e =>
    let c := r.handle.prepareFailure
    r.turnOf m c (if c.value then r.failing ++ [e] else r.failing) c.value
  | .bring n =>
    match r.failing[n]? with
    | none => ⟨r, m, r, [], [], false⟩
    | some e => r.turnOf m (r.handle.publish (.error e)) (r.failing.eraseIdx n) false
  | .spawn sheet css => let c := r.handle.spawn sheet css; r.turnOf m c r.failing c.value
  | .finish => let c := r.handle.run; r.turnOf m c r.failing c.value
  | .interrupt text => let c := r.handle.interrupt text; r.turnOf m c r.failing c.value
  | .wait t => r.turnOf m (r.handle.wait t) r.failing false

/-- The turns of some moves, one after the other. -/
def turns (r : Race Ticket) : List (Move Ticket) → List (Turn Ticket)
  | [] => []
  | m :: ms => r.turn m :: (r.turn m).after.turns ms

end Race

namespace Turn

variable {Ticket : Type}

/-- The state of the handle before a turn. -/
def stateBefore (t : Turn Ticket) : State := t.before.handle.state

/-- The state of the handle after a turn. -/
def stateAfter (t : Turn Ticket) : State := t.after.handle.state

/-- The result that a turn brings to the handle, whatever becomes of it there. -/
def brought? (t : Turn Ticket) : Option (Except IndexError Index) :=
  match t.move with
  | .publish result => some result
  | .bring n => t.before.failing[n]?.map .error
  | .finish => t.before.handle.job.map fun (sheet, css) => (Index.ofText sheet css).1
  | .interrupt text => t.before.handle.job.map fun _ => .error (.interrupted text)
  | _ => none

/-- Whether a party asked for a build to be started and is told that it was. -/
def reportsStart (t : Turn Ticket) : Bool :=
  match t.move with
  | .start | .spawn _ _ => t.value
  | _ => false

/-- Whether a move starts a build where there was none. -/
def wouldStart (t : Turn Ticket) : Bool :=
  match t.move with
  | .start | .spawn _ _ | .check _ => true
  | _ => false

end Turn

/-! ## What a turn does to the state -/

section Turn

variable {Ticket : Type} (r : Race Ticket) (m : Move Ticket)

@[simp] theorem turn_before : (r.turn m).before = r := by
  cases m with
  | bring n => unfold Race.turn; dsimp only; split <;> rfl
  | _ => rfl

@[simp] theorem turn_stateBefore : (r.turn m).stateBefore = r.handle.state := by
  cases m with
  | bring n => unfold Race.turn; dsimp only; split <;> rfl
  | _ => rfl

@[simp] theorem turn_move : (r.turn m).move = m := by
  cases m with
  | bring n => unfold Race.turn; dsimp only; split <;> rfl
  | _ => rfl

/-- A handle that nobody has started is changed only by a move that starts it. -/
theorem turn_unstarted (hs : r.handle.state = .unstarted) :
    (r.turn m).stateAfter = if (r.turn m).wouldStart then .building else .unstarted := by
  have hn : r.handle.state ≠ .building := by rw [hs]; nofun
  cases m with
  | start => simp [Race.turn, Race.turnOf, Turn.stateAfter, Turn.wouldStart, start_unstarted _ hs]
  | publish result =>
    simp [Race.turn, Race.turnOf, Turn.stateAfter, Turn.wouldStart, publish_idle _ hn, hs]
  | check e =>
    simp [Race.turn, Race.turnOf, Turn.stateAfter, Turn.wouldStart, Handle.prepareFailure, start_unstarted _ hs]
  | bring n =>
    rw [show (r.turn (.bring n)).wouldStart = false by simp [Turn.wouldStart]]
    cases hf : r.failing[n]? with
    | none => simp [Race.turn, Turn.stateAfter, hf, hs]
    | some e => simp [Race.turn, Race.turnOf, Turn.stateAfter, hf, publish_idle _ hn, hs]
  | spawn sheet css =>
    simp [Race.turn, Race.turnOf, Turn.stateAfter, Turn.wouldStart, spawn_unstarted _ hs]
  | finish => exact (conclude_state_idle _ hn).trans hs
  | interrupt text => exact (conclude_state_idle _ hn).trans hs
  | wait t => exact (wait_state _ t).trans hs

/-- A build that is going on is ended by the first result that is brought, and by nothing else. -/
theorem turn_building (hs : r.handle.state = .building) :
    (r.turn m).stateAfter =
      match (r.turn m).brought? with
      | some result => .ofResult result
      | none => .building := by
  have hn : r.handle.state ≠ .unstarted := by rw [hs]; nofun
  cases m with
  | start => simp [Race.turn, Race.turnOf, Turn.stateAfter, Turn.brought?, start_started _ hn, hs]
  | publish result => simp [Race.turn, Race.turnOf, Turn.stateAfter, Turn.brought?, publish_building _ hs]
  | check e =>
    simp [Race.turn, Race.turnOf, Turn.stateAfter, Turn.brought?, prepareFailure_started _ hn, hs]
  | bring n =>
    cases hf : r.failing[n]? with
    | none => simp [Race.turn, Turn.stateAfter, Turn.brought?, hf, hs]
    | some e => simp [Race.turn, Race.turnOf, Turn.stateAfter, Turn.brought?, hf, publish_building _ hs]
  | spawn sheet css =>
    simp [Race.turn, Race.turnOf, Turn.stateAfter, Turn.brought?, spawn_started _ hn, hs]
  | finish => exact conclude_state_building _ hs
  | interrupt text => exact conclude_state_building _ hs
  | wait t => exact (wait_state _ t).trans hs

/-- A build that has ended stays as it is. -/
theorem turn_over (hs : r.handle.state.isOver = true) : (r.turn m).stateAfter = r.handle.state := by
  obtain ⟨hn', hn⟩ := ne_of_isOver hs
  cases m with
  | start => simp [Race.turn, Race.turnOf, Turn.stateAfter, start_started _ hn']
  | publish result => simp [Race.turn, Race.turnOf, Turn.stateAfter, publish_idle _ hn]
  | check e => simp [Race.turn, Race.turnOf, Turn.stateAfter, prepareFailure_started _ hn']
  | bring n =>
    cases hf : r.failing[n]? with
    | none => simp [Race.turn, Turn.stateAfter, hf]
    | some e => simp [Race.turn, Race.turnOf, Turn.stateAfter, hf, publish_idle _ hn]
  | spawn sheet css => simp [Race.turn, Race.turnOf, Turn.stateAfter, spawn_started _ hn']
  | finish => exact conclude_state_idle _ hn
  | interrupt text => exact conclude_state_idle _ hn
  | wait t => exact wait_state _ t

/-- A handle that somebody has started remains so. -/
theorem turn_started (hs : r.handle.state ≠ .unstarted) : (r.turn m).stateAfter ≠ .unstarted := by
  cases h : r.handle.state with
  | unstarted => exact absurd h hs
  | building =>
    rw [turn_building r m h]
    split
    · exact ofResult_ne_unstarted _
    · nofun
  | ready i => rw [turn_over r m (by rw [h]; rfl), h]; nofun
  | failed e => rw [turn_over r m (by rw [h]; rfl), h]; nofun

/-- Only a handle that nobody has started can be reported as started. -/
theorem unstarted_of_reportsStart (h : (r.turn m).reportsStart = true) : r.handle.state = .unstarted := by
  by_contra hs
  cases m with
  | start => simp [Turn.reportsStart, Race.turn, Race.turnOf, start_started _ hs] at h
  | spawn sheet css => simp [Turn.reportsStart, Race.turn, Race.turnOf, spawn_started _ hs] at h
  | _ => simp [Turn.reportsStart] at h

theorem wouldStart_of_reportsStart (h : (r.turn m).reportsStart = true) : (r.turn m).wouldStart = true := by
  cases m <;> simp_all [Turn.reportsStart, Turn.wouldStart]

/-- The check of a failure that finds the build ended does nothing. -/
theorem turn_check_over (hs : r.handle.state.isOver = true) (e : IndexError) :
    r.turn (.check e) = ⟨r, .check e, r, [], [], false⟩ := by
  have hn := (ne_of_isOver hs).1
  have hb : r.handle.state.isBuilding = false := by
    cases h : r.handle.state <;> simp_all [State.isOver, State.isBuilding]
  simp [Race.turn, Race.turnOf, prepareFailure_started _ hn, hb]

/-- A failure that nobody comes between is its two halves, one after the other. -/
theorem fail_eq_halves (e : IndexError) :
    (r.handle.fail e).handle =
      if (r.turn (.check e)).value then
        ((r.turn (.check e)).after.turn (.bring r.failing.length)).after.handle
      else (r.turn (.check e)).after.handle := by
  unfold Handle.fail
  simp only [Race.turn, Race.turnOf]
  split
  · simp
  · rfl

end Turn

/-! ## What a turn leaves to be brought -/

section Pending

variable {Ticket : Type}

/-- A job was there before, or is that of a party that is told that it started the build. -/
theorem turn_job {r : Race Ticket} {m : Move Ticket} {job : Sheet × String}
    (hj : (r.turn m).after.handle.job = some job) :
    r.handle.job = some job ∨ m = .spawn job.1 job.2 ∧ (r.turn m).value = true := by
  cases m with
  | start => exact .inl ((start_job _).symm.trans hj)
  | publish result => exact .inl ((publish_job _ _).symm.trans hj)
  | check e => exact .inl ((start_job _).symm.trans hj)
  | bring n =>
    unfold Race.turn at hj
    dsimp only at hj
    split at hj
    · exact .inl hj
    · exact .inl ((publish_job _ _).symm.trans hj)
  | spawn sheet css =>
    by_cases hs : r.handle.state = .unstarted
    · simp only [Race.turn, Race.turnOf, spawn_unstarted _ hs, Option.some.injEq] at hj ⊢
      cases hj
      exact .inr ⟨rfl, trivial⟩
    · simp only [Race.turn, Race.turnOf, spawn_started _ hs] at hj
      exact .inl hj
  | finish => cases (conclude_job _).symm.trans hj
  | interrupt text => cases (conclude_job _).symm.trans hj
  | wait t => exact .inl ((wait_job _ _).symm.trans hj)

/-- An error still to be brought was so before, or has just passed its check. -/
theorem turn_failing {r : Race Ticket} {m : Move Ticket} {e : IndexError}
    (he : e ∈ (r.turn m).after.failing) : e ∈ r.failing ∨ m = .check e ∧ (r.turn m).value = true := by
  cases m with
  | check e' =>
    simp only [Race.turn, Race.turnOf] at he ⊢
    split at he
    · next hv =>
      rcases List.mem_append.1 he with h | h
      · exact .inl h
      · rw [List.mem_singleton.1 h]; exact .inr ⟨rfl, hv⟩
    · exact .inl he
  | bring n =>
    unfold Race.turn at he
    dsimp only at he
    split at he
    · exact .inl he
    · exact .inl (List.mem_of_mem_eraseIdx he)
  | _ => exact .inl he

end Pending

/-! ## What a turn logs -/

/-- A turn tells that a result is ignored if it brings one outside a build, once, and not otherwise. -/
theorem turn_ignored {Ticket : Type} (r : Race Ticket) (m : Move Ticket) :
    (r.turn m).events.count .resultIgnored =
      if r.handle.state.isBuilding = false ∧ (r.turn m).brought?.isSome then 1 else 0 := by
  cases m with
  | start => simp [Race.turn, Race.turnOf, Turn.brought?, start_events]
  | publish result =>
    simp only [Race.turn, Race.turnOf, Turn.brought?, publish_ignored]
    cases r.handle.state.isBuilding <;> simp
  | check e => simp [Race.turn, Race.turnOf, Turn.brought?, Handle.prepareFailure, start_events]
  | bring n =>
    cases hf : r.failing[n]? with
    | none => simp [Race.turn, Turn.brought?, hf]
    | some e =>
      simp only [Race.turn, Race.turnOf, Turn.brought?, hf, publish_ignored]
      cases r.handle.state.isBuilding <;> simp
  | spawn sheet css => simp [Race.turn, Race.turnOf, Turn.brought?, spawn_events]
  | finish =>
    rw [show (r.turn .finish).brought?.isSome = r.handle.job.isSome by
      simp [Race.turn, Race.turnOf, Turn.brought?]]
    exact conclude_ignored r.handle ofText_quiet
  | interrupt text =>
    rw [show (r.turn (.interrupt text)).brought?.isSome = r.handle.job.isSome by
      simp [Race.turn, Race.turnOf, Turn.brought?]]
    exact conclude_ignored r.handle (by simp)
  | wait t => simp [Race.turn, Race.turnOf, Turn.brought?, wait_events]

end ClassAtlas.Build
