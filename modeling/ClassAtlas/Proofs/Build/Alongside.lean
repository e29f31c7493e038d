/-
Those who wait do not matter to a build. While a build is going on, whatever is done to a handle
does the same whether anybody waits or not; those who wait go on waiting, in front of whoever begins
to wait now, or are released if the build ends (`Framed`). At any time only calls that waited are released,
and nobody is made to wait but who begins to (`Among`). At any time, too, handles that have come equally far go
on to come equally far, whoever waits for them (`AsFar`). There is one lemma for each operation.
-/
import ClassAtlas.Proofs.Build.Handle

namespace ClassAtlas.Build

variable {Ticket α : Type}

/-- The handle with some waiting calls in place of its own. -/
def Handle.withWaiting (h : Handle Ticket) (w : List Ticket) : Handle Ticket :=
  { h with waiting := w }

/-- A change for which nobody waited, if some calls wait all the same. -/
def Change.alongside (c : Change Ticket α) (w : List Ticket) : Change Ticket α :=
  if c.handle.state.isBuilding then { c with handle := c.handle.withWaiting (w ++ c.handle.waiting) }
  else { c with released := w }

/-- An operation on a handle during a build does not depend on who waits. -/
structure Framed (h : Handle Ticket) (op : Handle Ticket → Change Ticket α) : Prop where
  /-- The build goes on or has ended. -/
  phase : (op (h.withWaiting [])).handle.state = .building ∨ (op (h.withWaiting [])).handle.state.isOver = true
  /-- If nobody waits, nobody is released. -/
  nobody : (op (h.withWaiting [])).released = []
  /-- If calls wait, everything else is as if nobody did. -/
  alongside : ∀ w, op (h.withWaiting w) = (op (h.withWaiting [])).alongside w

theorem Change.alongside_building {c : Change Ticket α} (h : c.handle.state = .building) (w : List Ticket) :
    c.alongside w = { c with handle := c.handle.withWaiting (w ++ c.handle.waiting) } := by
  unfold Change.alongside; rw [h]; rfl

theorem Change.alongside_over {c : Change Ticket α} (h : c.handle.state.isOver = true) (w : List Ticket) :
    c.alongside w = { c with released := w } := by
  unfold Change.alongside
  cases hs : c.handle.state <;> simp_all [State.isOver, State.isBuilding]

section Operations

variable {h : Handle Ticket}

/-- An operation that leaves the handle as it is and releases nobody. -/
theorem framed_of_kept {op : Handle Ticket → Change Ticket α} (hs : h.state = .building) {events : List Event}
    {value : α} (hop : ∀ w, op (h.withWaiting w) = ⟨h.withWaiting w, events, [], value⟩) : Framed h op where
  phase := .inl (by rw [hop]; exact hs)
  nobody := by rw [hop]
  alongside := by
    intro w
    rw [hop, hop, Change.alongside_building (by exact hs)]
    simp [Handle.withWaiting]

/-- An operation that ends the build and releases all who wait. -/
theorem framed_of_ended {op : Handle Ticket → Change Ticket α} (ended : Handle Ticket) (he : ended.state.isOver = true)
    {events : List Event} {value : α} (hop : ∀ w, op (h.withWaiting w) = ⟨ended, events, w, value⟩) :
    Framed h op where
  phase := .inr (by rw [hop]; exact he)
  nobody := by rw [hop]
  alongside := by
    intro w
    rw [hop, hop, Change.alongside_over (by exact he)]

variable (hs : h.state = .building)
include hs

theorem publish_framed (result : Except IndexError Index) : Framed h (·.publish result) :=
  framed_of_ended ⟨.ofResult result, h.job, []⟩ ((isOver_iff _).2 ⟨result, rfl⟩)
    fun w => publish_building (h.withWaiting w) hs result

theorem fail_framed (e : IndexError) : Framed h (·.fail e) :=
  framed_of_ended ⟨.failed e, h.job, []⟩ rfl
    fun w => fail_open (h.withWaiting w) (by show h.state.isOver = _; rw [hs]; rfl) e

theorem spawn_framed (sheet : Sheet) (css : String) : Framed h (·.spawn sheet css) :=
  framed_of_kept hs fun w => spawn_started (h.withWaiting w) (by show h.state ≠ _; rw [hs]; nofun) sheet css

theorem conclude_framed (make : Sheet → String → Except IndexError Index × List Event) :
    Framed h (·.conclude make) := by
  cases hj : h.job with
  | none => exact framed_of_kept hs fun w => conclude_none (h.withWaiting w) hj
  | some job =>
    exact framed_of_ended ⟨.ofResult (make job.1 job.2).1, none, []⟩ ((isOver_iff _).2 ⟨_, rfl⟩)
      fun w => conclude_building (h.withWaiting w) hj hs

/-- Who begins to wait does so behind the others. -/
theorem wait_framed (call : Ticket) : Framed h (·.wait call) where
  phase := .inl ((wait_state _ call).trans hs)
  nobody := by
    rw [wait_building (h.withWaiting []) hs]
  alongside := by
    intro w
    rw [wait_building (h.withWaiting w) hs, wait_building (h.withWaiting []) hs,
      Change.alongside_building (by exact hs)]
    rfl

end Operations

/-! ## Whom a change concerns -/

/-- Whoever is released by a change, or waits after it, is one of some calls. -/
def Change.Among (c : Change Ticket α) (calls : List Ticket) : Prop :=
  (∀ t ∈ c.released, t ∈ calls) ∧ ∀ t ∈ c.handle.waiting, t ∈ calls

section Among

variable (h : Handle Ticket)

theorem start_among : h.start.Among h.waiting := by
  unfold Handle.start
  split <;> exact ⟨nofun, fun _ ht => ht⟩

theorem publish_among (result : Except IndexError Index) : (h.publish result).Among h.waiting := by
  by_cases hs : h.state = .building
  · rw [publish_building h hs]; exact ⟨fun _ ht => ht, nofun⟩
  · rw [publish_idle h hs]; exact ⟨nofun, fun _ ht => ht⟩

theorem fail_among (e : IndexError) : (h.fail e).Among h.waiting := by
  cases hs : h.state.isOver with
  | true => rw [fail_over h hs]; exact ⟨nofun, fun _ ht => ht⟩
  | false => rw [fail_open h hs]; exact ⟨fun _ ht => ht, nofun⟩

theorem spawn_among (sheet : Sheet) (css : String) : (h.spawn sheet css).Among h.waiting := by
  by_cases hs : h.state = .unstarted
  · rw [spawn_unstarted h hs]; exact ⟨nofun, fun _ ht => ht⟩
  · rw [spawn_started h hs]; exact ⟨nofun, fun _ ht => ht⟩

theorem conclude_among (make : Sheet → String → Except IndexError Index × List Event) :
    (h.conclude make).Among h.waiting := by
  cases hj : h.job with
  | none => rw [conclude_none h hj]; exact ⟨nofun, fun _ ht => ht⟩
  | some job =>
    by_cases hs : h.state = .building
    · rw [conclude_building h hj hs]; exact ⟨fun _ ht => ht, nofun⟩
    · rw [conclude_idle h hj hs]; exact ⟨nofun, fun _ ht => ht⟩

theorem wait_among (call : Ticket) : (h.wait call).Among (h.waiting ++ [call]) := by
  by_cases hs : h.state = .building
  · rw [wait_building h hs]; exact ⟨nofun, fun _ ht => ht⟩
  · rw [wait_idle h hs]
    exact ⟨fun _ ht => List.mem_append_right _ ht, fun _ ht => List.mem_append_left _ ht⟩

end Among

/-! ## Coming equally far -/

/-- Two handles have come equally far, whoever waits for them. -/
structure Handle.AsFar (h k : Handle Ticket) : Prop where
  state : k.state = h.state
  job : k.job = h.job

section AsFar

variable {h k : Handle Ticket} (hk : h.AsFar k)
include hk

theorem start_asFar : h.start.handle.AsFar k.start.handle := by
  unfold Handle.start
  rw [hk.state]
  split
  · exact ⟨rfl, hk.job⟩
  · exact hk

theorem publish_asFar (result : Except IndexError Index) :
    (h.publish result).handle.AsFar (k.publish result).handle := by
  unfold Handle.publish
  rw [hk.state]
  split
  · exact ⟨rfl, hk.job⟩
  · exact hk

theorem fail_asFar (e : IndexError) : (h.fail e).handle.AsFar (k.fail e).handle := by
  cases hs : h.state.isOver with
  | true =>
    rw [fail_over h hs, fail_over k (by rw [hk.state, hs])]
    exact hk
  | false =>
    rw [fail_open h hs, fail_open k (by rw [hk.state, hs])]
    exact ⟨rfl, hk.job⟩

theorem spawn_asFar (sheet : Sheet) (css : String) : (h.spawn sheet css).handle.AsFar (k.spawn sheet css).handle := by
  by_cases hs : h.state = .unstarted
  · rw [spawn_unstarted h hs, spawn_unstarted k (hk.state.trans hs)]
    exact ⟨rfl, rfl⟩
  · rw [spawn_started h hs, spawn_started k (by rwa [hk.state])]
    exact hk

theorem conclude_asFar (make : Sheet → String → Except IndexError Index × List Event) :
    (h.conclude make).handle.AsFar (k.conclude make).handle := by
  unfold Handle.conclude
  rw [hk.job]
  split
  · exact hk
  · exact publish_asFar (h := { h with job := none }) (k := { k with job := none }) ⟨hk.state, rfl⟩ _

end AsFar

end ClassAtlas.Build
