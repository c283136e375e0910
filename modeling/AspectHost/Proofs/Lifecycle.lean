import AspectHost.Proofs.Standing

/-! # The life of an aspect

Whatever is done with an aspect leaves a mark: an instance was made or dropped, the aspect was destroyed, a
host function broke off. The state moves by these marks alone, and a call that does not break off leaves
none. So the state can be read off the marks of a history, and being destroyed is where it ends. -/

namespace AspectHost

/-- What can be done with an aspect. -/
inductive Handling where
  | use (u : Use)
  | destroy

/-- What it comes to. -/
inductive Mark where
  /-- A call that did not break off, whatever it answered. -/
  | called
  | restored
  /-- A reset that failed. -/
  | unrestored
  | released
  | destroyed
  /-- A host function broke off. -/
  | broke
  deriving DecidableEq

namespace Mark

def ofCall : Except (Stop CallError) CallOutput → Mark
  | .error .panic => broke
  | _ => called

def ofReset : Except (Stop HostError) Unit → Mark
  | .ok () => restored
  | .error .panic => broke
  | .error _ => unrestored

end Mark

/-- The last mark that is not that of a call. -/
def lastChange (marks : List Mark) : Option Mark := (marks.filter (· ≠ .called)).getLast?

theorem lastChange_concat (marks : List Mark) (m : Mark) :
    lastChange (marks ++ [m]) = if m = .called then lastChange marks else some m := by
  unfold lastChange
  by_cases hm : m = .called
  · simp [List.filter_append, hm]
  · simp [List.filter_append, hm]

namespace Lifecycle

/-- How the state moves. -/
def next : Lifecycle → Mark → Lifecycle
  | destroyed, _ => destroyed
  | s, .called => s
  | _, .restored => ready
  | _, .unrestored => uninstantiated
  | _, .released => uninstantiated
  | _, .destroyed => destroyed
  | _, .broke => destroyed

section

variable (s : Lifecycle)

@[simp] theorem destroyed_next (m : Mark) : destroyed.next m = destroyed := rfl

@[simp] theorem next_called : s.next .called = s := by cases s <;> rfl

@[simp] theorem next_destroyed : s.next .destroyed = destroyed := by cases s <;> rfl

@[simp] theorem next_broke : s.next .broke = destroyed := by cases s <;> rfl

variable {s} (h : s ≠ destroyed)

include h

theorem next_restored : s.next .restored = ready := by
  cases s with
  | destroyed => exact absurd rfl h
  | uninstantiated => rfl
  | ready => rfl

/-- What drops the instance and does not destroy the aspect leaves it without one. -/
theorem next_dropped {m : Mark} (hm : m = .unrestored ∨ m = .released) : s.next m = uninstantiated := by
  cases s with
  | destroyed => exact absurd rfl h
  | uninstantiated => rcases hm with rfl | rfl <;> rfl
  | ready => rcases hm with rfl | rfl <;> rfl

end

section

variable {s : Lifecycle} {m : Mark} (h : m = .restored → s ≠ destroyed)

include h

theorem next_eq_destroyed : s.next m = destroyed ↔ s = destroyed ∨ m = .destroyed ∨ m = .broke := by
  cases m <;> cases s <;> simp_all [next]

theorem next_eq_ready : s.next m = ready ↔ m = .called ∧ s = ready ∨ m = .restored := by
  cases m <;> cases s <;> simp_all [next]

end

end Lifecycle

/-- Why nothing can be called on an aspect with these marks that is not ready. -/
def refusal (marks : List Mark) : HostError :=
  if .broke ∈ marks then .failedLockEngine
  else if .destroyed ∈ marks then .destroyed
  else .notInstantiated

namespace Aspect

variable {a : Aspect}

/-! ## What the state shows -/

theorem destroyed_iff : a.state = .destroyed ↔ a.poisoned = true ∨ a.compiled = none := by
  unfold state
  by_cases hp : a.poisoned = true
  · simp [hp]
  · cases hc : a.compiled with
    | none => simp
    | some c => cases hl : a.live <;> simp [hp]

theorem sound_of_undestroyed (h : a.state ≠ .destroyed) :
    a.poisoned = false ∧ ∃ c, a.compiled = some c := by
  rw [Ne, destroyed_iff, not_or] at h
  exact ⟨by simpa using h.1, Option.ne_none_iff_exists'.mp h.2⟩

theorem callable_of_unready (h : a.state ≠ .ready) :
    a.callable = .error (if a.poisoned then .failedLockEngine
      else if a.state = .destroyed then .destroyed else .notInstantiated) := by
  unfold state callable at *
  by_cases hp : a.poisoned = true
  · simp [hp]
  · cases hc : a.compiled with
    | none => simp [hp]
    | some c =>
      cases hl : a.live with
      | none => simp [hp]
      | some l => simp [hp, hc, hl] at h

/-- What a handling that leaves this mark makes of the aspect. -/
structure Moves (a : Aspect) (m : Mark) (b : Aspect) : Prop where
  state : b.state = a.state.next m
  poisoned : b.poisoned = true ↔ a.poisoned = true ∨ m = .broke
  restored : m = .restored → a.state ≠ .destroyed

namespace Moves

theorem of_poisoned {b : Aspect} (h : b.poisoned = true) : a.Moves .broke b where
  state := by rw [destroyed_iff.mpr (.inl h), Lifecycle.next_broke]
  poisoned := by simp [h]
  restored := nofun

/-- Whatever drops the instance and fails at that leaves an aspect without one. -/
theorem of_dropped {b : Aspect} {m : Mark} (h : a.state ≠ .destroyed)
    (hm : m = .unrestored ∨ m = .released) (hp : b.poisoned = false) {c : Compiled}
    (hc : b.compiled = some c) (hl : b.live = none) : a.Moves m b where
  state := by
    rw [Lifecycle.next_dropped h hm]
    simp [Aspect.state, hp, hc, hl]
  poisoned := by
    have := (sound_of_undestroyed h).1
    rcases hm with rfl | rfl <;> simp [hp, this]
  restored := fun _ => h

theorem release (a : Aspect) : a.Moves .released a.release := by
  by_cases hs : a.state = .destroyed
  · refine ⟨?_, by simp [Aspect.release], nofun⟩
    have hend := destroyed_iff.mp hs
    rw [hs, Lifecycle.destroyed_next, destroyed_iff]
    exact hend
  · obtain ⟨hp, c, hc⟩ := sound_of_undestroyed hs
    exact .of_dropped hs (.inr rfl) hp hc rfl

theorem destroy (a : Aspect) : a.Moves .destroyed a.destroy where
  state := (destroyed_iff.mpr (.inr rfl)).trans (Lifecycle.next_destroyed _).symm
  poisoned := by simp [Aspect.destroy]
  restored := nofun

end Moves

section

variable [Wasm.Engine]

def handle (a : Aspect) : Handling → Aspect
  | .use u => a.use u
  | .destroy => a.destroy

/-- The aspect after a history that may destroy it. -/
def handled (a : Aspect) (history : List Handling) : Aspect := history.foldl handle a

def mark (a : Aspect) : Handling → Mark
  | .use (.call method gas args) => .ofCall (a.call method gas args).result
  | .use (.reset apis) => .ofReset (a.reset apis).result
  | .use .release => .released
  | .destroy => .destroyed

/-- The marks of a history. -/
def marks : Aspect → List Handling → List Mark
  | _, [] => []
  | a, h :: hs => a.mark h :: marks (a.handle h) hs

theorem marks_concat (a : Aspect) (hs : List Handling) (h : Handling) :
    a.marks (hs ++ [h]) = a.marks hs ++ [(a.handled hs).mark h] := by
  induction hs generalizing a with
  | nil => rfl
  | cons h' hs ih => exact congrArg (a.mark h' :: ·) (ih (a.handle h'))

/-! ## What one handling does -/

theorem ready_of_build {code : Bytes} {apis : Registry} {config : Config}
    (h : (build code apis config).1 = .ok a) : a.state = .ready ∧ a.poisoned = false := by
  obtain ⟨hcheck, module, hread, -⟩ := Keeps.of_build h
  rw [build_eq hcheck hread] at h
  split at h
  · cases h
    exact ⟨rfl, rfl⟩
  · cases h

theorem call_of_error {e : HostError} (h : a.callable = .error e) (method : String) (gas : Int64)
    (args : List Value) : a.call method gas args = ⟨.error (.error ⟨e, 0⟩), a, []⟩ := by
  unfold Aspect.call
  rw [h]

/-- Being destroyed is the end: nothing can be reset. -/
theorem reset_of_destroyed (h : a.state = .destroyed) (apis : Registry) :
    ∃ e, a.reset apis = ⟨.error (.error e), a, []⟩ := by
  unfold Aspect.reset
  by_cases hp : a.poisoned = true
  · exact ⟨.failedLockEngine, by simp [hp]⟩
  · have hc : a.compiled = none := (destroyed_iff.mp h).resolve_left hp
    exact ⟨.destroyed, by simp [hp, hc]⟩

/-- A call that does not break off changes nothing that the state shows. -/
theorem state_of_call {method : String} {gas : Int64} {args : List Value}
    (h : (a.call method gas args).result ≠ .error .panic) :
    (a.call method gas args).state.state = a.state ∧
      (a.call method gas args).state.poisoned = a.poisoned := by
  cases hcallable : a.callable with
  | error e =>
    rw [call_of_error hcallable]
    exact ⟨rfl, rfl⟩
  | ok l =>
    obtain ⟨hl, -⟩ := live_of_callable hcallable
    obtain ⟨-, hcompiled, hlive⟩ := state_call hcallable method gas args
    have hpoisoned : (a.call method gas args).state.poisoned = a.poisoned := by
      simp only [Aspect.call, hcallable] at h ⊢
      split
      · rfl
      · rename_i e w hrun
        rw [hrun] at h
        cases e with
        | panic => exact absurd rfl h
        | error e => exact Bool.or_false _
        | unanswered => exact Bool.or_false _
    refine ⟨?_, hpoisoned⟩
    unfold state
    rw [hpoisoned, hcompiled, hlive, hl]
    cases a.compiled <;> rfl

theorem poisoned_of_call {method : String} {gas : Int64} {args : List Value}
    (h : (a.call method gas args).result = .error .panic) :
    (a.call method gas args).state.poisoned = true := by
  cases hcallable : a.callable with
  | error e =>
    rw [call_of_error hcallable] at h
    cases h
  | ok l =>
    simp only [Aspect.call, hcallable] at h ⊢
    split
    · rename_i hrun
      rw [hrun] at h
      cases h
    · rename_i hrun
      rw [hrun] at h
      cases h
      exact Bool.or_true _

namespace Moves

theorem call (a : Aspect) (method : String) (gas : Int64) (args : List Value) :
    a.Moves (.ofCall (a.call method gas args).result) (a.call method gas args).state := by
  by_cases hr : (a.call method gas args).result = .error .panic
  · rw [hr]
    exact .of_poisoned (poisoned_of_call hr)
  · have hmark : Mark.ofCall (a.call method gas args).result = .called := by
      unfold Mark.ofCall
      split
      · rename_i hpanic
        exact absurd hpanic hr
      · rfl
    obtain ⟨hstate, hpoisoned⟩ := state_of_call hr
    rw [hmark]
    exact ⟨by rw [hstate, Lifecycle.next_called], by simp [hpoisoned], nofun⟩

theorem reset (a : Aspect) (apis : Registry) :
    a.Moves (.ofReset (a.reset apis).result) (a.reset apis).state := by
  by_cases hs : a.state = .destroyed
  · obtain ⟨e, hreset⟩ := reset_of_destroyed hs apis
    rw [hreset]
    exact ⟨by rw [hs]; rfl, by simp [Mark.ofReset], nofun⟩
  · obtain ⟨hp, c, hc⟩ := sound_of_undestroyed hs
    unfold Aspect.reset
    rw [if_neg (by simp [hp]), hc]
    dsimp only
    rcases (⟨c.module, apis⟩ : Compiled).instantiate a.config with ⟨r, events⟩
    cases r with
    | ok live =>
      refine ⟨?_, by simp [hp, Mark.ofReset], fun _ => hs⟩
      rw [Mark.ofReset, Lifecycle.next_restored hs]
      simp [Aspect.state, hp]
    | error e =>
      cases e with
      | panic => exact .of_poisoned rfl
      | error e => exact .of_dropped hs (.inl rfl) rfl rfl rfl
      | unanswered => exact .of_dropped hs (.inl rfl) rfl rfl rfl

end Moves

theorem moves_handle (a : Aspect) (h : Handling) : a.Moves (a.mark h) (a.handle h) := by
  cases h with
  | use u =>
    cases u with
    | call method gas args => exact .call a method gas args
    | reset apis => exact .reset a apis
    | release => exact .release a
  | destroy => exact .destroy a

/-! ## What a history does -/

/-- What the marks of a history tell of an aspect. -/
structure Told (marks : List Mark) (a : Aspect) : Prop where
  ready : a.state = .ready ↔ .broke ∉ marks ∧ ∀ m, lastChange marks = some m → m = .restored
  destroyed : a.state = .destroyed ↔ .broke ∈ marks ∨ .destroyed ∈ marks
  poisoned : a.poisoned = true ↔ .broke ∈ marks

namespace Told

variable {marks : List Mark}

theorem of_build {code : Bytes} {apis : Registry} {config : Config}
    (h : (build code apis config).1 = .ok a) : a.Told [] := by
  obtain ⟨hready, hp⟩ := ready_of_build h
  exact ⟨by simp [hready, lastChange], by simp [hready], by simp [hp]⟩

theorem handle (h : a.Told marks) (u : Handling) : (a.handle u).Told (marks ++ [a.mark u]) := by
  obtain ⟨hstate, hpoisoned, hrestored⟩ := a.moves_handle u
  generalize a.mark u = m at hstate hpoisoned hrestored
  refine ⟨?_, ?_, ?_⟩
  · rw [hstate, Lifecycle.next_eq_ready hrestored, lastChange_concat]
    by_cases hcalled : m = .called
    · simp [hcalled, h.ready]
    · by_cases hm : m = .restored
      · have hbroke := (not_or.mp (h.destroyed.not.mp (hrestored hm))).1
        simp [hm, hbroke]
      · simp [hcalled, hm]
  · rw [hstate, Lifecycle.next_eq_destroyed hrestored, h.destroyed]
    simp only [List.mem_append, List.mem_singleton, eq_comm (a := m)]
    tauto
  · simp [hpoisoned, h.poisoned, eq_comm]

theorem handled (h : a.Told []) (history : List Handling) :
    (a.handled history).Told (a.marks history) := by
  -- From the end: the last handling adds its mark to those of the ones before it.
  induction history using List.reverseRecOn with
  | nil => exact h
  | append_singleton hs u ih =>
    have hlast : a.handled (hs ++ [u]) = (a.handled hs).handle u :=
      List.foldl_concat _ _ _ _
    rw [marks_concat, hlast]
    exact ih.handle u

end Told

theorem handled_destroyed (h : a.state = .destroyed) (more : List Handling) :
    (a.handled more).state = .destroyed := by
  induction more generalizing a with
  | nil => exact h
  | cons u us ih => exact ih (by rw [(a.moves_handle u).state, h, Lifecycle.destroyed_next])

/-- **The state tells the history.** An aspect is ready if no host function broke off and the last thing that
changed it was its build or a reset that succeeded; it is destroyed once it was destroyed or a host function
broke off, and stays so, and nothing succeeds on it any more. Each handling moves the state by its mark,
and a call on an aspect that is not ready is refused for what the history says, with nothing left of its
budget and without reaching an instance. -/
theorem state_of_history {code : Bytes} {apis : Registry} {config : Config}
    (h : (build code apis config).1 = .ok a) (history : List Handling) :
    let b := a.handled history
    let marks := a.marks history
    (b.state = .ready ↔ .broke ∉ marks ∧ ∀ m, lastChange marks = some m → m = .restored) ∧
      (b.state = .destroyed ↔ .broke ∈ marks ∨ .destroyed ∈ marks) ∧
      (∀ u, (b.handle u).state = b.state.next (b.mark u)) ∧
      (b.state = .destroyed → ∀ more, (b.handled more).state = .destroyed ∧
        (∀ method gas args output, ((b.handled more).call method gas args).result ≠ .ok output) ∧
        ∀ apis, ((b.handled more).reset apis).result ≠ .ok ()) ∧
      (b.state ≠ .ready → b.callable = .error (refusal marks) ∧
        ∀ method gas args, b.call method gas args = ⟨.error (.error ⟨refusal marks, 0⟩), b, []⟩) := by
  obtain ⟨hready, hdestroyed, hpoisoned⟩ := (Told.of_build h).handled history
  refine ⟨hready, hdestroyed, fun u => (moves_handle _ u).state, ?_, ?_⟩
  · intro hend more
    have hmore := handled_destroyed hend more
    refine ⟨hmore, ?_, ?_⟩
    · intro method gas args output
      rw [call_of_error (callable_of_unready (by rw [hmore]; decide))]
      nofun
    · intro apis
      obtain ⟨e, hreset⟩ := reset_of_destroyed hmore apis
      rw [hreset]
      nofun
  · intro hunready
    have hcallable : (a.handled history).callable = .error (refusal (a.marks history)) := by
      rw [callable_of_unready hunready, refusal]
      by_cases hbroke : .broke ∈ a.marks history
      · simp [hpoisoned.mpr hbroke, hbroke]
      · simp [hpoisoned, hdestroyed, hbroke]
    exact ⟨hcallable, fun method gas args => call_of_error hcallable method gas args⟩

end

theorem state_of_history_idle :
    (idle.handled [.use (.call "f" 5 []), .use .release]).state = .uninstantiated ∧
      ∀ method gas args, (idle.handled [.use (.call "f" 5 []), .use .release]).call method gas args =
        ⟨.error (.error ⟨.notInstantiated, 0⟩),
          idle.handled [.use (.call "f" 5 []), .use .release], []⟩ := by
  have hcalled : idle.mark (.use (.call "f" 5 [])) = .called := by decide +kernel
  have hmarks : idle.marks [.use (.call "f" 5 []), .use .release] = [.called, .released] := by
    rw [marks, hcalled]
    rfl
  obtain ⟨hready, hdestroyed, -, -, hrefused⟩ :=
    state_of_history build_idle [.use (.call "f" 5 []), .use .release]
  rw [hmarks] at hready hdestroyed hrefused
  have hunready := hready.not.mpr (by decide)
  refine ⟨?_, (hrefused hunready).2⟩
  cases hs : (idle.handled [.use (.call "f" 5 []), .use .release]).state with
  | uninstantiated => rfl
  | ready => exact absurd hs hunready
  | destroyed => exact absurd (hdestroyed.mp hs) (by decide)

end Aspect
end AspectHost
