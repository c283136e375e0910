import AspectHost.Wasm.Machine

/-! # What running does to globals and fuel

Most instructions touch neither; those are looked at once, family by family (`Frame.plain_exec`). What is
left are the two places where fuel is paid for. So no step adds a global or takes one away, none gains fuel,
and lack of fuel stops only code that runs on fuel (`Thread.follows_step`). -/

namespace AspectHost.Wasm

/-! ## Instructions that stay inside their function -/

def Effect.store : Effect → Store
  | go _ s => s
  | trap _ s => s
  | stuck s => s

/-- The effect leaves the fuel and the number of globals alone, and fuel is not why it traps. -/
structure Effect.Plain (s : Store) (e : Effect) : Prop where
  fuel : e.store.fuel = s.fuel
  globals : e.store.globals.size = s.globals.size
  cause : ∀ s', e ≠ .trap .outOfFuel s'

namespace Effect.Plain

variable {s s' : Store} {f : Frame} {e : Effect}

theorem go (hfuel : s'.fuel = s.fuel) (hglobals : s'.globals.size = s.globals.size) :
    (Effect.go f s').Plain s :=
  ⟨hfuel, hglobals, nofun⟩

theorem trap {cause : Trap} (h : cause ≠ .outOfFuel) : (Effect.trap cause s).Plain s := by
  refine ⟨rfl, rfl, ?_⟩
  intro s' hs
  cases hs
  exact h rfl

theorem stuck : (Effect.stuck s).Plain s := ⟨rfl, rfl, nofun⟩

/-- Most checks trap where they fail. -/
theorem guarded {b : Prop} [Decidable b] {cause : Trap} (h : e.Plain s) (hc : cause ≠ .outOfFuel) :
    (if b then e else .trap cause s).Plain s := by
  split
  · exact h
  · exact trap hc

end Effect.Plain

theorem IntBinary.eval_ne {w : Nat} {op : IntBinary} {a b : BitVec w} {cause : Trap}
    (h : op.eval a b = .error cause) : cause ≠ .outOfFuel := by
  rintro rfl
  unfold eval at h
  repeat' split at h
  all_goals cases h

theorem Width.truncate_ne {F : Float.Model.Format} {w : Width} {signed clamp : Bool}
    {a : BitVec F.numBits} {cause : Trap} (h : w.truncate signed clamp a = .error cause) :
    cause ≠ .outOfFuel := by
  rintro rfl
  unfold truncate at h
  dsimp only at h
  repeat' split at h
  all_goals cases h

namespace Frame

variable (P : Program) (f : Frame) (s : Store) (i : Instr)

theorem plain_access : (f.access P s i).Plain s := by
  unfold access
  split
  case h_1 => exact .guarded (.go rfl rfl) (by decide)
  case h_2 =>
    dsimp only
    split
    · exact .stuck
    · refine .guarded ?_ (by decide)
      exact .go (by simp) (by simp)
  case h_3 => exact .go (by simp) (by simp)
  case h_4 delta vs _ =>
    have hfuel := s.fuel_growMemory P.memoryLimit delta.toNat
    have hglobals := congrArg Array.size (s.globals_growMemory P.memoryLimit delta.toNat)
    split <;>
      · rename_i hgrow
        rw [hgrow] at hfuel hglobals
        exact .go hfuel hglobals
  case h_8 => exact .go (by simp) (by simp)
  case h_9 => exact .stuck
  all_goals
    refine .guarded ?_ (by decide)
    exact .go (by simp) (by simp)

theorem plain_tabulate : (f.tabulate P s i).Plain s := by
  unfold tabulate
  split
  case h_1 =>
    split
    · exact .go (by simp) (by simp)
    · exact .trap (by decide)
  case h_3 => exact .go (by simp) (by simp)
  case h_4 =>
    dsimp only
    split <;> exact .go (by simp) (by simp)
  case h_8 => exact .go (by simp) (by simp)
  case h_9 => exact .stuck
  all_goals
    refine .guarded ?_ (by decide)
    exact .go (by simp) (by simp)

theorem plain_calculate : (f.calculate s i).Plain s := by
  unfold calculate
  split
  case h_4 =>
    split
    · split
      · exact .go (by simp) (by simp)
      · exact .trap (IntBinary.eval_ne ‹_›)
    · exact .stuck
  all_goals (try split) <;> first | exact .go (by simp) (by simp) | exact .stuck

theorem plain_approximate : (f.approximate s i).Plain s := by
  unfold approximate
  split
  case h_4 =>
    split
    · split
      · exact .go (by simp) (by simp)
      · exact .trap (Width.truncate_ne ‹_›)
    · exact .stuck
  all_goals (try split) <;> first | exact .go (by simp) (by simp) | exact .stuck

theorem plain_exec : (f.exec P s i).Plain s := by
  unfold exec
  split
  case h_11 => exact .go rfl Array.size_setIfInBounds
  all_goals (try split) <;> first
    | exact .go (by simp) (by simp)
    | exact .stuck
    | exact f.plain_calculate s _
    | exact f.plain_approximate s _
    | exact f.plain_tabulate P s _
    | exact f.plain_access P s _

end Frame

/-! ## Steps -/

theorem Step.Follows.of_later {P : Program} {s : Store} {x : Step Thread} (h : s.Later x.store)
    (hx : ∀ s', x ≠ .trap .outOfFuel s') : x.Follows P s :=
  ⟨h, fun s' hs => absurd hs (hx s')⟩

theorem Effect.Plain.later {s : Store} {e : Effect} (h : e.Plain s) : s.Later e.store :=
  ⟨h.globals, Int.le_of_eq (congrArg Fuel.amount h.fuel), fun hs => h.fuel ▸ hs⟩

namespace Thread

variable (P : Program) (t : Thread) (s : Store)

theorem later_settle : s.Later (t.settle s) :=
  ⟨rfl, Int.sub_le_self _ (Int.natCast_nonneg _), id⟩

theorem follows_checkFuel : (t.checkFuel P s).Follows P s := by
  unfold checkFuel
  split
  · rename_i hdry
    exact ⟨t.later_settle s, fun _ _ => (Bool.and_eq_true_iff.mp hdry).1⟩
  · exact .of_later (.refl s) nofun

theorem follows_call (index : Nat) : (t.call P index s).Follows P s := by
  have hlater := t.later_settle s
  unfold call
  dsimp only
  split
  · exact .of_later hlater nofun
  · split
    · exact .of_later hlater nofun
    · split
      · exact .of_later hlater nofun
      · have hcheck := follows_checkFuel P
        exact ⟨hlater.trans (hcheck _ _).later, (hcheck _ _).dry⟩

theorem follows_ret : (t.ret s).Follows P s := by
  have hlater := t.later_settle s
  unfold ret
  dsimp only
  split <;> exact .of_later hlater nofun

theorem follows_branch (label : Nat) : (t.branch label s).Follows P s := by
  unfold branch
  split
  · exact .of_later (.refl s) nofun
  · exact t.follows_ret P s

theorem indirect?_ne {P : Program} {s : Store} {type table : Nat} {entry : UInt32} {cause : Trap}
    (h : indirect? P s type table entry = .error cause) : cause ≠ .outOfFuel := by
  rintro rfl
  unfold indirect? at h
  repeat' split at h
  all_goals cases h

/-- Every step follows the store that it starts from. -/
theorem follows_step : (t.step P s).Follows P s := by
  have hsettle := fun t : Thread => t.later_settle s
  unfold step
  split
  · split
    · exact t.follows_ret P s
    · exact .of_later (.refl s) nofun
  · dsimp only
    split
    -- Branches, calls and blocks first; whatever is left stays inside the function.
    case h_1 => exact .of_later (hsettle _) nofun
    case h_2 => exact .of_later (.refl s) nofun
    case h_3 => exact follows_checkFuel P _ s
    case h_4 =>
      split
      · exact .of_later (.refl s) nofun
      · exact .of_later (.refl s) nofun
    case h_5 => exact follows_branch P _ s _
    case h_6 =>
      split
      · split
        · exact follows_branch P _ s _
        · exact .of_later (.refl s) nofun
      · exact .of_later (.refl s) nofun
    case h_7 =>
      split
      · exact follows_branch P _ s _
      · exact .of_later (.refl s) nofun
    case h_8 => exact follows_ret P _ s
    case h_9 => exact follows_call P _ s _
    case h_10 =>
      split
      · split
        · exact follows_call P _ s _
        · rename_i hcause
          refine .of_later (hsettle _) ?_
          intro s' hs
          cases hs
          exact indirect?_ne hcause rfl
      · exact .of_later (.refl s) nofun
    case h_11 =>
      have hplain := fun f i => Frame.plain_exec P f s i
      split
      · rename_i hexec
        have hlater := (hexec ▸ hplain _ _).later
        exact .of_later hlater nofun
      · rename_i hexec
        have hlater := (hexec ▸ hplain _ _).later
        refine .of_later hlater ?_
        intro s' hs
        cases hs
        exact (hplain _ _).cause _ hexec
      · rename_i hexec
        have hlater := (hexec ▸ hplain _ _).later
        exact .of_later hlater nofun

theorem follows_start (index : Nat) (args : List Val) (room : Nat) :
    (start P index args room s).Follows P s :=
  follows_call P _ s index

theorem globals_checkFuel : (t.checkFuel P s).store.globals = s.globals := by
  unfold checkFuel
  split <;> rfl

/-- Entering a function pays for it and touches no global. -/
theorem globals_call (index : Nat) : (t.call P index s).store.globals = s.globals := by
  unfold call
  dsimp only
  split
  · rfl
  · split
    · rfl
    · split
      · rfl
      · exact globals_checkFuel P _ _

theorem globals_start (index : Nat) (args : List Val) (room : Nat) :
    (start P index args room s).store.globals = s.globals :=
  globals_call P _ s index

end Thread
end AspectHost.Wasm
