import AspectHost.Proofs.Lifecycle
import AspectHost.Proofs.Pool.Exits

/-! # The pool loses and shares nothing

Every aspect that a pool builds or is given gets a number, which it keeps wherever it goes. A ledger of
these numbers shows where they are: idle, out, or destroyed. Without the numbers the ledger is what the
operations of the pool make of it, and in the ledger each number stands exactly once. -/

namespace AspectHost

/-! ## The ledger -/

/-- An aspect with its number. -/
abbrev Numbered := Nat × Aspect

/-- What can happen to a pool and to the aspects that are out. Those go by their place. -/
inductive Turn where
  | checkout (code : Bytes) (apis : Registry) (refresh : Bool)
  | handle (place : Nat) (h : Handling)
  /-- An aspect comes back under any key. -/
  | giveBack (place : Nat) (key : String)
  /-- An aspect that the pool never saw is given to it. -/
  | bring (key : String) (a : Aspect)

/-- A pool, the aspects that are out and those that it destroyed. -/
structure Estate where
  pool : Pool
  out : List Aspect := []
  retired : List Aspect := []

namespace Estate

/-- Takes back an aspect that is no longer among those that are out. -/
def giveBack (s : Estate) (key : String) (a : Aspect) : Estate :=
  let x := s.pool.giveBack key a
  { s with pool := x.pool, retired := x.retired ++ s.retired }

/-- What a checkout leaves, with what it hands out. -/
def receive (s : Estate) (x : Pool.Answer Pool.Checkout) : Estate :=
  match x.result with
  | .ok (_, a) => ⟨x.pool, a :: s.out, x.retired ++ s.retired⟩
  | .error _ => ⟨x.pool, s.out, x.retired ++ s.retired⟩

def turn [Wasm.Engine] (s : Estate) : Turn → Estate
  | .checkout code apis refresh => s.receive (s.pool.checkout code apis refresh)
  | .handle place h => { s with out := s.out.modify place (·.handle h) }
  | .giveBack place key =>
    match s.out[place]? with
    | none => s
    | some a => { s with out := s.out.eraseIdx place }.giveBack key a
  | .bring key a => s.giveBack key a

def after [Wasm.Engine] (capacity : Nat) (config : Config) (turns : List Turn) : Estate :=
  turns.foldl turn ⟨Pool.new capacity config, [], []⟩

end Estate

structure Ledger where
  config : Config
  capacity : Nat
  idle : Idle Numbered := []
  out : List Numbered := []
  gone : List Numbered := []
  /-- How many numbers were given out. -/
  known : Nat := 0

namespace Ledger

variable [Wasm.Engine]

def retire (L : Ledger) (x : Numbered) : Ledger := { L with gone := (x.1, x.2.destroy) :: L.gone }

def build (L : Ledger) (code : Bytes) (apis : Registry) : Ledger :=
  match (Aspect.build code apis L.config).1 with
  | .ok a => { L with out := (L.known, a) :: L.out, known := L.known + 1 }
  | .error _ => L

def checkout (L : Ledger) (code : Bytes) (apis : Registry) (refresh : Bool) : Ledger :=
  match Idle.take? (poolKey code) L.idle with
  | none => L.build code apis
  | some ((n, a), idle) =>
    let L := { L with idle }
    if refresh then (L.retire (n, a)).build code apis
    else
      let x := a.reset apis
      match x.result with
      | .ok () => { L with out := (n, x.state) :: L.out }
      | .error (.error _) => (L.retire (n, x.state)).build code apis
      | .error _ => L.retire (n, x.state)

def giveBack (L : Ledger) (key : String) (x : Numbered) : Ledger :=
  match Idle.put L.capacity key (x.1, x.2.release) L.idle with
  | (idle, none) => { L with idle }
  | (idle, some (_, old)) => { L with idle }.retire old

def turn (L : Ledger) : Turn → Ledger
  | .checkout code apis refresh => L.checkout code apis refresh
  | .handle place h => { L with out := L.out.modify place fun x => (x.1, x.2.handle h) }
  | .giveBack place key =>
    match L.out[place]? with
    | none => L
    | some x => { L with out := L.out.eraseIdx place }.giveBack key x
  | .bring key a => { L with known := L.known + 1 }.giveBack key (L.known, a)

/-- The ledger of a new pool after turns. -/
def after (capacity : Nat) (config : Config) (turns : List Turn) : Ledger :=
  turns.foldl turn { config, capacity := max capacity 1 }

/-! ## Without the numbers -/

def plain (L : Ledger) : Estate where
  pool := ⟨L.config, L.capacity, Idle.each (·.2) L.idle⟩
  out := L.out.map (·.2)
  retired := L.gone.map (·.2)

omit [Wasm.Engine] in
theorem plain_giveBack (L : Ledger) (key : String) (x : Numbered) :
    (L.giveBack key x).plain = L.plain.giveBack key x.2 := by
  have hput : Idle.put L.plain.pool.capacity key x.2.release L.plain.pool.idle = _ :=
    Idle.put_each (·.2 : Numbered → Aspect) L.capacity key (x.1, x.2.release) L.idle
  unfold giveBack Estate.giveBack
  dsimp only
  rw [Pool.giveBack_pool, Pool.giveBack_retired, hput]
  cases Idle.put L.capacity key (x.1, x.2.release) L.idle with
  | mk idle displaced => cases displaced <;> rfl

theorem receive_buildFresh (L : Ledger) (code : Bytes) (apis : Registry) {s : Estate} {p : Pool}
    {retired : List Aspect} (events : List Event) (hpool : p = L.plain.pool)
    (hout : s.out = L.plain.out) (hretired : retired ++ s.retired = L.plain.retired) :
    s.receive (p.buildFresh code apis retired events) = (L.build code apis).plain := by
  have hconfig : p.config = L.config := by rw [hpool, plain]
  unfold Estate.receive build
  rw [Pool.buildFresh_pool, Pool.buildFresh_retired, Pool.buildFresh_result, hconfig, hpool, hout,
    hretired]
  cases (Aspect.build code apis L.config).1 <;> rfl

theorem plain_checkout (L : Ledger) (code : Bytes) (apis : Registry) (refresh : Bool) :
    (L.checkout code apis refresh).plain =
      L.plain.receive (L.plain.pool.checkout code apis refresh) := by
  have htake : Idle.take? (poolKey code) L.plain.pool.idle = _ := Idle.take?_each _ _ L.idle
  unfold checkout Pool.checkout
  dsimp only
  rw [htake]
  cases Idle.take? (poolKey code) L.idle with
  | none => exact (L.receive_buildFresh code apis _ rfl rfl rfl).symm
  | some found =>
    obtain ⟨⟨n, a⟩, idle⟩ := found
    cases refresh with
    | true =>
      exact (({ L with idle } : Ledger).retire (n, a)).receive_buildFresh (s := L.plain) code apis _
        rfl rfl rfl |>.symm
    | false =>
      simp only [Option.map_some, Bool.false_eq_true, if_false]
      cases hr : (a.reset apis).result with
      | ok u => rfl
      | error e =>
        cases e with
        | error cause =>
          exact (({ L with idle } : Ledger).retire (n, (a.reset apis).state)).receive_buildFresh
            (s := L.plain) code apis _ rfl rfl rfl |>.symm
        | panic => rfl
        | unanswered => rfl

omit [Wasm.Engine] in
theorem map_modify {α β : Type} (f : α → β) (g : α → α) (h : β → β) (hf : ∀ x, f (g x) = h (f x))
    (l : List α) (i : Nat) : (l.modify i g).map f = (l.map f).modify i h := by
  refine List.ext_getElem? ?_
  intro j
  rw [List.getElem?_map, List.getElem?_modify, List.getElem?_modify, List.getElem?_map]
  cases l[j]? with
  | none => rfl
  | some x => by_cases hij : i = j <;> simp [hij, hf]

theorem plain_turn (L : Ledger) (t : Turn) : (L.turn t).plain = L.plain.turn t := by
  cases t with
  | checkout code apis refresh => exact L.plain_checkout code apis refresh
  | handle place h =>
    have hout : (L.out.modify place fun x => (x.1, x.2.handle h)).map (·.2) =
        L.plain.out.modify place (·.handle h) := map_modify _ _ _ (by simp) L.out place
    exact congrArg (fun out => (⟨L.plain.pool, out, L.plain.retired⟩ : Estate)) hout
  | giveBack place key =>
    have hout : L.plain.out[place]? = L.out[place]?.map (·.2) := List.getElem?_map
    have herase : L.plain.out.eraseIdx place = (L.out.eraseIdx place).map (·.2) :=
      List.eraseIdx_map _ _ _
    unfold turn Estate.turn
    simp only [hout, herase]
    cases L.out[place]? with
    | none => rfl
    | some x => exact plain_giveBack _ key x
  | bring key a => exact plain_giveBack _ key (L.known, a)

theorem plain_after (capacity : Nat) (config : Config) (turns : List Turn) :
    (after capacity config turns).plain = Estate.after capacity config turns := by
  refine List.reverseRecOn turns rfl ?_
  intro ts t ih
  unfold after Estate.after at *
  rw [List.foldl_concat, List.foldl_concat, plain_turn, ih]

/-! ## Where the numbers are -/

/-- The numbers of what is idle, out and destroyed. -/
def numbers (L : Ledger) : List Nat :=
  L.idle.map (·.2.1) ++ (L.out.map (·.1) ++ L.gone.map (·.1))

/-- The ledger is sound, while the aspects with these numbers are on their way from one place to another. -/
structure Sound (moving : List Nat) (L : Ledger) : Prop where
  numbers : (moving ++ L.numbers).Perm (List.range L.known)
  keys : L.idle.keys.Nodup
  released : ∀ e ∈ L.idle, e.2.2.live = none
  gone : ∀ x ∈ L.gone, x.2.live = none ∧ x.2.compiled = none

namespace Sound

variable {L : Ledger} {n : Nat}

section

omit [Wasm.Engine]

theorem take (h : L.Sound []) {key : String} {a : Aspect} {idle : Idle Numbered}
    (ht : Idle.take? key L.idle = some ((n, a), idle)) : Sound [n] { L with idle } := by
  refine ⟨?_, ?_, ?_, h.gone⟩
  · have hperm := (Idle.perm_of_take? ht).map fun e : String × Numbered => e.2.1
    exact (hperm.append_right _).trans h.numbers
  · rw [(Idle.keys_of_take? ht).2]
    exact h.keys.erase key
  · exact fun e he => h.released e ((Idle.mem_of_take? ht).2 e he)

theorem retire (h : L.Sound [n]) (a : Aspect) : (L.retire (n, a)).Sound [] := by
  refine ⟨?_, h.keys, h.released, ?_⟩
  · refine .trans ?_ h.numbers
    simp only [Ledger.numbers, Ledger.retire, List.map_cons, ← List.append_assoc]
    exact List.perm_middle
  · intro x hx
    rcases List.mem_cons.mp hx with rfl | hx
    · exact ⟨rfl, rfl⟩
    · exact h.gone x hx

theorem handOut (h : L.Sound [n]) (a : Aspect) : Sound [] { L with out := (n, a) :: L.out } := by
  refine ⟨?_, h.keys, h.released, h.gone⟩
  exact List.perm_middle.trans h.numbers

theorem new (h : L.Sound []) : Sound [L.known] { L with known := L.known + 1 } := by
  refine ⟨?_, h.keys, h.released, h.gone⟩
  rw [List.range_succ]
  exact (h.numbers.cons _).trans (List.perm_append_singleton _ _).symm

/-- What comes back takes its place among what is idle, and what it displaces is on its way. -/
theorem put (h : L.Sound [n]) (key : String) (a : Aspect) :
    let put := Idle.put L.capacity key (n, a.release) L.idle
    Sound (put.2.toList.map (·.2.1)) { L with idle := put.1 } := by
  refine ⟨?_, Idle.nodup_of_put h.keys, ?_, h.gone⟩
  · have hperm := (Idle.perm_of_put L.capacity key (n, a.release) L.idle).map
      fun e : String × Numbered => e.2.1
    rw [List.map_append] at hperm
    rw [Ledger.numbers, ← List.append_assoc]
    exact (hperm.append_right _).trans h.numbers
  · intro e he
    rcases Idle.mem_of_put e he with rfl | he
    · rfl
    · exact h.released e he

theorem giveBack (h : L.Sound [n]) (key : String) (a : Aspect) : (L.giveBack key (n, a)).Sound [] := by
  have hput := h.put key a
  unfold Ledger.giveBack
  dsimp only at hput ⊢
  split
  · rename_i hdisplaced
    rw [hdisplaced] at hput
    exact hput
  · rename_i hdisplaced
    rw [hdisplaced] at hput
    exact hput.retire _

end

theorem build (h : L.Sound []) (code : Bytes) (apis : Registry) : (L.build code apis).Sound [] := by
  unfold Ledger.build
  split
  · exact h.new.handOut _
  · exact h

theorem checkout (h : L.Sound []) (code : Bytes) (apis : Registry) (refresh : Bool) :
    (L.checkout code apis refresh).Sound [] := by
  unfold Ledger.checkout
  cases ht : Idle.take? (poolKey code) L.idle with
  | none => exact h.build code apis
  | some found =>
    obtain ⟨⟨n, a⟩, idle⟩ := found
    have htaken := h.take ht
    dsimp only
    split
    · exact (htaken.retire a).build code apis
    · split
      · exact htaken.handOut _
      · exact (htaken.retire _).build code apis
      · exact htaken.retire _

theorem turn (h : L.Sound []) (t : Turn) : (L.turn t).Sound [] := by
  cases t with
  | checkout code apis refresh => exact h.checkout code apis refresh
  | handle place u =>
    have hout : (L.out.modify place fun x => (x.1, x.2.handle u)).map (·.1) = L.out.map (·.1) :=
      (map_modify _ _ id (by simp) L.out place).trans (List.modify_id _ _)
    refine ⟨?_, h.keys, h.released, h.gone⟩
    unfold Ledger.turn Ledger.numbers
    rw [hout]
    exact h.numbers
  | giveBack place key =>
    simp only [Ledger.turn]
    cases hout : L.out[place]? with
    | none => exact h
    | some x =>
      obtain ⟨hplace, rfl⟩ := List.getElem?_eq_some_iff.mp hout
      have hperm := (List.getElem_cons_eraseIdx_perm hplace).map (·.1)
      have hmoving : Sound [L.out[place].1] { L with out := L.out.eraseIdx place } := by
        refine ⟨?_, h.keys, h.released, h.gone⟩
        exact (List.perm_middle.symm.trans ((hperm.append_right _).append_left _)).trans h.numbers
      exact hmoving.giveBack key L.out[place].2
  | bring key a => exact h.new.giveBack key a

end Sound

theorem sound_after (capacity : Nat) (config : Config) (turns : List Turn) :
    (after capacity config turns).Sound [] := by
  induction turns using List.reverseRecOn with
  | nil => exact ⟨.refl _, .nil, List.forall_mem_nil _, List.forall_mem_nil _⟩
  | append_singleton ts t ih =>
    unfold after at ih ⊢
    rw [List.foldl_concat]
    exact ih.turn t

/-! ## What becomes of the idle ones -/

variable {L : Ledger}

@[simp] theorem build_idle (L : Ledger) (code : Bytes) (apis : Registry) :
    (L.build code apis).idle = L.idle := by
  unfold build
  split <;> rfl

@[simp] theorem build_gone (L : Ledger) (code : Bytes) (apis : Registry) :
    (L.build code apis).gone = L.gone := by
  unfold build
  split <;> rfl

/-- What becomes of an idle aspect in a turn: it stays, it is destroyed, or it was reset and is out. -/
inductive Fate (L : Ledger) (t : Turn) (e : String × Numbered) : Prop
  | stays (idle : e ∈ (L.turn t).idle)
  | destroyed (gone : e.2.1 ∈ (L.turn t).gone.map (·.1))
  | handedOut {code : Bytes} {apis : Registry} (turn : t = .checkout code apis false)
    (key : e.1 = poolKey code) (reset : (e.2.2.reset apis).result = .ok ())
    (out : (L.turn t).out = (e.2.1, (e.2.2.reset apis).state) :: L.out)

theorem checkout_taken (h : L.Sound []) {code : Bytes} {n : Nat} {a : Aspect}
    (he : (poolKey code, n, a) ∈ L.idle) (apis : Registry) (refresh : Bool) :
    if refresh = false ∧ (a.reset apis).result = .ok () then
      (L.checkout code apis refresh).out = (n, (a.reset apis).state) :: L.out
    else n ∈ (L.checkout code apis refresh).gone.map (·.1) := by
  obtain ⟨idle, ht⟩ := Idle.take?_of_mem he h.keys
  unfold checkout
  rw [ht]
  cases refresh with
  | true => simp [retire]
  | false =>
    cases hr : (a.reset apis).result with
    | ok u => simp [hr]
    | error e => cases e <;> simp [hr, retire]

theorem checkout_left {code : Bytes} {e : String × Numbered} (he : e ∈ L.idle) (hkey : e.1 ≠ poolKey code)
    (apis : Registry) (refresh : Bool) : e ∈ (L.checkout code apis refresh).idle := by
  unfold checkout
  cases ht : Idle.take? (poolKey code) L.idle with
  | none => simpa using he
  | some found =>
    have hrest : e ∈ found.2 := by
      have hmem := (Idle.perm_of_take? ht).symm.subset he
      refine (List.mem_cons.mp hmem).resolve_left ?_
      rintro rfl
      exact hkey rfl
    dsimp only
    split
    · simpa [retire] using hrest
    · split <;> simpa [retire] using hrest

omit [Wasm.Engine] in
theorem giveBack_fate {e : String × Numbered} (he : e ∈ L.idle) (key : String) (x : Numbered) :
    e ∈ (L.giveBack key x).idle ∨ e.2.1 ∈ (L.giveBack key x).gone.map (·.1) := by
  have hfate := Idle.stays_or_displaced he L.capacity key (x.1, x.2.release)
  unfold giveBack
  split
  · rename_i hput
    rw [hput] at hfate
    exact .inl (by simpa using hfate)
  · rename_i hput
    rw [hput] at hfate
    rcases hfate with hkept | hback
    · exact .inl hkept
    · cases hback
      exact .inr (by simp [retire])

theorem fate (h : L.Sound []) (t : Turn) {e : String × Numbered} (he : e ∈ L.idle) : L.Fate t e := by
  cases t with
  | checkout code apis refresh =>
    by_cases hkey : e.1 = poolKey code
    · obtain ⟨key, n, a⟩ := e
      subst hkey
      have htaken := checkout_taken h he apis refresh
      split at htaken
      · rename_i hreset
        obtain ⟨rfl, hreset⟩ := hreset
        exact .handedOut rfl rfl hreset htaken
      · exact .destroyed htaken
    · exact .stays (checkout_left he hkey apis refresh)
  | handle place u => exact .stays he
  | giveBack place key =>
    cases hout : L.out[place]? with
    | none =>
      have hturn : L.turn (.giveBack place key) = L := by simp only [turn, hout]
      exact .stays (by rwa [hturn])
    | some x =>
      have hturn : L.turn (.giveBack place key) =
          Ledger.giveBack { L with out := L.out.eraseIdx place } key x := by simp only [turn, hout]
      rcases giveBack_fate (L := { L with out := L.out.eraseIdx place }) he key x with hkept | hgone
      · exact .stays (by rwa [hturn])
      · exact .destroyed (by rwa [hturn])
  | bring key a =>
    rcases giveBack_fate (L := { L with known := L.known + 1 }) he key (L.known, a) with hkept | hgone
    · exact .stays hkept
    · exact .destroyed hgone

end Ledger

namespace Pool

section

variable [Wasm.Engine] {p : Pool} {code : Bytes} {apis : Registry} {key : String} {a : Aspect}

theorem ready_of_buildFresh {retired : List Aspect} {events : List Event}
    (h : (p.buildFresh code apis retired events).result = .ok (key, a)) : a.state = .ready := by
  rw [buildFresh_result] at h
  cases hb : (Aspect.build code apis p.config).1 with
  | error e =>
    rw [hb] at h
    cases h
  | ok b =>
    rw [hb] at h
    cases h
    exact (Aspect.ready_of_build hb).1

/-- What a checkout hands out is ready. -/
theorem ready_of_checkout {refresh : Bool} (h : (p.checkout code apis refresh).result = .ok (key, a)) :
    a.state = .ready := by
  have hgoes := p.checkout_goes code apis refresh
  generalize p.checkout code apis refresh = x at h hgoes
  cases hgoes with
  | miss missing => exact ready_of_buildFresh h
  | refresh taken => exact ready_of_buildFresh h
  | rebuild taken reset => exact ready_of_buildFresh h
  | breakOff taken reset unreported => cases h
  | @hit b idle taken reset =>
    cases h
    obtain ⟨hstate, -, hrestored⟩ := Aspect.Moves.reset b apis
    rw [reset] at hstate hrestored
    exact hstate.trans (Lifecycle.next_restored (hrestored rfl))

end

end Pool

/-- **The pool loses and shares nothing.** Whatever was done with it and with what it handed out, the ledger
is that of the real pool, and each aspect is in one place: idle under one key and without an instance, out,
or destroyed. In whatever comes next an idle aspect stays, or is destroyed before the turn ends, or is
handed out after a reset. One that is under the key of a checkout and is not wanted or cannot be reset is
destroyed, however the checkout ends; and what checkouts hand out is ready. -/
theorem Ledger.accounts_for_all [Wasm.Engine] (capacity : Nat) (config : Config) (turns : List Turn) :
    let L := Ledger.after capacity config turns
    L.plain = Estate.after capacity config turns ∧
      L.numbers.Perm (List.range L.known) ∧ L.idle.keys.Nodup ∧
      (∀ e ∈ L.idle, e.2.2.live = none) ∧ (∀ x ∈ L.gone, x.2.live = none ∧ x.2.compiled = none) ∧
      (∀ t, ∀ e ∈ L.idle, L.Fate t e) ∧
      (∀ code apis refresh n a, (poolKey code, n, a) ∈ L.idle →
        refresh = true ∨ (a.reset apis).result ≠ .ok () →
        n ∈ (L.turn (.checkout code apis refresh)).gone.map (·.1)) ∧
      ∀ code apis refresh key a, (L.plain.pool.checkout code apis refresh).result = .ok (key, a) →
        a.state = .ready := by
  have h := Ledger.sound_after capacity config turns
  refine ⟨Ledger.plain_after capacity config turns, h.numbers, h.keys, h.released, h.gone,
    fun t e he => Ledger.fate h t he, ?_, fun _ _ _ _ _ => Pool.ready_of_checkout⟩
  intro code apis refresh n a he hunwanted
  have htaken := Ledger.checkout_taken h he apis refresh
  rw [if_neg] at htaken
  · exact htaken
  · rintro ⟨rfl, hreset⟩
    rcases hunwanted with hrefresh | hfailed
    · cases hrefresh
    · exact hfailed hreset

end AspectHost
