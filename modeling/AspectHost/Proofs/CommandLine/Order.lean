import AspectHost.Proofs.CommandLine.Words

/-! # Arguments in the order of their positions

The values of each of the two options come with the positions of what was given; put together and sorted by
these they are in the order of the command line again (`collect_eq_ok_iff`). Reading words keeps the positions
rising (`Matches.Keeps.take`). -/

namespace AspectHost.CommandLine

/-! ## Positions -/

/-- What is told of the arguments that `pick` picks: their values, and their positions in step with them. -/
def occurrences (pick : Argument → Option String) (given : List (Nat × Argument)) : Occurrences :=
  let picked := given.filterMap fun a => (pick a.2).map (·, a.1)
  ⟨picked.map Prod.fst, picked.map Prod.snd⟩

/-- What is told of the arguments is what was given, at rising positions. -/
structure Matches.Tells (m : Matches) (given : List (Nat × Argument)) : Prop where
  rising : given.Pairwise fun a b => a.1 < b.1
  texts : m.texts = occurrences Argument.text? given
  hexes : m.hexes = occurrences Argument.hex? given

theorem indexed_cons (read : String → Except String Value) (v : String) (position : Nat) (o : Occurrences) :
    Options.indexed read ⟨v :: o.values, position :: o.positions⟩ = (do
      let value ← read v
      let rest ← Options.indexed read o
      return (position, value) :: rest) := by
  unfold Options.indexed
  rw [List.zip_cons_cons, List.mapM_cons]
  simp only [map_eq_pure_bind, bind_assoc, pure_bind]

theorem occurrences_cons (pick : Argument → Option String) (p : Nat) (a : Argument)
    (given : List (Nat × Argument)) : occurrences pick ((p, a) :: given) =
      match pick a with
      | some v => ⟨v :: (occurrences pick given).values, p :: (occurrences pick given).positions⟩
      | none => occurrences pick given := by
  unfold occurrences
  cases h : pick a <;> simp [h]

section

variable {given : List (Nat × Argument)} {vs : List Value}

/-- The values of both kinds, each with its position, are those of the command line in another order. -/
theorem indexed_of_stand (h : List.Forall₂ (fun a v => a.2.Stands v) given vs) :
    ∃ texts hexes, Options.indexed Options.text (occurrences Argument.text? given) = .ok texts ∧
      Options.indexed Options.hex (occurrences Argument.hex? given) = .ok hexes ∧
      (texts ++ hexes).Perm ((given.map Prod.fst).zip vs) := by
  induction h with
  | nil => exact ⟨[], [], rfl, rfl, .nil⟩
  | @cons a v given vs ha _ ih =>
    obtain ⟨texts, hexes, htexts, hhexes, hperm⟩ := ih
    obtain ⟨p, a⟩ := a
    cases ha with
    | text s =>
      refine ⟨(p, .string s) :: texts, hexes, ?_, hhexes, .cons _ hperm⟩
      rw [occurrences_cons]
      simp only [Argument.text?, indexed_cons, htexts]
      rfl
    | @hex s b hs =>
      refine ⟨texts, (p, .bytearray b) :: hexes, htexts, ?_, List.perm_middle.trans (.cons _ hperm)⟩
      rw [occurrences_cons]
      simp only [Argument.hex?, indexed_cons, hhexes, Options.hex, hs]
      rfl

theorem read_of_indexed {hexes : List (Nat × Value)}
    (h : Options.indexed Options.hex (occurrences Argument.hex? given) = .ok hexes) {s : String}
    (hs : .hex s ∈ given.map Prod.snd) : ∃ b, Text.Hex.decode s = .ok b := by
  induction given generalizing hexes with
  | nil => cases hs
  | cons a given ih =>
    obtain ⟨p, a⟩ := a
    rw [occurrences_cons] at h
    cases a with
    | text t =>
      obtain hs | hs := List.mem_cons.mp hs
      · cases hs
      · exact ih h hs
    | hex t =>
      simp only [Argument.hex?, indexed_cons] at h
      obtain ⟨_, ht, h⟩ := bind_eq_ok.mp h
      obtain ⟨_, hrest, -⟩ := bind_eq_ok.mp h
      obtain hs | hs := List.mem_cons.mp hs
      · obtain rfl := Argument.hex.inj hs
        unfold Options.hex at ht
        cases hb : Text.Hex.decode s with
        | error e => rw [hb] at ht; cases ht
        | ok b => exact ⟨b, rfl⟩
      · exact ih hrest hs

/-- Sorting restores an order by positions that were all different. -/
theorem mergeSort_of_perm {indexed sorted : List (Nat × Value)} (hperm : indexed.Perm sorted)
    (hsorted : sorted.Pairwise fun a b => a.1 < b.1) :
    (indexed.mergeSort fun a b => a.1 ≤ b.1) = sorted := by
  have hmerged : (indexed.mergeSort fun a b => a.1 ≤ b.1).Pairwise fun a b => a.1 ≤ b.1 := by
    refine (List.pairwise_mergeSort ?_ ?_ indexed).imp fun h => of_decide_eq_true h
    · intro a b c hab hbc
      exact decide_eq_true ((of_decide_eq_true hab).trans (of_decide_eq_true hbc))
    · intro a b
      simp only [Bool.or_eq_true, decide_eq_true_eq]
      exact Nat.le_total a.1 b.1
  have hsame := (List.mergeSort_perm indexed fun a b => decide (a.1 ≤ b.1)).trans hperm
  refine List.Perm.eq_of_pairwise ?_ hmerged (hsorted.imp Nat.le_of_lt) hsame
  -- No two entries share a position.
  intro a b ha hb hab hba
  have hinj := List.inj_on_of_nodup_map (List.pairwise_map.mpr (hsorted.imp Nat.ne_of_lt))
  exact hinj (hsame.subset ha) hb (Nat.le_antisymm hab hba)

/-- **Sorted by their positions, the values of both kinds are in the order of the command line.** -/
theorem collect_eq_ok_iff {m : Matches} (h : m.Tells given) :
    Options.collect m = .ok vs ↔ List.Forall₂ Argument.Stands (given.map Prod.snd) vs := by
  have hcollect : ∀ vs, List.Forall₂ Argument.Stands (given.map Prod.snd) vs →
      Options.collect m = .ok vs := by
    intro vs hvs
    obtain ⟨texts, hexes, htexts, hhexes, hperm⟩ := indexed_of_stand (List.forall₂_map_left_iff.mp hvs)
    have hlength : (given.map Prod.fst).length = vs.length := by simpa using hvs.length_eq
    have hrising : ((given.map Prod.fst).zip vs).Pairwise fun a b => a.1 < b.1 := by
      rw [← List.pairwise_map, List.map_fst_zip hlength.le, List.pairwise_map]
      exact h.rising
    unfold Options.collect
    rw [h.texts, h.hexes, htexts, hhexes]
    change Except.ok _ = _
    rw [mergeSort_of_perm hperm hrising, List.map_snd_zip hlength.ge]
  refine ⟨fun hvs => ?_, hcollect vs⟩
  unfold Options.collect at hvs
  obtain ⟨texts, -, hrest⟩ := bind_eq_ok.mp hvs
  obtain ⟨hexes, hhexes, -⟩ := bind_eq_ok.mp hrest
  rw [h.hexes] at hhexes
  obtain ⟨vs', hvs'⟩ := Argument.stand_of_read fun s hs => read_of_indexed hhexes hs
  obtain rfl := Except.ok.inj (hvs.symm.trans (hcollect vs' hvs'))
  exact hvs'

end

/-! ## Positions rise -/

theorem occurrences_append (pick : Argument → Option String) (given : List (Nat × Argument)) (p : Nat)
    (a : Argument) : occurrences pick (given ++ [(p, a)]) =
      match pick a with
      | some v => (occurrences pick given).add v p
      | none => occurrences pick given := by
  unfold occurrences Occurrences.add
  cases h : pick a <;> simp [h]

namespace Matches

/-- An argument, if it is one, at the next position. -/
def placed (m : Matches) (g : Given) : List (Nat × Argument) :=
  (g.argument?.map (m.position + 2, ·)).toList

/-- What is told is what was given, and only positions that were taken have been. -/
structure Keeps (m : Matches) (given : List (Nat × Argument)) : Prop extends m.Tells given where
  taken : ∀ a ∈ given, a.1 ≤ m.position

variable {m m' : Matches} {given : List (Nat × Argument)} {gs : List Given}

theorem Keeps.append (h : m.Keeps given) (a : Argument) {m' : Matches}
    (hposition : m'.position = m.position + 2)
    (htexts : m'.texts = occurrences Argument.text? (given ++ [(m.position + 2, a)]))
    (hhexes : m'.hexes = occurrences Argument.hex? (given ++ [(m.position + 2, a)])) :
    m'.Keeps (given ++ [(m.position + 2, a)]) where
  rising := by
    refine List.pairwise_append.mpr ⟨h.rising, List.pairwise_singleton _ _, ?_⟩
    intro x hx y hy
    obtain rfl := List.mem_singleton.mp hy
    have := h.taken x hx
    dsimp only
    omega
  texts := htexts
  hexes := hhexes
  taken := by
    intro x hx
    rw [hposition]
    obtain hx | hx := List.mem_append.mp hx
    · have := h.taken x hx
      omega
    · obtain rfl := List.mem_singleton.mp hx
      exact Nat.le_refl _

theorem Keeps.advance (h : m.Keeps given) (htexts : m'.texts = m.texts) (hhexes : m'.hexes = m.hexes)
    (hposition : m.position ≤ m'.position) : m'.Keeps given where
  rising := h.rising
  texts := htexts.trans h.texts
  hexes := hhexes.trans h.hexes
  taken a ha := (h.taken a ha).trans hposition

/-- What is given next takes the next positions. -/
theorem Keeps.take {g : Given} (h : m.Keeps given) (htake : m.take g = .ok m') :
    m'.Keeps (given ++ m.placed g) := by
  cases g with
  | validate =>
    change (if m.validate then _ else _) = _ at htake
    split at htake
    · cases htake
    · cases htake
      exact (List.append_nil given).symm ▸ h.advance rfl rfl (Nat.le_succ _)
  | option s v =>
    change (if (m.given? s).isSome then _ else _) = _ at htake
    split at htake
    · cases htake
    · cases htake
      cases s with
      | text =>
        refine h.append (.text v) rfl ?_ ?_
        · rw [occurrences_append]
          exact congrArg (fun o => Occurrences.add o v (m.position + 2)) h.texts
        · rw [occurrences_append]
          exact h.hexes
      | hex =>
        refine h.append (.hex v) rfl ?_ ?_
        · rw [occurrences_append]
          exact h.texts
        · rw [occurrences_append]
          exact congrArg (fun o => Occurrences.add o v (m.position + 2)) h.hexes
      | _ => exact (List.append_nil given).symm ▸ h.advance rfl rfl (Nat.le_add_right _ 2)

theorem argument_placed (m : Matches) (g : Given) : (m.placed g).map Prod.snd = g.argument?.toList := by
  unfold placed
  cases g.argument? <;> rfl

/-- **The words are told as they were given.** -/
theorem Keeps.foldlM (h : m.Keeps given) (hfold : gs.foldlM Matches.take m = .ok m') :
    ∃ given', m'.Keeps given' ∧ given'.map Prod.snd = given.map Prod.snd ++ arguments gs := by
  induction gs generalizing m given with
  | nil =>
    cases hfold
    exact ⟨given, h, (List.append_nil _).symm⟩
  | cons g gs ih =>
    rw [List.foldlM_cons] at hfold
    obtain ⟨m'', htake, hrest⟩ := bind_eq_ok.mp hfold
    obtain ⟨given', hkeeps, hgiven⟩ := ih (h.take htake) hrest
    refine ⟨given', hkeeps, ?_⟩
    rw [hgiven, List.map_append, argument_placed, List.append_assoc]
    unfold arguments
    cases hg : g.argument? <;> simp [hg]

theorem keeps_nil : ({} : Matches).Keeps [] where
  rising := .nil
  texts := rfl
  hexes := rfl
  taken := nofun

end Matches

theorem collect_of_lists {gs : List Given} {words : List String} (h : Lists gs words) {m : Matches}
    (hread : Matches.read {} words = .ok m) {vs : List Value} :
    Options.collect m = .ok vs ↔ List.Forall₂ Argument.Stands (arguments gs) vs := by
  rw [Matches.read_of_lists {} h] at hread
  obtain ⟨given, hkeeps, hgiven⟩ := Matches.keeps_nil.foldlM hread
  rw [collect_eq_ok_iff hkeeps.toTells, hgiven]
  rfl

end AspectHost.CommandLine
