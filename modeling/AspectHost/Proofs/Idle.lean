import Mathlib
import AspectHost.Idle

/-! # What is kept under keys

Taking something out leaves the rest as it is. Putting something in can go in three ways: it takes the place
of what is there under its key, it is one more, or the last in the list has to go. -/

namespace AspectHost.Idle

variable {α β : Type} {key : String} {a : α} {s rest : Idle α}

@[simp] theorem keys_nil : keys ([] : Idle α) = [] := rfl

@[simp] theorem keys_cons (e : String × α) (s : Idle α) : keys (e :: s) = e.1 :: keys s := rfl

@[simp] theorem length_keys (s : Idle α) : (keys s).length = s.length := List.length_map ..

@[simp] theorem keys_dropLast (s : Idle α) : keys s.dropLast = (keys s).dropLast :=
  List.map_dropLast

theorem take?_eq_none_iff : take? key s = none ↔ key ∉ keys s := by
  induction s with
  | nil => simp [take?]
  | cons e s ih =>
    by_cases he : e.1 = key
    · simp [take?, he]
    · simp [take?, he, ih, Ne.symm he]

/-- What is taken out was there, and the rest stays in its order. -/
theorem split_of_take? (h : take? key s = some (a, rest)) :
    ∃ before after, s = before ++ (key, a) :: after ∧ rest = before ++ after ∧ key ∉ keys before := by
  induction s generalizing rest with
  | nil => simp [take?] at h
  | cons e s ih =>
    by_cases he : e.1 = key
    · simp only [take?, if_pos he, Option.some.injEq, Prod.mk.injEq] at h
      obtain ⟨rfl, rfl⟩ := h
      exact ⟨[], s, by simp [← he], rfl, by simp⟩
    · simp only [take?, if_neg he, Option.map_eq_map, Option.map_eq_some_iff] at h
      obtain ⟨⟨b, r⟩, hb, hr⟩ := h
      obtain ⟨rfl, rfl⟩ := Prod.mk.inj hr
      obtain ⟨before, after, rfl, rfl, hbefore⟩ := ih hb
      exact ⟨e :: before, after, rfl, rfl, by simp [hbefore, Ne.symm he]⟩

theorem mem_of_take? (h : take? key s = some (a, rest)) : (key, a) ∈ s ∧ ∀ e ∈ rest, e ∈ s := by
  obtain ⟨before, after, rfl, rfl, -⟩ := split_of_take? h
  refine ⟨by simp, ?_⟩
  intro e he
  rcases List.mem_append.mp he with he | he <;> simp [he]

theorem perm_of_take? (h : take? key s = some (a, rest)) : ((key, a) :: rest).Perm s := by
  obtain ⟨before, after, rfl, rfl, -⟩ := split_of_take? h
  exact List.perm_middle.symm

theorem keys_of_take? (h : take? key s = some (a, rest)) :
    key ∈ keys s ∧ keys rest = (keys s).erase key := by
  obtain ⟨before, after, rfl, rfl, hbefore⟩ := split_of_take? h
  refine ⟨by simp [keys], ?_⟩
  simp only [keys, List.map_append, List.map_cons] at hbefore ⊢
  rw [List.erase_append_right _ hbefore, List.erase_cons_head]

theorem filter_of_not_mem (h : key ∉ keys s) : s.filter (·.1 ≠ key) = s := by
  refine List.filter_eq_self.mpr ?_
  intro e he
  have hmem : e.1 ∈ keys s := List.mem_map.mpr ⟨e, he, rfl⟩
  simpa using fun hkey : e.1 = key => h (hkey ▸ hmem)

/-- Where no key is there twice, one entry is all that there is under its key. -/
theorem filter_of_split {before after : Idle α} (h : (keys (before ++ (key, a) :: after)).Nodup) :
    (before ++ (key, a) :: after).filter (·.1 ≠ key) = before ++ after := by
  simp only [keys, List.map_append, List.map_cons] at h
  have hkey := (List.nodup_middle.mp h).notMem
  rw [List.mem_append, not_or] at hkey
  obtain ⟨hbefore, hafter⟩ := hkey
  rw [List.filter_append, List.filter_cons_of_neg (by simp), filter_of_not_mem hbefore,
    filter_of_not_mem hafter]

/-- Where no key is there twice, taking something out leaves just what is under other keys. -/
theorem rest_of_take? (h : take? key s = some (a, rest)) (hnodup : (keys s).Nodup) :
    rest = s.filter (·.1 ≠ key) := by
  obtain ⟨before, after, rfl, rfl, -⟩ := split_of_take? h
  exact (filter_of_split hnodup).symm

/-- Where no key is there twice, what is there can be taken out. -/
theorem take?_of_mem (h : (key, a) ∈ s) (hnodup : (keys s).Nodup) :
    ∃ rest, take? key s = some (a, rest) := by
  cases ht : take? key s with
  | none => exact absurd (List.mem_map.mpr ⟨_, h, rfl⟩) (take?_eq_none_iff.mp ht)
  | some found =>
    obtain ⟨b, rest⟩ := found
    have hb := List.inj_on_of_nodup_map hnodup h (mem_of_take? ht).1 rfl
    cases hb
    exact ⟨rest, rfl⟩

theorem dropLast_of_getLast? (h : s.getLast? = some (key, a)) (hnodup : (keys s).Nodup) :
    s.dropLast = s.filter (·.1 ≠ key) := by
  obtain ⟨before, rfl⟩ := List.getLast?_eq_some_iff.mp h
  rw [filter_of_split hnodup]
  simp

/-- Putting something in takes the place of what is there under its key, adds one more, or drops the last. -/
theorem put_cases (capacity : Nat) (key : String) (a : α) (s : Idle α) :
    (∃ old rest, take? key s = some (old, rest) ∧
      put capacity key a s = ((key, a) :: rest, some (key, old))) ∨
    (key ∉ keys s ∧ s.length < capacity ∧ put capacity key a s = ((key, a) :: s, none)) ∨
    (key ∉ keys s ∧ capacity ≤ s.length ∧
      put capacity key a s = ((key, a) :: s.dropLast, s.getLast?)) := by
  unfold put
  cases ht : take? key s with
  | some found => exact .inl ⟨found.1, found.2, rfl, rfl⟩
  | none =>
    have hkey := take?_eq_none_iff.mp ht
    by_cases hroom : s.length < capacity
    · exact .inr (.inl ⟨hkey, hroom, by simp [hroom]⟩)
    · exact .inr (.inr ⟨hkey, Nat.le_of_not_lt hroom, by simp [hroom]⟩)

/-- What is put in comes under its key in front of keys that were there. -/
theorem keys_of_put (capacity : Nat) (key : String) (a : α) (s : Idle α) :
    ∃ ks, keys (put capacity key a s).1 = key :: ks ∧ ks.Sublist (keys s) ∧
      ((keys s).Nodup → key ∉ ks) ∧
      (1 ≤ capacity → (keys s).length ≤ capacity → ks.length < capacity) := by
  obtain ⟨old, rest, ht, hput⟩ | ⟨hkey, hroom, hput⟩ | ⟨hkey, hfull, hput⟩ := put_cases capacity key a s
  · obtain ⟨hkey, hrest⟩ := keys_of_take? ht
    refine ⟨(keys s).erase key, by simp [hput, hrest], List.erase_sublist, ?_, ?_⟩
    · intro hnodup
      exact hnodup.not_mem_erase
    · intro _ hlength
      have := List.length_erase_of_mem hkey
      have := List.length_pos_of_mem hkey
      omega
  · exact ⟨keys s, by simp [hput], .refl _, fun _ => hkey, fun _ _ => by simpa using hroom⟩
  · refine ⟨(keys s).dropLast, by simp [hput], List.dropLast_sublist _, ?_, ?_⟩
    · exact fun _ hmem => hkey (List.dropLast_subset _ hmem)
    · intro hone hlength
      rw [List.length_dropLast]
      omega

theorem nodup_of_put {capacity : Nat} (h : (keys s).Nodup) : (keys (put capacity key a s).1).Nodup := by
  obtain ⟨ks, hkeys, hsub, hfresh, -⟩ := keys_of_put capacity key a s
  rw [hkeys]
  exact List.nodup_cons.mpr ⟨hfresh h, h.sublist hsub⟩

/-- Nothing is lost on the way in: what is not kept is handed back. -/
theorem perm_of_put (capacity : Nat) (key : String) (a : α) (s : Idle α) :
    ((put capacity key a s).2.toList ++ (put capacity key a s).1).Perm ((key, a) :: s) := by
  obtain ⟨old, rest, ht, hput⟩ | ⟨-, -, hput⟩ | ⟨-, -, hput⟩ := put_cases capacity key a s
  · rw [hput]
    exact (List.Perm.swap _ _ _).trans ((perm_of_take? ht).cons _)
  · rw [hput]
    exact .refl _
  · rw [hput]
    refine List.perm_middle.trans (.cons _ ?_)
    cases hlast : s.getLast? with
    | none => simp [List.getLast?_eq_none_iff.mp hlast]
    | some e =>
      obtain ⟨before, rfl⟩ := List.getLast?_eq_some_iff.mp hlast
      simpa using (List.perm_append_singleton e before).symm

theorem mem_of_put {capacity : Nat} : ∀ e ∈ (put capacity key a s).1, e = (key, a) ∨ e ∈ s := by
  intro e he
  exact List.mem_cons.mp ((perm_of_put capacity key a s).subset (List.mem_append_right _ he))

/-- What was there stays or is handed back. -/
theorem stays_or_displaced {e : String × α} (h : e ∈ s) (capacity : Nat) (key : String) (a : α) :
    e ∈ (put capacity key a s).1 ∨ (put capacity key a s).2 = some e := by
  have hmem := (perm_of_put capacity key a s).symm.subset (List.mem_cons_of_mem _ h)
  rcases List.mem_append.mp hmem with hback | hkept
  · exact .inr (Option.mem_toList.mp hback)
  · exact .inl hkept

/-! ## Keeping something else -/

/-- The same keys with what `f` makes of the things under them. -/
def each (f : α → β) (s : Idle α) : Idle β := s.map fun e => (e.1, f e.2)

variable (f : α → β)

@[simp] theorem keys_each (s : Idle α) : keys (each f s) = keys s := by simp [keys, each]

@[simp] theorem each_cons (e : String × α) (s : Idle α) :
    each f (e :: s) = (e.1, f e.2) :: each f s := rfl

theorem take?_each (key : String) (s : Idle α) :
    take? key (each f s) = (take? key s).map fun x => (f x.1, each f x.2) := by
  induction s with
  | nil => rfl
  | cons e s ih =>
    by_cases he : e.1 = key
    · simp [take?, he]
    · simp [take?, he, ih, Function.comp_def]

theorem put_each (capacity : Nat) (key : String) (a : α) (s : Idle α) :
    put capacity key (f a) (each f s) =
      ((each f (put capacity key a s).1),
        (put capacity key a s).2.map fun e => (e.1, f e.2)) := by
  unfold put
  rw [take?_each]
  cases take? key s with
  | some found => rfl
  | none =>
    by_cases hroom : s.length < capacity
    · simp [each, hroom]
    · simp [each, hroom, List.map_dropLast]

end AspectHost.Idle
