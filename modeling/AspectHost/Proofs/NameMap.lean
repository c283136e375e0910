import Mathlib.Data.List.Nodup
import Mathlib.Data.List.Basic
import AspectHost.NameMap

/-! # Maps by names are known by what they answer

What is found under a name is what stands beside it, so two maps that answer alike are one map
(`NameMap.eq_of_find?`). An alteration is known by its answers (`NameMap.find?_alter`), and the rest about it
follows from those. -/

namespace AspectHost

section

variable {α β : Type} [BEq α] [LawfulBEq α] {l : List (α × β)} {k : α} {v : β}

theorem lookup_eq_none_iff : l.lookup k = none ↔ k ∉ l.map (·.1) := by
  rw [List.lookup_eq_none_iff, List.mem_map]
  constructor
  · rintro h ⟨e, he, rfl⟩
    exact absurd (h e he) (by simp)
  · intro h e he
    exact bne_iff_ne.mpr fun hk => h ⟨e, he, hk.symm⟩

/-- Where no name is given twice, what is found under a name is what stands beside it. -/
theorem lookup_eq_some_iff (hl : (l.map (·.1)).Nodup) : l.lookup k = some v ↔ (k, v) ∈ l := by
  rw [List.lookup_eq_some_iff]
  constructor
  · rintro ⟨before, after, rfl, -⟩
    exact List.mem_append_right _ (.head _)
  · intro h
    obtain ⟨before, after, rfl⟩ := List.append_of_mem h
    refine ⟨before, after, rfl, ?_⟩
    rw [List.map_append, List.nodup_append] at hl
    obtain ⟨-, -, hapart⟩ := hl
    intro e he
    exact bne_iff_ne.mpr fun hk => hapart e.1 (List.mem_map_of_mem he) k (.head _) hk.symm

theorem lookup_cons_of_ne {k' : α} (h : k ≠ k') (v : β) (l : List (α × β)) :
    ((k', v) :: l).lookup k = l.lookup k := by
  rw [List.lookup_cons, beq_eq_false_iff_ne.mpr h]

end

namespace NameMap

variable {α β : Type} {m m' : NameMap α} {n n' : String} {a d : α} {f g : α → α}

theorem nodup_names (m : NameMap α) : (m.toList.map (·.1)).Nodup := by
  refine List.pairwise_map.mpr (m.sorted.imp ?_)
  intro e e' hlt hn
  exact String.lt_irrefl e.1 (hn ▸ hlt)

theorem find?_eq_some_iff : m.find? n = some a ↔ (n, a) ∈ m.toList := lookup_eq_some_iff m.nodup_names

theorem find?_of_mem {e : String × α} (h : e ∈ m.toList) : m.find? e.1 = some e.2 :=
  find?_eq_some_iff.mpr h

@[simp] theorem find?_empty (n : String) : (empty : NameMap α).find? n = none := rfl

theorem eq_of_find? (h : ∀ n, m.find? n = m'.find? n) : m = m' := by
  have hperm : m.toList.Perm m'.toList := by
    refine (List.perm_ext_iff_of_nodup m.nodup_names.of_map m'.nodup_names.of_map).mpr fun e => ?_
    rw [← find?_eq_some_iff (n := e.1) (a := e.2), h, find?_eq_some_iff]
  refine NameMap.ext (List.Perm.eq_of_pairwise ?_ m.sorted m'.sorted hperm)
  exact fun _ _ _ _ hlt hgt => absurd hgt (String.lt_asymm hlt)

theorem lookup_alterList {l : List (String × α)} (h : l.Pairwise fun a b => a.1 < b.1) (n' : String) :
    (alterList n d f l).lookup n' = if n' = n then some (f ((l.lookup n).getD d)) else l.lookup n' := by
  induction l with
  | nil =>
    unfold alterList
    split
    · rename_i hn
      rw [hn, List.lookup_cons_self]
      rfl
    · rename_i hn
      exact lookup_cons_of_ne hn _ _
  | cons x l ih =>
    obtain ⟨hx, hl⟩ := List.pairwise_cons.mp h
    unfold alterList
    split
    · rename_i hlt
      have hne : n ≠ x.1 := fun hn => String.lt_irrefl n (hn ▸ hlt)
      rw [lookup_cons_of_ne hne]
      by_cases hn' : n' = x.1
      · rw [if_neg (fun hn => hne (hn.symm.trans hn')), hn', List.lookup_cons_self, List.lookup_cons_self]
      · rw [lookup_cons_of_ne hn', lookup_cons_of_ne hn']
        exact ih hl
    · rename_i hlt
      split
      · rename_i hn
        rw [← hn, List.lookup_cons_self]
        split
        · rename_i hn'
          rw [hn', List.lookup_cons_self]
          rfl
        · rename_i hn'
          rw [lookup_cons_of_ne hn', lookup_cons_of_ne hn']
      · rename_i hn
        -- The name stands before all that are there.
        have hnone : (x :: l).lookup n = none := by
          refine lookup_eq_none_iff.mpr fun hmem => ?_
          obtain ⟨e, he, rfl⟩ := List.mem_map.mp hmem
          obtain rfl | he := List.mem_cons.mp he
          · exact hn rfl
          · exact hlt (hx e he)
        rw [hnone]
        split
        · rename_i hn'
          rw [hn', List.lookup_cons_self]
          rfl
        · rename_i hn'
          exact lookup_cons_of_ne hn' _ _

theorem find?_alter (m : NameMap α) (n : String) (d : α) (f : α → α) (n' : String) :
    (m.alter n d f).find? n' = if n' = n then some (f ((m.find? n).getD d)) else m.find? n' :=
  lookup_alterList m.sorted n'

theorem find?_insert (m : NameMap α) (n : String) (a : α) (n' : String) :
    (m.insert n a).find? n' = if n' = n then some a else m.find? n' :=
  m.find?_alter n a _ n'

theorem alter_alter : (m.alter n d f).alter n d g = m.alter n d fun a => g (f a) := by
  refine eq_of_find? fun n' => ?_
  rw [find?_alter, find?_alter, find?_alter, find?_alter]
  split
  · rw [if_pos rfl]
    rfl
  · rfl

/-- What is altered into itself leaves the map as it is, if there is something under the name. -/
theorem alter_of_fixed (h : m.find? n = some a) (ha : f a = a) : m.alter n d f = m := by
  refine eq_of_find? fun n' => ?_
  rw [find?_alter, h]
  split
  · rename_i hn
    rw [hn, h]
    exact congrArg some ha
  · rfl

theorem mem_alter {e : String × α} (h : e ∈ (m.alter n d f).toList) :
    e = (n, f ((m.find? n).getD d)) ∨ e ∈ m.toList := by
  have hfound := find?_of_mem h
  rw [find?_alter] at hfound
  split at hfound
  · rename_i hn
    exact .inl (Prod.ext hn (Option.some.inj hfound).symm)
  · exact .inr (find?_eq_some_iff.mp hfound)

theorem isEmpty_eq_false (h : m.find? n = some a) : m.isEmpty = false := by
  refine Bool.eq_false_iff.mpr fun hempty => ?_
  have hmem := find?_eq_some_iff.mp h
  rw [List.isEmpty_iff.mp hempty] at hmem
  cases hmem

theorem isEmpty_alter (m : NameMap α) (n : String) (d : α) (f : α → α) : (m.alter n d f).isEmpty = false :=
  isEmpty_eq_false ((m.find?_alter n d f n).trans (if_pos rfl))

end NameMap
end AspectHost
