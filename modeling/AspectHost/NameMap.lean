/-! Things by their names, each name given once, in the order of the names. -/

namespace AspectHost

structure NameMap (α : Type) where
  toList : List (String × α)
  sorted : toList.Pairwise fun a b => a.1 < b.1

namespace NameMap

variable {α β : Type}

@[ext] theorem ext {m m' : NameMap α} (h : m.toList = m'.toList) : m = m' := by
  cases m
  cases m'
  cases h
  rfl

def empty : NameMap α := ⟨[], .nil⟩

def isEmpty (m : NameMap α) : Bool := m.toList.isEmpty

def find? (m : NameMap α) (n : String) : Option α := m.toList.lookup n

/-- What `f` makes of each thing under its name. -/
def map (f : String → α → β) (m : NameMap α) : NameMap β :=
  ⟨m.toList.map fun e => (e.1, f e.1 e.2), m.sorted.map _ fun _ _ h => h⟩

section

variable (n : String) (d : α) (f : α → α)

/-- The list after a change of what stands under the name; `d` is what is changed where nothing does. -/
def alterList : List (String × α) → List (String × α)
  | [] => [(n, f d)]
  | e :: l =>
    if e.1 < n then e :: alterList l
    else if e.1 = n then (n, f e.2) :: l
    else (n, f d) :: e :: l

variable {n d f} {l : List (String × α)}

theorem mem_alterList {e : String × α} (h : e ∈ alterList n d f l) : e.1 = n ∨ e ∈ l := by
  induction l with
  | nil => exact .inl (congrArg Prod.fst (List.mem_singleton.mp h))
  | cons x l ih =>
    unfold alterList at h
    split at h
    · obtain rfl | h := List.mem_cons.mp h
      · exact .inr (.head _)
      · exact (ih h).imp_right (.tail _)
    · split at h
      · exact (List.mem_cons.mp h).imp (congrArg Prod.fst) (.tail _)
      · exact (List.mem_cons.mp h).imp_left (congrArg Prod.fst)

theorem lt_of_not_lt {a b : String} (h : ¬ a < b) (hne : a ≠ b) : b < a :=
  Decidable.byContradiction fun h' => hne (String.le_antisymm (String.not_lt.mp h') (String.not_lt.mp h))

theorem sorted_alterList (h : l.Pairwise fun a b => a.1 < b.1) :
    (alterList n d f l).Pairwise fun a b => a.1 < b.1 := by
  induction l with
  | nil => exact List.pairwise_singleton _ _
  | cons x l ih =>
    obtain ⟨hx, hl⟩ := List.pairwise_cons.mp h
    unfold alterList
    split
    · rename_i hlt
      refine List.pairwise_cons.mpr ⟨fun e he => ?_, ih hl⟩
      obtain hn | he := mem_alterList he
      · exact hn ▸ hlt
      · exact hx e he
    · rename_i hlt
      split
      · rename_i hn
        exact List.pairwise_cons.mpr ⟨fun e he => hn ▸ hx e he, hl⟩
      · rename_i hn
        have hnx : n < x.1 := lt_of_not_lt hlt hn
        refine List.pairwise_cons.mpr ⟨fun e he => ?_, h⟩
        obtain rfl | he := List.mem_cons.mp he
        · exact hnx
        · exact String.lt_trans hnx (hx e he)

end

/-- Changes what stands under a name. Where nothing does, `d` is put there first. -/
def alter (m : NameMap α) (n : String) (d : α) (f : α → α) : NameMap α :=
  ⟨alterList n d f m.toList, sorted_alterList m.sorted⟩

def insert (m : NameMap α) (n : String) (a : α) : NameMap α := m.alter n a fun _ => a

end NameMap
end AspectHost
