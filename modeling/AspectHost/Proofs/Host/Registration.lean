import AspectHost.Host.Registry
import AspectHost.Proofs.NameMap
import AspectHost.Proofs.Outcome

/-! # What registering leaves in a registry

A registration is refused and leaves the registry as it is, or it adds its entry to those that are there
(`Registry.enter_eq`), though it looks its name up only after it has entered the module and the namespace. So
in a registry that registrations have filled each signature fits the calls that a guest can make, and no
module or namespace stands empty (`Registry.Proper`). What it answers is then what an ordered map answers of
the registrations that succeeded (`Registry.mapOf_accepted`). -/

namespace AspectHost

section

variable {ε α β : Type} {p : Prop} [Decidable p] {e : ε} {x : Except ε α} {a : α}

theorem throw_bind {f : β → Except ε α} : (throw e >>= f) = throw e := rfl

/-- What is guarded succeeds if nothing is wrong and it succeeds. -/
theorem guarded_eq_ok : (if p then throw e else x) = .ok a ↔ ¬ p ∧ x = .ok a := by
  by_cases hp : p <;> simp [hp, throw, throwThe, MonadExceptOf.throw]

end

theorem Signature.check_eq_ok_iff {s : Signature} : s.check = .ok () ↔
    s.params.length ≤ maxParams ∧ s.results.length ≤ 1 ∧ (s.results = [] → s.fallible = true) ∧
      Kind.empty ∉ s.params ++ s.results := by
  unfold check
  simp only [throw_bind, guarded_eq_ok, Nat.not_lt, not_and, Decidable.not_not]
  exact ⟨fun ⟨hp, hr, ho, he, _⟩ => ⟨hp, hr, ho, he⟩, fun ⟨hp, hr, ho, he⟩ => ⟨hp, hr, ho, he, rfl⟩⟩

namespace ApiKey

theorem eq_iff {k k' : ApiKey} :
    k = k' ↔ k.module = k'.module ∧ k.space = k'.space ∧ k.method = k'.method := by
  cases k
  cases k'
  exact ApiKey.mk.injEq .. ▸ Iff.rfl

theorem not_before_self (k : ApiKey) : ¬ k.Before k := by
  rintro (h | ⟨-, h | ⟨-, h⟩⟩) <;> exact String.lt_irrefl _ h

end ApiKey

namespace Registry

variable {r r' : Registry} {k : ApiKey} {api : HostApi}

/-- The names of the functions, in their order. -/
def keys (r : Registry) : List ApiKey := r.toList.map (·.1)

/-- Registers the functions one after the other; one that is refused leaves the registry as it is. -/
def registerAll (r : Registry) : List (ApiKey × HostApi) → Registry
  | [] => r
  | e :: es => registerAll ((r.register e.1 e.2).toOption.getD r) es

/-! ## Maps in maps -/

theorem find?_eq (r : Registry) (k : ApiKey) : r.find? k = (r.methods k).find? k.method := by
  unfold find? methods
  cases hm : r.modules.find? k.module with
  | none => rfl
  | some spaces => cases hs : spaces.find? k.space <;> simp [hs]

theorem methods_update (r : Registry) (k : ApiKey) (f : Methods → Methods) (k' : ApiKey) :
    (r.update k f).methods k' =
      if k'.module = k.module ∧ k'.space = k.space then f (r.methods k) else r.methods k' := by
  unfold update methods
  rw [NameMap.find?_alter]
  by_cases hm : k'.module = k.module
  · rw [if_pos hm, Option.bind_some, NameMap.find?_alter, hm]
    cases hfound : r.modules.find? k.module <;> by_cases hs : k'.space = k.space <;> simp [hs]
  · rw [if_neg hm, if_neg fun h => hm h.1]

theorem find?_insert (r : Registry) (k : ApiKey) (api : HostApi) (k' : ApiKey) :
    (r.insert k api).find? k' = if k' = k then some api else r.find? k' := by
  unfold insert
  rw [find?_eq, methods_update, find?_eq]
  by_cases hplace : k'.module = k.module ∧ k'.space = k.space
  · have hmethods : r.methods k' = r.methods k := by
      unfold methods
      rw [hplace.1, hplace.2]
    have hkey : k' = k ↔ k'.method = k.method := by
      rw [ApiKey.eq_iff, and_iff_right hplace.1, and_iff_right hplace.2]
    rw [if_pos hplace, NameMap.find?_insert, hmethods]
    simp only [hkey]
  · rw [if_neg hplace, if_neg]
    rintro rfl
    exact hplace ⟨rfl, rfl⟩

theorem update_update (r : Registry) (k : ApiKey) (f g : Methods → Methods) :
    (r.update k f).update k g = r.update k fun methods => g (f methods) := by
  unfold update
  rw [NameMap.alter_alter]
  simp only [NameMap.alter_alter]

/-- Entering a module and a namespace that are there changes nothing. -/
theorem update_of_found (h : r.find? k = some api) : r.update k id = r := by
  obtain ⟨spaces, hspaces, methods, hmethods, -⟩ :
      ∃ spaces, r.modules.find? k.module = some spaces ∧
        ∃ methods, spaces.find? k.space = some methods ∧ methods.find? k.method = some api := by
    simpa [find?, Option.bind_eq_some_iff] using h
  exact congrArg Registry.mk (NameMap.alter_of_fixed hspaces (NameMap.alter_of_fixed hmethods rfl))

/-! ## Entries -/

theorem mem_entries {e : ApiKey × HostApi} : e ∈ r.entries ↔
    ∃ spaces, (e.1.module, spaces) ∈ r.modules.toList ∧
      ∃ methods, (e.1.space, methods) ∈ spaces.toList ∧ (e.1.method, e.2) ∈ methods.toList := by
  unfold entries
  simp only [List.mem_flatMap, List.mem_map]
  constructor
  · rintro ⟨m, hm, s, hs, x, hx, rfl⟩
    exact ⟨m.2, hm, s.2, hs, hx⟩
  · rintro ⟨spaces, hm, methods, hs, hx⟩
    exact ⟨_, hm, _, hs, _, hx, rfl⟩

/-- What is found under a name is what is listed with it. -/
theorem find?_eq_some_iff : r.find? k = some api ↔ (k, api) ∈ r.toList := by
  unfold find? toList
  simp only [mem_entries, bind, Option.bind_eq_some_iff, NameMap.find?_eq_some_iff]

theorem ordered_entries (r : Registry) : r.entries.Pairwise fun e e' => e.1.Before e'.1 := by
  refine List.pairwise_flatMap.mpr ⟨fun m _ => List.pairwise_flatMap.mpr ⟨fun s _ => ?_, ?_⟩, ?_⟩
  · exact s.2.sorted.map _ fun a b h => .inr ⟨rfl, .inr ⟨rfl, h⟩⟩
  · refine m.2.sorted.imp fun {s s'} h e he e' he' => ?_
    obtain ⟨x, -, rfl⟩ := List.mem_map.mp he
    obtain ⟨x', -, rfl⟩ := List.mem_map.mp he'
    exact .inr ⟨rfl, .inl h⟩
  · refine r.modules.sorted.imp fun {m m'} h e he e' he' => ?_
    obtain ⟨s, -, he⟩ := List.mem_flatMap.mp he
    obtain ⟨s', -, he'⟩ := List.mem_flatMap.mp he'
    obtain ⟨x, -, rfl⟩ := List.mem_map.mp he
    obtain ⟨x', -, rfl⟩ := List.mem_map.mp he'
    exact .inl h

theorem nodup_keys (r : Registry) : r.keys.Nodup := by
  refine List.pairwise_map.mpr (r.ordered_entries.imp ?_)
  intro e e' h he
  exact ApiKey.not_before_self e.1 (he ▸ h)

/-! ## Registering -/

/-- A name that is taken is found where it was, and the registry with it. -/
theorem enter_eq (k : ApiKey) (api : HostApi) (r : Registry) : enter k api r =
    match api.function.signature.check with
    | .error m => .error (.hostFunctionNotSupported s!"{k.qualified}: {m.reason}") r
    | .ok () =>
      if (r.find? k).isSome then .error (.duplicateHostFunction k.qualified) r
      else .ok () (r.insert k api) := by
  unfold enter
  cases api.function.signature.check with
  | error m => rfl
  | ok u =>
    have hthere : ((r.update k id).methods k).find? k.method = r.find? k := by
      rw [methods_update, if_pos ⟨rfl, rfl⟩, find?_eq]
      rfl
    have hinsert : (r.update k id).insert k api = r.insert k api := update_update r k id _
    have hentered : (modify (·.update k id) : EStateM HostError Registry PUnit) r =
        .ok ⟨⟩ (r.update k id) := rfl
    refine (Act.bind_of_ok hentered _).trans ?_
    have hget : (get : EStateM HostError Registry Registry) (r.update k id) =
        .ok (r.update k id) (r.update k id) := rfl
    refine (Act.bind_of_ok hget _).trans ?_
    rw [hthere]
    cases hfound : r.find? k with
    | none => exact congrArg (EStateM.Result.ok ()) hinsert
    | some a =>
      rw [update_of_found hfound]
      rfl

/-- Each signature has been judged, and no module or namespace stands empty. -/
structure Proper (r : Registry) : Prop where
  judged : ∀ e ∈ r.toList, e.2.function.signature.check = .ok ()
  spaces : ∀ m ∈ r.modules.toList, m.2.isEmpty = false
  methods : ∀ m ∈ r.modules.toList, ∀ s ∈ m.2.toList, s.2.isEmpty = false

namespace Proper

theorem empty : Proper Registry.empty := ⟨nofun, nofun, nofun⟩

theorem insert (h : r.Proper) (hcheck : api.function.signature.check = .ok ()) (k : ApiKey) :
    (r.insert k api).Proper := by
  refine ⟨?judged, ?spaces, ?methods⟩
  case judged =>
    rintro ⟨k', api'⟩ he
    rw [← find?_eq_some_iff, find?_insert] at he
    split at he
    · cases he
      exact hcheck
    · exact h.judged _ (find?_eq_some_iff.mp he)
  case spaces =>
    intro m hm
    obtain rfl | hm := NameMap.mem_alter hm
    · exact NameMap.isEmpty_alter ..
    · exact h.spaces m hm
  case methods =>
    intro m hm s hs
    obtain rfl | hm := NameMap.mem_alter hm
    · obtain rfl | hs := NameMap.mem_alter hs
      · exact NameMap.isEmpty_alter ..
      · -- The namespace was there, so its module was.
        cases hfound : r.modules.find? k.module with
        | none =>
          rw [hfound] at hs
          cases hs
        | some spaces =>
          rw [hfound] at hs
          exact h.methods _ (NameMap.find?_eq_some_iff.mp hfound) s hs
    · exact h.methods m hm s hs

/-- There is no module exactly where there is no entry. -/
theorem isEmpty_iff (h : r.Proper) : r.isEmpty = true ↔ r.size = 0 := by
  unfold isEmpty size
  rw [NameMap.isEmpty, List.isEmpty_iff, List.length_eq_zero_iff]
  constructor
  · intro hempty
    unfold toList entries
    rw [hempty]
    rfl
  · refine fun hnone => List.eq_nil_iff_forall_not_mem.mpr fun m hm => ?_
    -- What is not empty leads to an entry.
    obtain ⟨s, hs⟩ := List.exists_mem_of_ne_nil _ (List.isEmpty_eq_false_iff.mp (h.spaces m hm))
    obtain ⟨e, he⟩ := List.exists_mem_of_ne_nil _ (List.isEmpty_eq_false_iff.mp (h.methods m hm s hs))
    have hentry : (⟨⟨m.1, s.1, e.1⟩, e.2⟩ : ApiKey × HostApi) ∈ r.toList :=
      mem_entries.mpr ⟨m.2, hm, s.2, hs, he⟩
    rw [hnone] at hentry
    cases hentry

end Proper

/-! ## A run of registrations -/

/-- The registry after registrations one after the other, whatever they answer. -/
def after (r : Registry) : List (ApiKey × HostApi) → Registry
  | [] => r
  | e :: es =>
    match enter e.1 e.2 r with
    | .ok () r' => r'.after es
    | .error _ r' => r'.after es

/-- The registrations that succeed when they are made one after the other. -/
def accepted (r : Registry) : List (ApiKey × HostApi) → List (ApiKey × HostApi)
  | [] => []
  | e :: es =>
    match enter e.1 e.2 r with
    | .ok () r' => e :: r'.accepted es
    | .error _ r' => r'.accepted es

/-- The registry answers as an ordered map of what succeeded, each name of which is given once. -/
structure MapOf (r : Registry) (done : List (ApiKey × HostApi)) : Prop where
  /-- A registration succeeds if its signature can be an import and its name has not been given. -/
  succeeds : ∀ k api, (∃ r', enter k api r = .ok () r') ↔
    api.function.signature.check = .ok () ∧ k ∉ done.map (·.1)
  /-- One that fails leaves everything as it is. -/
  fails : ∀ k api e r', enter k api r = .error e r' → r' = r
  nodup : (done.map (·.1)).Nodup
  find? : ∀ k api, r.find? k = some api ↔ (k, api) ∈ done
  perm : r.toList.Perm done
  ordered : r.toList.Pairwise fun e e' => e.1.Before e'.1
  size : r.size = done.length
  isEmpty : r.isEmpty = true ↔ r.size = 0

/-- A registration that is refused leaves the registry as it is, so it may be passed over. -/
theorem after_eq_registerAll (r : Registry) (es : List (ApiKey × HostApi)) :
    r.after es = r.registerAll es := by
  induction es generalizing r with
  | nil => rfl
  | cons e es ih =>
    unfold after registerAll register
    rw [enter_eq]
    cases e.2.function.signature.check with
    | error m => exact ih r
    | ok u =>
      cases r.find? e.1 with
      | none => exact ih (r.insert e.1 e.2)
      | some api => exact ih r

variable {done : List (ApiKey × HostApi)}

/-- What is found is what succeeded, and no name was given twice. -/
structure Holds (r : Registry) (done : List (ApiKey × HostApi)) : Prop where
  proper : r.Proper
  nodup : (done.map (·.1)).Nodup
  found : ∀ k api, r.find? k = some api ↔ (k, api) ∈ done

namespace Holds

theorem find?_eq_none_iff (h : r.Holds done) : r.find? k = none ↔ k ∉ done.map (·.1) := by
  rw [Option.eq_none_iff_forall_ne_some, List.mem_map, not_exists]
  constructor
  · rintro hnone ⟨_, api⟩ ⟨he, rfl⟩
    exact hnone api ((h.found _ api).mpr he)
  · intro hnot api hfound
    exact hnot (k, api) ⟨(h.found k api).mp hfound, rfl⟩

theorem insert (h : r.Holds done) (hcheck : api.function.signature.check = .ok ())
    (hfree : r.find? k = none) :
    (r.insert k api).Holds (done ++ [(k, api)]) := by
  have hk := h.find?_eq_none_iff.mp hfree
  refine ⟨h.proper.insert hcheck k, ?_, fun k' api' => ?_⟩
  · rw [List.map_append, List.map_singleton, ← List.concat_eq_append]
    exact h.nodup.concat hk
  · rw [find?_insert, List.mem_append, List.mem_singleton, Prod.mk.injEq]
    split
    · rename_i hk'
      rw [Option.some.injEq, and_iff_right hk', or_iff_right, eq_comm]
      exact fun he => hk (hk' ▸ List.mem_map_of_mem he)
    · rename_i hk'
      rw [h.found, or_iff_left fun he => hk' he.1]

theorem after (h : r.Holds done) (es : List (ApiKey × HostApi)) :
    (r.after es).Holds (done ++ r.accepted es) := by
  induction es generalizing r done with
  | nil => exact (List.append_nil done).symm ▸ h
  | cons e es ih =>
    unfold Registry.after accepted
    rw [enter_eq]
    cases hcheck : e.2.function.signature.check with
    | error m => exact ih h
    | ok u =>
      cases hfound : r.find? e.1 with
      | some api => exact ih h
      | none =>
        have hdone := ih (h.insert hcheck hfound)
        rwa [List.append_assoc] at hdone

theorem mapOf (h : r.Holds done) : r.MapOf done := by
  have hperm : r.toList.Perm done := by
    refine (List.perm_ext_iff_of_nodup r.nodup_keys.of_map h.nodup.of_map).mpr fun e => ?_
    have hlisted : r.find? e.1 = some e.2 ↔ e ∈ r.toList := find?_eq_some_iff
    rw [← hlisted, h.found]
  refine ⟨fun k api => ?succeeds, fun k api e r' he => ?fails, h.nodup, h.found, hperm, r.ordered_entries,
    hperm.length_eq, h.proper.isEmpty_iff⟩
  case succeeds =>
    rw [enter_eq, ← h.find?_eq_none_iff]
    cases api.function.signature.check with
    | error m => simp
    | ok u => cases r.find? k <;> simp
  case fails =>
    rw [enter_eq] at he
    split at he
    · cases he
      rfl
    · split at he
      · cases he
        rfl
      · cases he

end Holds

/-- A proper registry holds what it lists. -/
theorem Proper.holds (h : r.Proper) : r.Holds r.toList := ⟨h, r.nodup_keys, fun _ _ => find?_eq_some_iff⟩

theorem Proper.registerAll (h : r.Proper) (es : List (ApiKey × HostApi)) : (r.registerAll es).Proper :=
  after_eq_registerAll r es ▸ (h.holds.after es).proper

/-- **A registry is an ordered map in which each name is given once.** Whatever registrations are made on an
empty registry, one succeeds if its signature can be an import and none before it with its name succeeded,
one that fails changes nothing, and what is found, listed and counted is what succeeded. -/
theorem mapOf_accepted (es : List (ApiKey × HostApi)) : (empty.after es).MapOf (empty.accepted es) :=
  (Proper.empty.holds.after es).mapOf

end Registry
end AspectHost
