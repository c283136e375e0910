import AspectHost.Aspect
import AspectHost.Proofs.Outcome

/-! # What an instance is made of

Instantiating joins a module with the host functions of a registry: each import is backed by a function
that is registered, and nothing but functions is imported. -/

namespace AspectHost

section

variable {ε α β : Type}

/-- What every step of a fold keeps, the fold keeps. -/
theorem foldlM_keeps {f : β → α → Except ε β} (keeps : β → Prop) {l : List α}
    (step : ∀ a ∈ l, ∀ b b', keeps b → f b a = .ok b' → keeps b') {b r : β} (hb : keeps b)
    (h : l.foldlM f b = .ok r) : keeps r := by
  induction l generalizing b with
  | nil =>
    cases h
    exact hb
  | cons a l ih =>
    rw [List.foldlM_cons, bind_eq_ok] at h
    obtain ⟨b', ha, hr⟩ := h
    exact ih (fun a ha => step a (.tail _ ha)) (step a (.head _) b b' hb ha) hr

/-- What is made of a list is made of it element by element. -/
theorem getElem?_mapM {f : α → Except ε β} {l : List α} {r : List β} (h : l.mapM f = .ok r) (n : Nat) :
    (l[n]? = none ∧ r[n]? = none) ∨ ∃ a b, l[n]? = some a ∧ r[n]? = some b ∧ f a = .ok b := by
  induction l generalizing r n with
  | nil =>
    cases h
    exact .inl ⟨rfl, rfl⟩
  | cons a l ih =>
    rw [List.mapM_cons, bind_eq_ok] at h
    obtain ⟨b, hb, h⟩ := h
    obtain ⟨bs, hbs, h⟩ := bind_eq_ok.mp h
    cases h
    cases n with
    | zero => exact .inr ⟨a, b, rfl, rfl, hb⟩
    | succ n => exact ih hbs n

end

/-! ## Imports -/

/-- The function of every host call that the offer makes is registered. -/
def Offer.Backed (r : Registry) (offer : Offer) : Prop :=
  ∀ api, offer = .api api → ∃ e ∈ r.entries, e.2.function = api.function

namespace Linker

variable {r : Registry} {l : Linker} {m : Wasm.Module} {offers : List Offer}

theorem offers_of_define {l' : Linker} {n : ImportName} {o : Offer} (h : l.define n o = .ok l') :
    l'.offers = l.offers ++ [(n, o)] := by
  unfold define at h
  split at h
  · cases h
  · cases h
    rfl

theorem offers_of_offer {l' : Linker} {n : ImportName} {api : LinkedApi} (h : l.offer n api = .ok l') :
    l'.offers = l.offers ++ [(n, .api api)] := by
  unfold offer at h
  dsimp only at h
  split at h
  · cases h
  · exact offers_of_define h

theorem backed_of_mem {api : LinkedApi} (h : api ∈ (LinkedApi.ofRegistry r).toList) :
    (Offer.api api).Backed r := by
  unfold LinkedApi.ofRegistry Registry.toList at h
  rw [List.toList_toArray] at h
  obtain ⟨e, he, rfl⟩ := List.mem_map.mp h
  intro api hapi
  cases hapi
  exact ⟨e.1, List.fst_mem_of_mem_zipIdx he, rfl⟩

theorem backed_of_ofRegistry (h : ofRegistry r = .ok l) : ∀ e ∈ l.offers, e.2.Backed r := by
  unfold ofRegistry at h
  obtain ⟨l₁, hapis, habort⟩ := bind_eq_ok.mp h
  have hl₁ : ∀ e ∈ l₁.offers, e.2.Backed r := by
    refine foldlM_keeps (fun l : Linker => ∀ e ∈ l.offers, e.2.Backed r) ?_ ?_ hapis
    · intro e he l l' hl hoffer x hx
      rw [offers_of_offer hoffer] at hx
      rcases List.mem_append.mp hx with hx | hx
      · exact hl x hx
      · cases List.mem_singleton.mp hx
        exact backed_of_mem (List.of_mem_zip he).2
    · intro e he
      cases he
  rw [offers_of_define habort]
  intro e he
  rcases List.mem_append.mp he with he | he
  · exact hl₁ e he
  · cases List.mem_singleton.mp he
    intro api hapi
    cases hapi

/-- Each import is that of a function, and behind it stands what is on offer under its name, if that has the
type. -/
theorem resolve_cases (h : l.resolve m = .ok offers) (n : Nat) :
    (m.imports[n]? = none ∧ offers[n]? = none) ∨
    ∃ i o t, m.imports[n]? = some i ∧ offers[n]? = some o ∧ l.find? ⟨i.module, i.name⟩ = some o ∧
      i.desc = .func t ∧ m.types[t]? = some o.type := by
  unfold resolve at h
  obtain hnone | ⟨i, o, hi, ho, hresolved⟩ := getElem?_mapM h n
  · exact .inl hnone
  · split at hresolved
    · rename_i found t hfound hdesc
      split at hresolved
      · rename_i htype
        cases hresolved
        exact .inr ⟨i, o, t, hi, ho, hfound, hdesc, htype⟩
      · cases hresolved
    · cases hresolved
    · cases hresolved

/-- What stands behind an import was on offer, and the import is a function. -/
theorem of_resolve (h : l.resolve m = .ok offers) :
    (∀ i ∈ m.imports, ∃ t, i.desc = .func t) ∧ ∀ o ∈ offers, ∃ n, (n, o) ∈ l.offers := by
  constructor
  · intro i hi
    obtain ⟨n, hn⟩ := List.mem_iff_getElem?.mp hi
    obtain ⟨hnone, -⟩ | ⟨i', o, t, hi', -, -, hdesc, -⟩ := resolve_cases h n
    · cases hn.symm.trans hnone
    · cases hn.symm.trans hi'
      exact ⟨t, hdesc⟩
  · intro o ho
    obtain ⟨n, hn⟩ := List.mem_iff_getElem?.mp ho
    obtain ⟨-, hnone⟩ | ⟨i, o', t, -, ho', hfound, -, -⟩ := resolve_cases h n
    · cases hn.symm.trans hnone
    · cases hn.symm.trans ho'
      obtain ⟨before, after, hoffers, -⟩ := List.lookup_eq_some_iff.mp hfound
      exact ⟨⟨i.module, i.name⟩, by simp [hoffers]⟩

end Linker

/-- Guest code that imports functions only has the globals that it defines. -/
theorem Wasm.Module.globalSpace_of_imports {m : Module} (h : ∀ i ∈ m.imports, ∃ t, i.desc = .func t) :
    m.globalSpace = m.globals.map Global.type := by
  have hnone : m.importedGlobals = [] := by
    refine List.filterMap_eq_nil_iff.mpr ?_
    intro i hi
    obtain ⟨t, ht⟩ := h i hi
    rw [ht]
  rw [globalSpace, hnone, List.nil_append]

/-! ## Instances -/

/-- The linked code is what linking the host functions of a registry to a module gives. -/
structure Linked.Joins (L : Linked) (c : Compiled) (config : Config) : Prop where
  module : L.module = c.module
  program : c.program config = some L.program
  imports : ∃ l, Linker.ofRegistry c.apis = .ok l ∧ l.resolve c.module = .ok L.imports
  config : L.config = config

namespace Linked.Joins

variable {L : Linked} {c : Compiled} {config : Config} (h : L.Joins c config)

include h

theorem ready : Linked.Joins { L with ready := true } c config :=
  ⟨h.module, h.program, h.imports, h.config⟩

/-- Every host function behind an import is registered. -/
theorem backed : ∀ o ∈ L.imports, o.Backed c.apis := by
  obtain ⟨l, hl, hresolve⟩ := h.imports
  intro o ho
  obtain ⟨n, hn⟩ := (Linker.of_resolve hresolve).2 o ho
  exact Linker.backed_of_ofRegistry hl (n, o) hn

/-- The globals are those that the module defines. -/
theorem globalSpace : L.module.globalSpace = c.module.globals.map Wasm.Global.type := by
  obtain ⟨l, -, hresolve⟩ := h.imports
  rw [h.module]
  exact Wasm.Module.globalSpace_of_imports (Linker.of_resolve hresolve).1

/-- Guest code runs on fuel exactly where fuel counts gas. -/
theorem fuelled : L.program.fuelled = true ↔ L.config.gas.metering = .fuel := by
  have hp := h.program
  unfold Compiled.program at hp
  rw [h.config]
  cases hf : c.functions with
  | none =>
    rw [hf] at hp
    cases hp
  | some fs =>
    rw [hf] at hp
    rw [← Option.some.inj hp]
    exact decide_eq_true_iff

end Linked.Joins

namespace Compiled

variable {c : Compiled} {config : Config} {l : Live}

theorem prepare_eq_ok (h : c.prepare config = .ok l) :
    l.linked.Joins c config ∧ l.linked.ready = false ∧
      ∃ s, c.module.elements.foldlM placeElements (c.blankStore config) = .ok s ∧
        c.module.data.foldlM placeData s = .ok l.store := by
  unfold prepare at h
  obtain ⟨linker, hlinker, h⟩ := bind_eq_ok.mp h
  obtain ⟨imports, himports, h⟩ := bind_eq_ok.mp h
  cases hp : c.program config with
  | none =>
    rw [hp] at h
    cases h
  | some program =>
    simp only [hp] at h
    split at h
    · cases h
    · obtain ⟨-, -, h⟩ := bind_eq_ok.mp h
      obtain ⟨s, hs, h⟩ := bind_eq_ok.mp h
      obtain ⟨s', hs', h⟩ := bind_eq_ok.mp h
      cases h
      exact ⟨⟨rfl, hp, ⟨linker, hlinker, himports⟩, rfl⟩, rfl, s, hs, hs'⟩

/-- An instance is ready, and its store is the prepared one, or what the start function made of that. -/
theorem instantiate_eq_ok [Wasm.Engine] (h : (c.instantiate config).1 = .ok l) :
    l.linked.Joins c config ∧ l.linked.ready = true ∧
      ∃ l₀, c.prepare config = .ok l₀ ∧
        (l.store = l₀.store ∨ ∃ f results w,
          l₀.linked.invoke f [] ⟨l₀.store, l₀.contexts, #[]⟩ = .ok results w ∧ l.store = w.guest) := by
  unfold instantiate at h
  cases hp : c.prepare config with
  | error e =>
    rw [hp] at h
    cases h
  | ok l₀ =>
    rw [hp] at h
    obtain ⟨hjoins, -, -⟩ := prepare_eq_ok hp
    dsimp only at h
    split at h
    · cases h
      exact ⟨hjoins.ready, rfl, l₀, rfl, .inl rfl⟩
    · rename_i f hf
      split at h
      · rename_i results w hw
        cases h
        exact ⟨hjoins.ready, rfl, l₀, rfl, .inr ⟨f, results, w, hw, rfl⟩⟩
      · cases h

end Compiled
end AspectHost
