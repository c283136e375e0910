import AspectHost.Proofs.Instantiation
import AspectHost.Validator

/-! # Validated code exports what the host asks for

The validator looks at the types of exports; the host looks the exports up again whenever it needs one, by
space and index, and the allocator once more by the type of the function there. Both readings agree on valid
modules (`type_of_functions`), so what the validator found the host finds (`Linked.Joins.complete`). -/

namespace AspectHost

/-! ## Exports -/

namespace Wasm.Module

variable {m : Module} {name : String}

theorem exportIndex?_of_memory {l : Limits} (h : m.export? name = some (.memory l)) :
    ∃ i, m.exportIndex? .memory name = some i := by
  unfold export? at h
  unfold exportIndex?
  obtain ⟨e, he, h⟩ := Option.bind_eq_some_iff.mp h
  rw [he]
  split at h
  · cases hf : m.functionType? e.index <;> rw [hf] at h <;> cases h
  · cases ht : m.tableSpace[e.index]? <;> rw [ht] at h <;> cases h
  · rename_i hspace
    exact ⟨e.index, if_pos hspace⟩
  · cases hg : m.globalSpace[e.index]? <;> rw [hg] at h <;> cases h

theorem exportIndex?_of_func {t : FuncType} (h : m.export? name = some (.func t)) :
    ∃ f, m.exportIndex? .func name = some f ∧ m.functionType? f = some t := by
  unfold export? at h
  unfold exportIndex?
  obtain ⟨e, he, h⟩ := Option.bind_eq_some_iff.mp h
  rw [he]
  split at h
  · rename_i hspace
    refine ⟨e.index, if_pos hspace, ?_⟩
    cases hf : m.functionType? e.index <;> rw [hf] at h <;> cases h
    rfl
  · cases ht : m.tableSpace[e.index]? <;> rw [ht] at h <;> cases h
  · cases hm : m.memorySpace[e.index]? <;> rw [hm] at h <;> cases h
  · cases hg : m.globalSpace[e.index]? <;> rw [hg] at h <;> cases h

/-- In a valid module every function that is declared has a body. -/
theorem length_code (h : m.valid {} = true) : m.functions.length = m.code.length := by
  unfold valid at h
  split at h
  · cases h
  · simp only [Bool.and_eq_true, beq_iff_eq] at h
    exact h.1.2

end Wasm.Module

namespace Validator

variable {v : Validator} {m : Wasm.Module}

/-- Nothing is wrong with code that exports a memory and an allocator. -/
theorem defect?_eq_none (h : v.defect? m = none) :
    (∃ l, m.export? v.config.memoryExport = some (.memory l)) ∧
      m.export? v.config.allocatorExport = some (.func allocatorType) := by
  unfold defect? at h
  split at h
  · rename_i l t hmemory hallocator
    split at h
    · rename_i ht
      exact ⟨⟨l, hmemory⟩, ht ▸ hallocator⟩
    · cases h
  · cases h
  · cases h

theorem validate_eq_ok [Wasm.Engine] {code : Bytes} (h : v.validate code = .ok ()) :
    ∃ m, Wasm.Engine.read code = .ok m ∧ v.defect? m = none := by
  unfold validate at h
  split at h
  · cases h
  · rename_i m hm
    split at h
    · cases h
    · rename_i hnone
      exact ⟨m, hm, hnone⟩

end Validator

theorem read_of_compile [Wasm.Engine] {code : Bytes} {config : Config} {m : Wasm.Module}
    (h : compile code config = .ok m) : Wasm.Engine.read code = .ok m := by
  obtain ⟨u, -, h⟩ := bind_eq_ok.mp h
  cases hread : Wasm.Engine.read code with
  | error reason =>
    rw [hread] at h
    cases h
  | ok m' =>
    rw [hread] at h
    cases h
    rfl

/-! ## The functions of an instance -/

section

variable {α β γ : Type} {f : α → Option β} {g : β → γ} {k : α → Option γ} {l : List α} {r : List β}

/-- A computation that shows the results of another does so on lists. -/
theorem mapM_of_mapM (hf : ∀ a b, f a = some b → k a = some (g b)) (h : l.mapM f = some r) :
    l.mapM k = some (r.map g) := by
  induction l generalizing r with
  | nil =>
    cases h
    rfl
  | cons a l ih =>
    rw [List.mapM_cons] at h
    obtain ⟨b, hb, h⟩ := Option.bind_eq_some_iff.mp h
    obtain ⟨bs, hbs, h⟩ := Option.bind_eq_some_iff.mp h
    cases h
    rw [List.mapM_cons, hf a b hb, ih hbs]
    rfl

theorem getElem?_of_mapM (h : l.mapM f = some r) (i : Nat) : r[i]? = l[i]?.bind f := by
  induction l generalizing r i with
  | nil =>
    cases h
    rfl
  | cons a l ih =>
    rw [List.mapM_cons] at h
    obtain ⟨b, hb, h⟩ := Option.bind_eq_some_iff.mp h
    obtain ⟨bs, hbs, h⟩ := Option.bind_eq_some_iff.mp h
    cases h
    cases i with
    | zero => exact hb.symm
    | succ i => exact ih hbs i

end

namespace Compiled

variable {c : Compiled} {fs : List Wasm.Function}

/-- The functions of an instance have the types that the module declares, if each has a body. -/
theorem type_of_functions (h : c.functions = some fs)
    (hcode : c.module.functions.length = c.module.code.length) (i : Nat) :
    Wasm.Function.type <$> fs[i]? = c.module.functionType? i := by
  unfold functions at h
  obtain ⟨imported, himported, h⟩ := Option.bind_eq_some_iff.mp h
  obtain ⟨defined, hdefined, h⟩ := Option.bind_eq_some_iff.mp h
  cases h
  have himported : c.module.importedFunctions.mapM (c.module.types[·]?) =
      some (imported.map Wasm.Function.type) := by
    refine mapM_of_mapM ?_ himported
    intro t f hf
    obtain ⟨type, htype, rfl⟩ := Option.map_eq_some_iff.mp hf
    exact htype
  have hdefined : (c.module.functions.zip c.module.code).mapM ((c.module.types[·]?) ∘ Prod.fst) =
      some (defined.map Wasm.Function.type) := by
    refine mapM_of_mapM ?_ hdefined
    rintro ⟨t, b⟩ f hf
    obtain ⟨type, htype, hf⟩ := Option.bind_eq_some_iff.mp hf
    cases hf
    exact htype
  have hfst : (c.module.functions.zip c.module.code).map Prod.fst = c.module.functions :=
    List.map_fst_zip (Nat.le_of_eq hcode)
  have hall : c.module.functionSpace.mapM (c.module.types[·]?) =
      some ((imported ++ defined).map Wasm.Function.type) := by
    rw [Wasm.Module.functionSpace, ← hfst, List.mapM_append, List.mapM_map, himported,
      hdefined, List.map_append]
    rfl
  have hi := getElem?_of_mapM hall i
  rw [List.getElem?_map] at hi
  exact hi

end Compiled

namespace Linked

/-- The code exports a memory, and an allocator of the right type. -/
structure Complete (L : Linked) : Prop where
  memory : ∃ i, L.module.exportIndex? .memory L.config.memoryExport = some i
  allocator : ∃ f, L.module.exportIndex? .func L.config.allocatorExport = some f ∧
    Wasm.Function.type <$> L.program.functions[f]? = some Validator.allocatorType

variable {L : Linked} {c : Compiled} {config : Config}

/-- **Validated code is complete**, whatever it is linked to. -/
theorem Joins.complete (h : L.Joins c config) (hvalid : c.module.valid {} = true)
    (hdefect : (⟨config⟩ : Validator).defect? c.module = none) : L.Complete := by
  obtain ⟨⟨l, hmemory⟩, hallocator⟩ := Validator.defect?_eq_none hdefect
  obtain ⟨i, hi⟩ := Wasm.Module.exportIndex?_of_memory hmemory
  obtain ⟨f, hf, htype⟩ := Wasm.Module.exportIndex?_of_func hallocator
  have hprogram := h.program
  unfold Compiled.program at hprogram
  obtain ⟨fs, hfs, hprogram⟩ := Option.bind_eq_some_iff.mp hprogram
  have hfunctions : L.program.functions = fs.toArray := by
    rw [← Option.some.inj hprogram]
  refine ⟨⟨i, ?_⟩, f, ?_, ?_⟩
  · rw [h.module, h.config]
    exact hi
  · rw [h.module, h.config]
    exact hf
  · rw [hfunctions, List.getElem?_toArray, Compiled.type_of_functions hfs (Wasm.Module.length_code hvalid)]
    exact htype

namespace Complete

variable (h : L.Complete)

include h

/-- The memory is found once the instance is ready. -/
theorem content_eq (s : Wasm.Store) :
    L.content s = if L.ready then .ok s.memory else .error (.engine notReady) := by
  obtain ⟨i, hi⟩ := h.memory
  unfold content
  cases L.ready with
  | false => rfl
  | true => simp only [Bool.not_true, Bool.false_eq_true, if_false, if_true, hi]

/-- The allocator is found once the instance is ready. -/
theorem allocator_eq :
    ∃ f, L.allocator = if L.ready then .ok f else .error (.engine notReady) := by
  obtain ⟨f, hf, htype⟩ := h.allocator
  refine ⟨f, ?_⟩
  unfold Linked.allocator
  cases L.ready with
  | false => rfl
  | true => simp only [Bool.not_true, Bool.false_eq_true, if_false, if_true, hf, htype,
      Validator.allocatorType]

end Complete
end Linked
end AspectHost
