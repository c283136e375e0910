import AspectHost.Proofs.Host.Lifting
import AspectHost.Proofs.Host.Registration
import AspectHost.Proofs.Instantiation

/-! # Imports are wired by their names

The name of a host function has three parts and that of an import two, so functions can meet under one name
though each was registered once. Linking goes through the functions in their order: all names are free, or it
stops at the first that is taken (`Linker.offerAll_cases`). Nothing else can stop it, since what is registered
takes no more pointers than can be passed on, and the name of a host function has a dot in it. -/

namespace AspectHost

/-! ## Names -/

namespace ApiKey

/-- Two functions would be the same import. -/
def Clashes (k k' : ApiKey) : Prop := k ≠ k' ∧ k.module = k'.module ∧ k.importName = k'.importName

instance (k k' : ApiKey) : Decidable (k.Clashes k') := by unfold Clashes; infer_instance

/-- No two of the functions would be the same import. -/
def Unambiguous (ks : List ApiKey) : Prop := ∀ k ∈ ks, ∀ k' ∈ ks, ¬ k.Clashes k'

instance (ks : List ApiKey) : Decidable (Unambiguous ks) := by unfold Unambiguous; infer_instance

/-- The function is the first that would be the same import as one before it. -/
def FirstClash (ks : List ApiKey) (k : ApiKey) : Prop :=
  ∃ before after, ks = before ++ k :: after ∧ Unambiguous before ∧ ∃ k' ∈ before, k'.Clashes k

theorem FirstClash.not_unambiguous {ks : List ApiKey} {k : ApiKey} (h : FirstClash ks k) :
    ¬ Unambiguous ks := by
  obtain ⟨before, after, rfl, -, k', hk', hclash⟩ := h
  intro hunambiguous
  exact hunambiguous k' (List.mem_append_left _ hk') k (List.mem_append_right _ (.head _)) hclash

end ApiKey

namespace ImportName

variable {k k' : ApiKey} {ks : List ApiKey}

theorem ofKey_eq_iff : ofKey k = ofKey k' ↔ k.module = k'.module ∧ k.importName = k'.importName := by
  unfold ofKey
  rw [ImportName.mk.injEq]

/-- The report of failed assertions has no dot in its name. -/
theorem ofKey_ne_abort (k : ApiKey) : ofKey k ≠ abort := by
  intro h
  have hname : k.importName = "abort" := congrArg ImportName.name h
  have hdot : '.' ∈ "abort".toList := by
    rw [← hname]
    unfold ApiKey.importName
    rw [String.toList_append, String.toList_append]
    exact List.mem_append_left _ (List.mem_append_right _ (.head _))
  exact absurd hdot (by decide)

theorem abort_not_mem (ks : List ApiKey) : abort ∉ ks.map ofKey := by
  intro h
  obtain ⟨k, -, hk⟩ := List.mem_map.mp h
  exact ofKey_ne_abort k hk

theorem nodup_map_ofKey_iff (hks : ks.Nodup) : (ks.map ofKey).Nodup ↔ ApiKey.Unambiguous ks := by
  rw [List.nodup_map_iff_inj_on hks]
  constructor
  · rintro h k hk k' hk' ⟨hne, hsame⟩
    exact hne (h k hk k' hk' (ofKey_eq_iff.mpr hsame))
  · intro h k hk k' hk' hsame
    by_contra hne
    exact h k hk k' hk' ⟨hne, ofKey_eq_iff.mp hsame⟩

end ImportName

/-! ## Names that are free, and names that are taken -/

/-- The function as it is linked, with its budget at that place. -/
def HostApi.linked (a : HostApi) (k : ApiKey) (slot : Nat) : LinkedApi :=
  ⟨k.qualified, slot, a.function, a.rule⟩

/-- The functions of a registry by their names, as they are linked. -/
def Registry.apis (r : Registry) : List (ApiKey × LinkedApi) :=
  r.toList.zipIdx.map fun e => (e.1.1, e.1.2.linked e.1.1 e.2)

namespace Linker

variable {l : Linker} {n : ImportName} {o : Offer} {r : Registry}

/-- The names that are taken. -/
def names (l : Linker) : List ImportName := l.offers.map (·.1)

theorem define_of_free (h : n ∉ l.names) (o : Offer) : l.define n o = .ok ⟨l.offers ++ [(n, o)]⟩ := by
  have hfree : l.find? n = none := lookup_eq_none_iff.mpr h
  unfold define
  rw [hfree]
  rfl

theorem define_of_taken (h : n ∈ l.names) (o : Offer) :
    l.define n o = .error (.link s!"cannot link {n.render}: defined twice") := by
  have htaken : (l.find? n).isSome := by
    rw [← Option.ne_none_iff_isSome]
    exact fun hfree => lookup_eq_none_iff.mp hfree h
  unfold define
  rw [if_pos htaken]

/-- What a function is on offer as. -/
def offered (e : ApiKey × LinkedApi) : ImportName × Offer := (.ofKey e.1, .api e.2)

theorem offer_eq_define {a : LinkedApi} (h : a.function.signature.params.length ≤ Offer.maxPointers)
    (l : Linker) (n : ImportName) : l.offer n a = l.define n (.api a) := by
  unfold offer
  exact if_neg (Nat.not_lt.mpr h)

/-- Either all names are free, or the first one that is not is reported. -/
theorem offerAll_cases {es : List (ApiKey × LinkedApi)}
    (hes : ∀ e ∈ es, e.2.function.signature.params.length ≤ Offer.maxPointers) (hl : l.names.Nodup) :
    ((l.names ++ (es.map (·.1)).map ImportName.ofKey).Nodup ∧
      es.foldlM (fun l e => l.offer (.ofKey e.1) e.2) l = .ok ⟨l.offers ++ es.map offered⟩) ∨
    ∃ before k after, es.map (·.1) = before ++ k :: after ∧ (l.names ++ before.map .ofKey).Nodup ∧
      .ofKey k ∈ l.names ++ before.map .ofKey ∧ es.foldlM (fun l e => l.offer (.ofKey e.1) e.2) l =
        .error (.link s!"cannot link {k.qualified}: defined twice") := by
  induction es generalizing l with
  | nil =>
    refine .inl ⟨?_, ?_⟩
    · rwa [List.map_nil, List.map_nil, List.append_nil]
    · rw [List.map_nil, List.append_nil]
      rfl
  | cons e es ih =>
    obtain ⟨he, hes⟩ := List.forall_mem_cons.mp hes
    rw [List.foldlM_cons, offer_eq_define he]
    by_cases htaken : .ofKey e.1 ∈ l.names
    · refine .inr ⟨[], e.1, es.map (·.1), rfl, ?_, List.mem_append_left _ htaken, ?_⟩
      · rwa [List.map_nil, List.append_nil]
      · rw [define_of_taken htaken]
        rfl
    · rw [define_of_free htaken]
      have hnames : names ⟨l.offers ++ [offered e]⟩ = l.names ++ [.ofKey e.1] := List.map_append
      have hnodup : (names ⟨l.offers ++ [offered e]⟩).Nodup := by
        rw [hnames, ← List.concat_eq_append]
        exact hl.concat htaken
      obtain ⟨hfree, hall⟩ | ⟨before, k, after, hkeys, hfree, hk, herror⟩ := ih hes hnodup
      · refine .inl ⟨?_, hall.trans ?_⟩
        · rwa [hnames, List.append_assoc] at hfree
        · rw [List.append_assoc]
          rfl
      · refine .inr ⟨e.1 :: before, k, after, congrArg (e.1 :: ·) hkeys, ?_, ?_, herror⟩
        · rwa [hnames, List.append_assoc] at hfree
        · rwa [hnames, List.append_assoc] at hk

end Linker

/-! ## Linking a registry -/

namespace Registry

variable {r : Registry}

theorem keys_apis : r.apis.map (·.1) = r.keys := by
  unfold apis keys
  rw [List.map_map]
  conv_rhs => rw [← List.zipIdx_map_fst 0 r.toList, List.map_map]
  rfl

/-- What is linked has the name and the function of the entry at its place. -/
theorem getElem?_apis (slot : Nat) :
    r.apis[slot]? = r.toList[slot]?.map fun e => (e.1, e.2.linked e.1 slot) := by
  unfold apis
  rw [List.getElem?_map, List.getElem?_zipIdx, Nat.zero_add, Option.map_map]
  rfl

theorem Proper.passable (h : r.Proper) :
    ∀ e ∈ r.apis, e.2.function.signature.params.length ≤ Offer.maxPointers := by
  intro e he
  obtain ⟨x, hx, rfl⟩ := List.mem_map.mp he
  exact (Signature.check_eq_ok_iff.mp (h.judged x.1 (List.fst_mem_of_mem_zipIdx hx))).1

end Registry

namespace Linker

variable {r : Registry} {l : Linker}

theorem ofApis_eq (r : Registry) :
    ofApis r = r.apis.foldlM (fun l e => l.offer (.ofKey e.1) e.2) {} := by
  have hzip : (r.toList.map (·.1)).zip (LinkedApi.ofRegistry r).toList = r.apis := by
    change r.keys.zip _ = _
    unfold LinkedApi.ofRegistry
    rw [← Registry.keys_apis, List.toList_toArray]
    unfold Registry.apis
    rw [List.map_map, List.zip_map']
    rfl
  unfold ofApis
  rw [hzip]

/-- Linking the host functions stops at the first that is the same import as an earlier one. -/
theorem ofApis_cases (h : r.Proper) :
    (ApiKey.Unambiguous r.keys ∧ ofApis r = .ok ⟨r.apis.map offered⟩) ∨
    ∃ k, ApiKey.FirstClash r.keys k ∧
      ofApis r = .error (.link s!"cannot link {k.qualified}: defined twice") := by
  have hempty : names {} = [] := rfl
  obtain ⟨hfree, hok⟩ | ⟨before, k, after, hkeys, hfree, hk, herror⟩ :=
    offerAll_cases (l := {}) h.passable List.nodup_nil
  · rw [hempty, List.nil_append, Registry.keys_apis, ImportName.nodup_map_ofKey_iff r.nodup_keys] at hfree
    exact .inl ⟨hfree, (ofApis_eq r).trans hok⟩
  · rw [hempty, List.nil_append] at hfree hk
    rw [Registry.keys_apis] at hkeys
    have hnodup := r.nodup_keys
    rw [hkeys, List.nodup_append] at hnodup
    obtain ⟨hbefore, -, hapart⟩ := hnodup
    obtain ⟨k', hk', hsame⟩ := List.mem_map.mp hk
    have hclash : k'.Clashes k := ⟨hapart k' hk' k (.head _), ImportName.ofKey_eq_iff.mp hsame⟩
    have hunambiguous := (ImportName.nodup_map_ofKey_iff hbefore).mp hfree
    exact .inr ⟨k, ⟨before, after, hkeys, hunambiguous, k', hk', hclash⟩, (ofApis_eq r).trans herror⟩

theorem names_apis : names ⟨r.apis.map offered⟩ = r.keys.map .ofKey := by
  unfold names
  rw [← Registry.keys_apis, List.map_map, List.map_map]
  rfl

/-- The report of failed assertions always finds its name free. -/
theorem abort_not_mem_names (h : r.Proper) (hl : ofApis r = .ok l) : .abort ∉ l.names := by
  obtain ⟨-, hok⟩ | ⟨k, -, herror⟩ := ofApis_cases h
  · cases hl.symm.trans hok
    rw [names_apis]
    exact ImportName.abort_not_mem r.keys
  · cases hl.symm.trans herror

theorem ofRegistry_cases (h : r.Proper) :
    (ApiKey.Unambiguous r.keys ∧
      ofRegistry r = .ok ⟨r.apis.map offered ++ [(.abort, .abort)]⟩) ∨
    ∃ k, ApiKey.FirstClash r.keys k ∧
      ofRegistry r = .error (.link s!"cannot link {k.qualified}: defined twice") := by
  obtain ⟨hunambiguous, hok⟩ | ⟨k, hclash, herror⟩ := ofApis_cases h
  · refine .inl ⟨hunambiguous, ?_⟩
    unfold ofRegistry
    rw [hok]
    exact define_of_free (abort_not_mem_names h hok) .abort
  · refine .inr ⟨k, hclash, ?_⟩
    unfold ofRegistry
    rw [herror]
    rfl

/-- The host functions and the report of failed assertions are on offer, and nothing else. -/
theorem names_of_ofRegistry (h : r.Proper) (hl : ofRegistry r = .ok l) :
    l.names = r.keys.map .ofKey ++ [.abort] := by
  obtain ⟨-, hok⟩ | ⟨k, -, herror⟩ := ofRegistry_cases h
  · cases hl.symm.trans hok
    rw [← names_apis]
    exact List.map_append
  · cases hl.symm.trans herror

theorem nodup_names (h : r.Proper) (hl : ofRegistry r = .ok l) : l.names.Nodup := by
  obtain ⟨hunambiguous, -⟩ | ⟨k, -, herror⟩ := ofRegistry_cases h
  · rw [names_of_ofRegistry h hl, ← List.concat_eq_append]
    have hkeys := (ImportName.nodup_map_ofKey_iff r.nodup_keys).mpr hunambiguous
    exact hkeys.concat (ImportName.abort_not_mem r.keys)
  · cases hl.symm.trans herror

end Linker

/-! ## Calls through an import -/

/-- A call whose arguments have been counted: what is left is to judge their kinds and to run. -/
def HostFunction.counted (f : HostFunction) (args : List Value) : HostAct HostError (Option Value) :=
  match mismatch? args f.signature.params with
  | some e => Act.fail (.decode e)
  | none => f.body args

theorem HostFunction.call_eq_counted {f : HostFunction} {args : List Value}
    (h : args.length = f.signature.params.length) : f.call args = f.counted args := by
  unfold call
  exact if_neg (not_not_intro h)

/-- There is a value for each pointer. -/
theorem length_of_readArguments {γ : Type} {G : Guest γ} {ps : List Pointer} {w w' : World γ}
    {vs : List Value} {payload : Int64} (h : readArguments G 0 ps w = .ok (vs, payload) w') :
    vs.length = ps.length := by
  rw [show (0 : Int64) = payloadOf 0 from rfl, readArguments_eq] at h
  cases hread : G.memory.readValues w.guest ps with
  | error e => simp only [hread, reduceCtorEq] at h
  | ok us =>
    simp only [hread, EStateM.Result.ok.injEq, Prod.mk.injEq] at h
    obtain ⟨⟨rfl, -⟩, -⟩ := h
    have hlength := congrArg List.length (GuestMemory.readValues_eq_ok_iff.mp hread)
    rw [List.length_map, List.length_map] at hlength
    rw [List.length_map, hlength]

/-- What an import for pointers is called with are pointers. -/
theorem Linked.pointers_of_typed {args : List Wasm.Val} {n : Nat}
    (h : args.map Wasm.Val.type = List.replicate n .i32) :
    args = (pointers args).map (fun p => .i32 p.toUInt32) ∧ (pointers args).length = n := by
  induction args generalizing n with
  | nil =>
    cases n with
    | zero => exact ⟨rfl, rfl⟩
    | succ n => cases h
  | cons v args ih =>
    cases n with
    | zero => cases h
    | succ n =>
      rw [List.map_cons, List.replicate_succ, List.cons.injEq] at h
      obtain ⟨hv, hargs⟩ := h
      obtain ⟨hall, hlength⟩ := ih hargs
      cases v with
      | i32 b => exact ⟨congrArg (.i32 b :: ·) hall, congrArg (· + 1) hlength⟩
      | _ => cases hv

theorem Signature.ite_returnsValue {α : Type} (s : Signature) (x y : α) :
    (if s.returnsValue then x else y) = if s.results = [] then y else x := by
  unfold returnsValue
  cases s.results <;> rfl

theorem Offer.type_linked (a : HostApi) (k : ApiKey) (slot : Nat) : (Offer.api (a.linked k slot)).type =
    ⟨List.replicate a.function.signature.params.length .i32,
      if a.function.signature.results = [] then [] else [.i32]⟩ := by
  rw [← Signature.ite_returnsValue, ← List.map_const']
  rfl

/-- What stands behind the import of a function that is registered. -/
structure Linker.Wired (l : Linker) (r : Registry) (k : ApiKey) (a : HostApi) (slot : Nat) : Prop where
  /-- The budget is its own. -/
  budget : r.contexts[slot]? = some a.context
  type : (Offer.api (a.linked k slot)).type = ⟨List.replicate a.function.signature.params.length .i32,
    if a.function.signature.results = [] then [] else [.i32]⟩
  /-- Every import by its name leads to it. -/
  resolved : ∀ (m : Wasm.Module) (offers : List Offer) (n : Nat) (i : Wasm.Import), l.resolve m = .ok offers →
    m.imports[n]? = some i → i.module = k.module → i.name = k.importName →
    offers[n]? = some (.api (a.linked k slot)) ∧
      ∃ t, i.desc = .func t ∧ m.types[t]? = some (Offer.api (a.linked k slot)).type
  /-- A call passes all its arguments on as pointers, and hands back what the type says. -/
  call : ∀ (L : Linked) (invoke : Linked.Invocation) (args : List Wasm.Val),
    args.map Wasm.Val.type = (Offer.api (a.linked k slot)).type.params →
    ∃ ps : List Pointer, args = ps.map (fun p => .i32 p.toUInt32) ∧
      ps.length = a.function.signature.params.length ∧
      L.callOffer invoke (.api (a.linked k slot)) (Linked.pointers args) =
        (fun p => if a.function.signature.results = [] then [] else [.i32 (p.getD 0).toUInt32]) <$>
          dispatch (L.guest invoke) (a.linked k slot) ps
  /-- The values that a call reads are as many as the function takes. -/
  counted : ∀ (γ : Type) (G : Guest γ) (ps : List Pointer) (w w' : World γ) (vs : List Value)
    (payload : Int64), ps.length = a.function.signature.params.length →
    readArguments G 0 ps w = .ok (vs, payload) w' → a.function.call vs = a.function.counted vs

/-- How the functions of a registry are linked. -/
structure Registry.LinkedByName (r : Registry) : Prop where
  succeeds_iff : (∃ l, Linker.ofRegistry r = .ok l) ↔ ApiKey.Unambiguous r.keys
  /-- A failure names the first function whose name is taken. -/
  reported : ∀ e, Linker.ofRegistry r = .error e →
    ∃ k, ApiKey.FirstClash r.keys k ∧ e = .link s!"cannot link {k.qualified}: defined twice"
  /-- No function has more parameters than can be passed on. -/
  passable : ∀ k a, r.find? k = some a → ∀ (l : Linker) (n : ImportName) (slot : Nat),
    l.offer n (a.linked k slot) = l.define n (.api (a.linked k slot))
  /-- No function stands in the way of the report of failed assertions. -/
  spare : ∀ l, Linker.ofApis r = .ok l → ∃ l', l.define .abort .abort = .ok l'
  /-- There is nothing else on offer. -/
  names : ∀ l, Linker.ofRegistry r = .ok l → l.names = r.keys.map .ofKey ++ [.abort]
  wired : ∀ l, Linker.ofRegistry r = .ok l → ∀ k a, r.find? k = some a → ∃ slot, l.Wired r k a slot

section

variable {r : Registry} {l : Linker} {k : ApiKey} {a : HostApi} {slot : Nat}

theorem Linker.find?_of_entry (h : r.Proper) (hl : Linker.ofRegistry r = .ok l)
    (he : r.toList[slot]? = some (k, a)) : l.find? (.ofKey k) = some (.api (a.linked k slot)) := by
  obtain ⟨-, hok⟩ | ⟨k, -, herror⟩ := ofRegistry_cases h
  · have hnodup := nodup_names h hl
    cases hl.symm.trans hok
    have hmem : (k, a.linked k slot) ∈ r.apis := by
      refine List.mem_of_getElem? (i := slot) ?_
      rw [Registry.getElem?_apis, he]
      rfl
    exact (lookup_eq_some_iff hnodup).mpr (List.mem_append_left _ (List.mem_map_of_mem (f := offered) hmem))
  · cases hl.symm.trans herror

theorem Linker.wired_of_entry (h : r.Proper) (hl : Linker.ofRegistry r = .ok l)
    (he : r.toList[slot]? = some (k, a)) : l.Wired r k a slot := by
  have hfound := find?_of_entry h hl he
  have htype := Offer.type_linked a k slot
  refine ⟨?budget, htype, ?resolved, ?call, ?counted⟩
  case budget =>
    unfold Registry.contexts
    rw [List.getElem?_toArray, List.getElem?_map, he]
    rfl
  case resolved =>
    rintro m offers n ⟨module, name, desc⟩ hresolve hi rfl rfl
    obtain ⟨hnone, -⟩ | ⟨i, o, t, hi', ho, hfind, hdesc, ht⟩ := resolve_cases hresolve n
    · cases hi.symm.trans hnone
    · cases hi.symm.trans hi'
      cases hfind.symm.trans hfound
      exact ⟨ho, t, hdesc, ht⟩
  case call =>
    intro L invoke args hargs
    rw [htype] at hargs
    obtain ⟨hall, hlength⟩ := Linked.pointers_of_typed hargs
    refine ⟨Linked.pointers args, hall, hlength, ?_⟩
    unfold Linked.callOffer
    simp only [Signature.ite_returnsValue, bind_pure_comp]
    rfl
  case counted =>
    intro γ G ps w w' vs payload hps hread
    exact HostFunction.call_eq_counted ((length_of_readArguments hread).trans hps)

end

/-- **Imports are wired by their names.** What was registered can be linked if and only if no two functions of
a module have one name once namespace and method are joined; else the first whose name is taken is reported.
Once linked, each import leads to the function that is registered under its name, and a guest that calls it
gives as many arguments as that takes. -/
theorem Registry.links_by_name (es : List (ApiKey × HostApi)) :
    (Registry.empty.registerAll es).LinkedByName := by
  have h : (Registry.empty.registerAll es).Proper := Proper.empty.registerAll es
  generalize Registry.empty.registerAll es = r at h
  refine ⟨?succeeds, ?reported, ?passable, ?spare, fun l hl => Linker.names_of_ofRegistry h hl, ?wired⟩
  case succeeds =>
    obtain ⟨hunambiguous, hok⟩ | ⟨k, hclash, herror⟩ := Linker.ofRegistry_cases h
    · exact ⟨fun _ => hunambiguous, fun _ => ⟨_, hok⟩⟩
    · refine ⟨?_, fun hunambiguous => absurd hunambiguous hclash.not_unambiguous⟩
      rintro ⟨l, hok⟩
      cases hok.symm.trans herror
  case reported =>
    intro e he
    obtain ⟨-, hok⟩ | ⟨k, hclash, herror⟩ := Linker.ofRegistry_cases h
    · cases he.symm.trans hok
    · cases he.symm.trans herror
      exact ⟨k, hclash, rfl⟩
  case passable =>
    intro k a ha l n slot
    have hjudged := h.judged _ (find?_eq_some_iff.mp ha)
    exact Linker.offer_eq_define (Signature.check_eq_ok_iff.mp hjudged).1 l n
  case spare =>
    intro l hl
    exact ⟨_, Linker.define_of_free (Linker.abort_not_mem_names h hl) .abort⟩
  case wired =>
    intro l hl k a ha
    obtain ⟨slot, hslot⟩ := List.mem_iff_getElem?.mp (find?_eq_some_iff.mp ha)
    exact ⟨slot, Linker.wired_of_entry h hl hslot⟩

/-- Turns a truth value around. -/
def negation : HostApi := ⟨negator.function, negator.rule, 9⟩

/-- Three functions of one module; the names of the first two meet once they are joined. -/
def dotted : List (ApiKey × HostApi) :=
  [(⟨"m", "a.b", "c"⟩, negation), (⟨"m", "a", "b.c"⟩, negation), (⟨"m", "a", "d"⟩, negation)]

/-- The function that was registered first is the one that is reported. Without it the others are linked. -/
theorem Registry.links_by_name_dotted :
    (Registry.empty.registerAll dotted).keys =
      [⟨"m", "a", "b.c"⟩, ⟨"m", "a", "d"⟩, ⟨"m", "a.b", "c"⟩] ∧
    Linker.ofRegistry (Registry.empty.registerAll dotted) =
      .error (.link "cannot link m::a.b.c: defined twice") ∧
    ∃ l slot, Linker.ofRegistry (Registry.empty.registerAll dotted.tail) = .ok l ∧
      l.Wired (Registry.empty.registerAll dotted.tail) ⟨"m", "a", "b.c"⟩ negation slot := by
  refine ⟨by decide, rfl, ?_⟩
  have hlinked := links_by_name dotted.tail
  obtain ⟨l, hl⟩ := hlinked.succeeds_iff.mpr (by decide)
  have hfind : (Registry.empty.registerAll dotted.tail).find? ⟨"m", "a", "b.c"⟩ = some negation := rfl
  obtain ⟨slot, hwired⟩ := hlinked.wired l hl _ _ hfind
  exact ⟨l, slot, hl, hwired⟩

end AspectHost
