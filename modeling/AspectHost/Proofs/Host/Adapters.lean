import AspectHost.Proofs.Host.Manners
import AspectHost.Proofs.Host.Registration

/-! # Host functions are called by their signatures

A host function is called on values, whatever it was made from. Arguments are held against the signature
before anything runs, so that a function of this language, which converts each argument once more, finds
every one of them to stand for a member of the type that it takes (`natives_iff_kinds`,
`Arrow.run_values`). What runs then hands back what the signature declares: a function of this language by
its type, any other because it is held against the signature again (`Shape.kinds_of_lift`,
`Signature.kinds_of_received`). -/

namespace AspectHost

/-! ## Types that stand for a kind -/

/-- The values of the kind are those that stand for a member, each for one. -/
class LawfulNative (α : Type) [Native α] : Prop where
  kind_toValue : ∀ a : α, (Native.toValue a).kind = Native.kind α
  ofValue?_toValue : ∀ a : α, Native.ofValue? (Native.toValue a) = some a
  exists_toValue : ∀ v : Value, v.kind = Native.kind α → ∃ a : α, v = Native.toValue a

namespace LawfulNative

instance : LawfulNative Int8 := ⟨fun _ => rfl, fun _ => rfl, fun | .int8 v, _ => ⟨v, rfl⟩⟩
instance : LawfulNative Int16 := ⟨fun _ => rfl, fun _ => rfl, fun | .int16 v, _ => ⟨v, rfl⟩⟩
instance : LawfulNative Int32 := ⟨fun _ => rfl, fun _ => rfl, fun | .int32 v, _ => ⟨v, rfl⟩⟩
instance : LawfulNative Int64 := ⟨fun _ => rfl, fun _ => rfl, fun | .int64 v, _ => ⟨v, rfl⟩⟩
instance : LawfulNative UInt8 := ⟨fun _ => rfl, fun _ => rfl, fun | .uint8 v, _ => ⟨v, rfl⟩⟩
instance : LawfulNative UInt16 := ⟨fun _ => rfl, fun _ => rfl, fun | .uint16 v, _ => ⟨v, rfl⟩⟩
instance : LawfulNative UInt32 := ⟨fun _ => rfl, fun _ => rfl, fun | .uint32 v, _ => ⟨v, rfl⟩⟩
instance : LawfulNative UInt64 := ⟨fun _ => rfl, fun _ => rfl, fun | .uint64 v, _ => ⟨v, rfl⟩⟩
instance : LawfulNative Bool := ⟨fun _ => rfl, fun _ => rfl, fun | .bool v, _ => ⟨v, rfl⟩⟩
instance : LawfulNative String := ⟨fun _ => rfl, fun _ => rfl, fun | .string v, _ => ⟨v, rfl⟩⟩
instance : LawfulNative Bytes := ⟨fun _ => rfl, fun _ => rfl, fun | .bytearray v, _ => ⟨v, rfl⟩⟩

end LawfulNative

theorem Native.ofValue_toValue {α : Type} [Native α] [LawfulNative α] (a : α) :
    (ofValue (toValue a) : Except DecodeError α) = .ok a := by
  unfold ofValue
  rw [LawfulNative.ofValue?_toValue]

/-- A type that stands for a kind. -/
structure NativeType where
  type : Type
  native : Native type
  lawful : LawfulNative type

attribute [instance] NativeType.native NativeType.lawful

def NativeType.of (α : Type) [Native α] [LawfulNative α] : NativeType := ⟨α, inferInstance, inferInstance⟩

def NativeType.kind (t : NativeType) : Kind := Native.kind t.type

/-- A member of each of the types. -/
def Natives : List NativeType → Type
  | [] => Unit
  | t :: ts => t.type × Natives ts

/-- The values that the members stand for. -/
def Natives.values : {ts : List NativeType} → Natives ts → List Value
  | [], _ => []
  | _ :: _, (a, as) => Native.toValue a :: values as

/-- Values of the kinds of some types are the values of members of these types. -/
theorem natives_iff_kinds {ts : List NativeType} {args : List Value} :
    (∃ as : Natives ts, args = as.values) ↔ args.map Value.kind = ts.map NativeType.kind := by
  induction ts generalizing args with
  | nil =>
    rw [List.map_nil, List.map_eq_nil_iff]
    exact ⟨fun ⟨_, h⟩ => h, fun h => ⟨(), h⟩⟩
  | cons t ts ih =>
    constructor
    · rintro ⟨⟨a, as⟩, rfl⟩
      exact congrArg₂ List.cons (LawfulNative.kind_toValue a) (ih.mp ⟨as, rfl⟩)
    · intro h
      cases args with
      | nil => cases h
      | cons v vs =>
        rw [List.map_cons, List.map_cons, List.cons.injEq] at h
        obtain ⟨a, rfl⟩ := LawfulNative.exists_toValue (α := t.type) v h.1
        obtain ⟨as, rfl⟩ := ih.mpr h.2
        exact ⟨(a, as), rfl⟩

/-! ## Functions of this language -/

/-- A value of a member is converted to that member. -/
theorem Lower.run_toValue {α φ : Type} [Native α] [LawfulNative α] [Lower φ] (f : α → φ) (a : α)
    (vs : List Value) : Lower.run f (Native.toValue a :: vs) = Lower.run (f a) vs := by
  simp only [run, Native.ofValue_toValue]

/-- Functions that take a member of each of the types in order, and then compute. -/
def Arrow (ρ : Type) : List NativeType → Type
  | [] => ρ
  | t :: ts => t.type → Arrow ρ ts

namespace Arrow

variable {ρ : Type}

def apply : {ts : List NativeType} → Arrow ρ ts → Natives ts → ρ
  | [], f, _ => f
  | _ :: _, f, (a, as) => apply (f a) as

instance lower [Lower ρ] : (ts : List NativeType) → Lower (Arrow ρ ts)
  | [] => inferInstanceAs (Lower ρ)
  | t :: ts =>
    have := lower ts
    inferInstanceAs (Lower (t.type → Arrow ρ ts))

variable [Lower ρ] (ts : List NativeType)

theorem params_eq : Lower.params (Arrow ρ ts) = ts.map NativeType.kind ++ Lower.params ρ := by
  induction ts with
  | nil => rfl
  | cons t ts ih => exact congrArg (t.kind :: ·) ih

theorem results_eq : Lower.results (Arrow ρ ts) = Lower.results ρ := by
  induction ts with
  | nil => rfl
  | cons t ts ih => exact ih

variable {ts}

/-- On values of members no conversion fails, and the function meets the members in their order. -/
theorem run_values (f : Arrow ρ ts) (as : Natives ts) :
    Lower.run f as.values = Lower.run (f.apply as) [] := by
  induction ts with
  | nil => rfl
  | cons t ts ih =>
    obtain ⟨a, as⟩ := as
    have hstep : Lower.run (φ := t.type → Arrow ρ ts) f (Native.toValue a :: as.values) =
        Lower.run (φ := Arrow ρ ts) (f a) as.values := Lower.run_toValue _ a as.values
    exact hstep.trans (ih (f a) as)

end Arrow

/-- What a function of this language computes, once it has its arguments. -/
inductive Shape where
  /-- A value. -/
  | plain (t : NativeType)
  /-- A value or a failure. -/
  | fallible (t : NativeType)
  /-- Nothing or a failure. -/
  | effect

namespace Shape

def type : Shape → Type
  | plain t => Computation Empty t.type
  | fallible t => Computation String t.type
  | effect => Computation String Unit

instance lower : (s : Shape) → Lower s.type
  | plain t => inferInstanceAs (Lower (Computation Empty t.type))
  | fallible t => inferInstanceAs (Lower (Computation String t.type))
  | effect => inferInstanceAs (Lower (Computation String Unit))

/-- What a host function makes of the computation: its result as a value, its failure as a text. -/
def lift : (s : Shape) → s.type → HostAct HostError (Option Value)
  | plain _, c => (fun a => some (Native.toValue a)) <$> c.act.mapError Empty.elim
  | fallible _, c => (fun a => some (Native.toValue a)) <$> c.act.mapError .hostFunction
  | effect, c => (fun _ => none) <$> c.act.mapError .hostFunction

variable (s : Shape)

theorem params_eq : Lower.params s.type = [] := by cases s <;> rfl

theorem run_eq_lift (c : s.type) : Lower.run c [] = s.lift c := by cases s <;> rfl

/-- A computation hands back what its shape declares. -/
theorem kinds_of_lift {c : s.type} {q q' : Quota} {r : Option Value} (h : s.lift c q = .ok r q') :
    (r.map Value.kind).toList = Lower.results s.type := by
  have hmap : ∀ {α : Type} {x : HostAct HostError α} {f : α → Option Value}, (f <$> x) q = .ok r q' →
      ∃ a, r = f a := by
    intro α x f hx
    simp only [Functor.map, EStateM.map] at hx
    split at hx <;> cases hx
    exact ⟨_, rfl⟩
  cases s with
  | plain t | fallible t =>
    obtain ⟨a, rfl⟩ := hmap h
    exact congrArg (fun k => [k]) (LawfulNative.kind_toValue a)
  | effect =>
    obtain ⟨a, rfl⟩ := hmap h
    rfl

end Shape

/-! ## Functions whose shape is only known when they are made -/

namespace Signature

/-- What becomes of the results of such a function: if they are not what it declares, it fails. -/
def received (s : Signature) :
    EStateM.Result (Stop String) Quota (List Value) → EStateM.Result (Stop HostError) Quota (Option Value)
  | .ok vs q =>
    let kinds := vs.map Value.kind
    if kinds = s.results then .ok vs.getLast? q
    else .error (.error (.hostFunction
      s!"host function returned {Kind.showList kinds}, declared {Kind.showList s.results}")) q
  | .error e q => .error (e.map .hostFunction) q

/-- Of at most one declared result, that one is handed back. -/
theorem kinds_of_received {s : Signature} (hs : s.check = .ok ())
    {x : EStateM.Result (Stop String) Quota (List Value)} {q : Quota} {r : Option Value}
    (h : s.received x = .ok r q) : (r.map Value.kind).toList = s.results := by
  obtain ⟨-, hresults, -⟩ := check_eq_ok_iff.mp hs
  unfold received at h
  split at h
  case h_2 => cases h
  rename_i vs q'
  dsimp only at h
  split at h
  case isFalse => cases h
  rename_i hkinds
  cases h
  rw [← hkinds, List.length_map] at hresults
  rw [← hkinds]
  match vs, hresults with
  | [], _ => rfl
  | [v], _ => rfl

end Signature

namespace HostFunction

theorem body_dynamic (s : Signature) (f : List Value → HostAct String (List Value)) (args : List Value) :
    (dynamic s f).body args = fun q => s.received (f args q) := by
  funext q
  unfold dynamic Signature.received
  dsimp only
  cases hx : f args q with
  | error e q' => exact Act.bind_of_error (Act.mapError_of_error hx _) _
  | ok vs q' =>
    refine (Act.bind_of_ok (Act.mapError_of_ok hx _) _).trans ?_
    dsimp only
    split <;> rfl

/-! ## Calls -/

variable {f : HostFunction} {args : List Value} {ks : List Kind} {e : DecodeError}

theorem mismatch?_eq_none (h : mismatch? args ks = none) (hlength : args.length = ks.length) :
    args.map Value.kind = ks := by
  fun_induction mismatch? args ks with
  | case1 v vs ks ih =>
    rw [List.map_cons, ih h (Nat.succ.inj hlength)]
  | case2 => cases h
  | case3 vs ks hne =>
    -- one of the lists is empty, and then so is the other
    cases vs with
    | nil => exact (List.length_eq_zero_iff.mp hlength.symm).symm
    | cons v vs =>
      cases ks with
      | nil => cases hlength
      | cons k ks => exact absurd rfl (hne v vs k ks rfl)

theorem mismatch?_of_kinds (h : args.map Value.kind = ks) : mismatch? args ks = none := by
  fun_induction mismatch? args ks with
  | case1 v vs ks ih =>
    rw [List.map_cons, List.cons.injEq] at h
    exact ih h.2
  | case2 v vs k ks hk =>
    rw [List.map_cons, List.cons.injEq] at h
    exact absurd h.1 hk
  | case3 => rfl

/-- The argument at `i` is the first that is not of its kind, and it is of kind `found`. -/
structure FirstMismatch (args : List Value) (ks : List Kind) (i : Nat) (k found : Kind) : Prop where
  argument : (args.map Value.kind)[i]? = some found
  parameter : ks[i]? = some k
  differs : found ≠ k
  before : (args.map Value.kind).take i = ks.take i

theorem mismatch?_eq_some (h : mismatch? args ks = some e) :
    ∃ i k found, FirstMismatch args ks i k found ∧ e = .kindMismatch k.name found.name := by
  fun_induction mismatch? args ks with
  | case1 v vs ks ih =>
    obtain ⟨i, k', found, hfirst, he⟩ := ih h
    exact ⟨i + 1, k', found, ⟨hfirst.argument, hfirst.parameter, hfirst.differs,
      congrArg (v.kind :: ·) hfirst.before⟩, he⟩
  | case2 v vs k ks hk =>
    cases h
    exact ⟨0, k, v.kind, ⟨rfl, rfl, hk, rfl⟩, rfl⟩
  | case3 => cases h

theorem call_of_kinds (h : args.map Value.kind = f.signature.params) : f.call args = f.body args := by
  unfold call
  have hlength : args.length = f.signature.params.length := by rw [← h, List.length_map]
  rw [if_neg (not_not_intro hlength), mismatch?_of_kinds h]

/-- A call that returns has run the function, on arguments of the right kinds. -/
theorem kinds_of_call {q q' : Quota} {r : Option Value} (h : f.call args q = .ok r q') :
    args.map Value.kind = f.signature.params := by
  by_cases hlength : args.length ≠ f.signature.params.length
  · rw [call, if_pos hlength] at h
    cases h
  · rw [call, if_neg hlength] at h
    cases he : mismatch? args f.signature.params with
    | some e =>
      rw [he] at h
      cases h
    | none => exact mismatch?_eq_none he (Decidable.not_not.mp hlength)

/-- How host functions are made. Here `runs args x` says that what `f` is made from is called on what `args`
stand for, and that the call then is the computation `x`. -/
inductive Made : HostFunction → (List Value → HostAct HostError (Option Value) → Prop) → Prop
  /-- From a function of this language. -/
  | lower (s : Shape) (ts : List NativeType) (f : Arrow s.type ts) :
    Made (.lower f) fun args x => ∃ as : Natives ts, args = as.values ∧ x = s.lift (f.apply as)
  /-- From a function whose shape is given with it. -/
  | dynamic (s : Signature) (f : List Value → HostAct String (List Value)) (h : s.check = .ok ()) :
    Made (.dynamic s f) fun args x => args.map Value.kind = s.params ∧ x = fun q => s.received (f args q)

/-- The function takes and hands back what its signature says. -/
structure TypeSound (f : HostFunction) (runs : List Value → HostAct HostError (Option Value) → Prop) :
    Prop where
  runs_iff : ∀ args, (∃ x, runs args x) ↔ args.map Value.kind = f.signature.params
  call_of_runs : ∀ args x, runs args x → f.call args = x
  /-- Arguments that are too few or too many are refused whatever the function is. -/
  miscounted : ∀ args, args.length ≠ f.signature.params.length → ∀ body, { f with body }.call args =
    Act.fail (.hostFunction s!"expected {f.signature.params.length} arguments, got {args.length}")
  /-- Else the first argument that is not of its kind is, whatever the function is. -/
  mismatched : ∀ args, args.length = f.signature.params.length → args.map Value.kind ≠ f.signature.params →
    ∃ i k found, FirstMismatch args f.signature.params i k found ∧
      ∀ body, { f with body }.call args = Act.fail (.decode (.kindMismatch k.name found.name))
  some_result : ∀ args q v q', f.call args q = .ok (some v) q' → f.signature.results = [v.kind]
  no_result : ∀ args q q', f.call args q = .ok none q' → f.signature.results = []

variable {runs : List Value → HostAct HostError (Option Value) → Prop}

/-- It is enough to know when the function runs and what it then hands back. -/
theorem TypeSound.of_runs
    (hruns : ∀ args, (∃ x, runs args x) ↔ args.map Value.kind = f.signature.params)
    (hbody : ∀ args x, runs args x → f.body args = x)
    (hresult : ∀ args x, runs args x → ∀ q r q', x q = .ok r q' →
      (r.map Value.kind).toList = f.signature.results) :
    f.TypeSound runs where
  runs_iff := hruns
  call_of_runs args x hx := (call_of_kinds ((hruns args).mp ⟨x, hx⟩)).trans (hbody args x hx)
  miscounted args hlength body := if_pos hlength
  mismatched args hlength hkinds := by
    cases he : mismatch? args f.signature.params with
    | none => exact absurd (mismatch?_eq_none he hlength) hkinds
    | some e =>
      obtain ⟨i, k, found, hfirst, rfl⟩ := mismatch?_eq_some he
      refine ⟨i, k, found, hfirst, fun body => ?_⟩
      unfold call
      rw [if_neg (not_not_intro hlength), he]
  some_result args q v q' h := by
    obtain ⟨x, hx⟩ := (hruns args).mpr (kinds_of_call h)
    rw [call_of_kinds (kinds_of_call h), hbody args x hx] at h
    exact (hresult args x hx q _ q' h).symm
  no_result args q q' h := by
    obtain ⟨x, hx⟩ := (hruns args).mpr (kinds_of_call h)
    rw [call_of_kinds (kinds_of_call h), hbody args x hx] at h
    exact (hresult args x hx q _ q' h).symm

/-- However it is made, a host function takes and hands back what its signature says. -/
theorem Made.sound (h : Made f runs) : f.TypeSound runs := by
  cases h with
  | lower s ts f =>
    have hparams : Lower.params (Arrow s.type ts) = ts.map NativeType.kind := by
      rw [Arrow.params_eq, s.params_eq, List.append_nil]
    refine .of_runs ?runs ?body ?result
    case runs =>
      intro args
      have hkinds := iff_of_eq (congrArg (args.map Value.kind = ·) hparams.symm)
      refine Iff.trans ?_ (natives_iff_kinds.trans hkinds)
      exact ⟨fun ⟨_, as, hargs, _⟩ => ⟨as, hargs⟩, fun ⟨as, hargs⟩ => ⟨_, as, hargs, rfl⟩⟩
    case body =>
      rintro _ _ ⟨as, rfl, rfl⟩
      exact (Arrow.run_values f as).trans (s.run_eq_lift (f.apply as))
    case result =>
      rintro _ _ ⟨as, rfl, rfl⟩ q r q' hr
      exact (s.kinds_of_lift hr).trans (Arrow.results_eq ts).symm
  | dynamic s f hs =>
    refine .of_runs ?runs ?body ?result
    case runs => exact fun args => ⟨fun ⟨_, hkinds, _⟩ => hkinds, fun hkinds => ⟨_, hkinds, rfl⟩⟩
    case body =>
      rintro args _ ⟨-, rfl⟩
      exact body_dynamic s f args
    case result =>
      rintro args _ ⟨-, rfl⟩ q r q' hr
      exact Signature.kinds_of_received hs hr

end HostFunction
end AspectHost
