import AspectHost.Wasm.Binary.Code
import AspectHost.Wasm.Machine
import AspectHost.Wasm.Typing

/-! # Arithmetic of valid code

A numeric instruction that finds operands of the types that validation asks for leaves one value of the type
that validation promises, or traps. So it is never stuck, whatever the numbers are (`Frame.leaves_exec`), and
all that the tables of opcodes hold are numeric instructions. -/

namespace AspectHost.Wasm

/-- The instruction calculates with integers. -/
def Instr.ofIntegers : Instr → Bool
  | .eqz _ | .compare .. | .unary .. | .binary .. | .wrap | .extend _ => true
  | _ => false

/-- The instruction calculates with floating-point numbers or converts them. -/
def Instr.ofFloats : Instr → Bool
  | .floatCompare .. | .floatUnary .. | .floatBinary .. | .truncate .. | .convert .. | .demote
  | .promote | .asInt _ | .asFloat _ => true
  | _ => false

def Instr.numeric (i : Instr) : Bool := i.ofIntegers || i.ofFloats

theorem Reader.numeric_numerics : numerics.all Instr.numeric = true := by decide +kernel

theorem Reader.numeric_clampingConversions : clampingConversions.all Instr.numeric = true := by decide

/-- The effect is a value of that type on top of the operands `vs`, or a trap. The store is left alone. -/
inductive Effect.Leaves (t : ValType) (vs : List Val) (s : Store) : Effect → Prop
  | result {f : Frame} {v : Val} : v.type = t → f.stack = v :: vs → Leaves t vs s (.go f s)
  | trap {cause : Trap} : Leaves t vs s (.trap cause s)

namespace Frame

variable {C : Context} {f : Frame} {i : Instr} {type : FuncType} {t : ValType} {w : Width}
variable {args vs : List Val}

theorem operand (hargs : args.map Val.type = [t]) (hstack : f.stack = args.reverse ++ vs) :
    ∃ v, f.stack = v :: vs ∧ v.type = t := by
  obtain ⟨v, rfl, hv⟩ := List.map_eq_singleton_iff.mp hargs
  exact ⟨v, hstack, hv⟩

theorem operands (hargs : args.map Val.type = [t, t]) (hstack : f.stack = args.reverse ++ vs) :
    ∃ u v, f.stack = v :: u :: vs ∧ u.type = t ∧ v.type = t := by
  obtain ⟨u, rest, rfl, hu, hrest⟩ := List.map_eq_cons_iff.mp hargs
  obtain ⟨v, rfl, hv⟩ := List.map_eq_singleton_iff.mp hrest
  exact ⟨u, v, hstack, hu, hv⟩

theorem integer (hargs : args.map Val.type = [w.type]) (hstack : f.stack = args.reverse ++ vs) :
    ∃ v a, f.stack = v :: vs ∧ v.bits? w = some a := by
  obtain ⟨v, hstack, hv⟩ := operand hargs hstack
  obtain ⟨a, ha⟩ := Val.bits?_of_type hv
  exact ⟨v, a, hstack, ha⟩

theorem integers (hargs : args.map Val.type = [w.type, w.type]) (hstack : f.stack = args.reverse ++ vs) :
    ∃ u v a b, f.stack = v :: u :: vs ∧ u.bits? w = some a ∧ v.bits? w = some b := by
  obtain ⟨u, v, hstack, hu, hv⟩ := operands hargs hstack
  obtain ⟨a, ha⟩ := Val.bits?_of_type hu
  obtain ⟨b, hb⟩ := Val.bits?_of_type hv
  exact ⟨u, v, a, b, hstack, ha, hb⟩

theorem float (hargs : args.map Val.type = [w.floatType]) (hstack : f.stack = args.reverse ++ vs) :
    ∃ v a, f.stack = v :: vs ∧ v.floatBits? w = some a := by
  obtain ⟨v, hstack, hv⟩ := operand hargs hstack
  obtain ⟨a, ha⟩ := Val.floatBits?_of_type hv
  exact ⟨v, a, hstack, ha⟩

theorem floats (hargs : args.map Val.type = [w.floatType, w.floatType])
    (hstack : f.stack = args.reverse ++ vs) :
    ∃ u v a b, f.stack = v :: u :: vs ∧ u.floatBits? w = some a ∧ v.floatBits? w = some b := by
  obtain ⟨u, v, hstack, hu, hv⟩ := operands hargs hstack
  obtain ⟨a, ha⟩ := Val.floatBits?_of_type hu
  obtain ⟨b, hb⟩ := Val.floatBits?_of_type hv
  exact ⟨u, v, a, b, hstack, ha, hb⟩

theorem leaves_calculate (s : Store) (hi : i.ofIntegers = true) (htype : C.fixedType? i = some type)
    (hargs : args.map Val.type = type.params) (hstack : f.stack = args.reverse ++ vs) :
    ∃ t, type.results = [t] ∧ (f.calculate s i).Leaves t vs s := by
  cases i
  case eqz w =>
    cases htype
    obtain ⟨v, a, hstack, ha⟩ := integer hargs hstack
    refine ⟨_, rfl, ?_⟩
    simp only [calculate, hstack, ha]
    exact .result rfl rfl
  case compare w op =>
    cases htype
    obtain ⟨u, v, a, b, hstack, ha, hb⟩ := integers hargs hstack
    refine ⟨_, rfl, ?_⟩
    simp only [calculate, hstack, ha, hb]
    exact .result rfl rfl
  case unary w op =>
    cases htype
    obtain ⟨v, a, hstack, ha⟩ := integer hargs hstack
    refine ⟨_, rfl, ?_⟩
    simp only [calculate, hstack, ha]
    exact .result (Val.type_ofBits _) rfl
  case binary w op =>
    cases htype
    obtain ⟨u, v, a, b, hstack, ha, hb⟩ := integers hargs hstack
    refine ⟨_, rfl, ?_⟩
    simp only [calculate, hstack, ha, hb]
    split
    · exact .result (Val.type_ofBits _) rfl
    · exact .trap
  case wrap =>
    cases htype
    obtain ⟨v, hstack, hv⟩ := operand hargs hstack
    cases v <;> cases hv
    refine ⟨_, rfl, ?_⟩
    simp only [calculate, hstack]
    exact .result rfl rfl
  case extend signed =>
    cases htype
    obtain ⟨v, hstack, hv⟩ := operand hargs hstack
    cases v <;> cases hv
    refine ⟨_, rfl, ?_⟩
    simp only [calculate, hstack]
    exact .result rfl rfl
  all_goals cases hi

theorem leaves_approximate (s : Store) (hi : i.ofFloats = true) (htype : C.fixedType? i = some type)
    (hargs : args.map Val.type = type.params) (hstack : f.stack = args.reverse ++ vs) :
    ∃ t, type.results = [t] ∧ (f.approximate s i).Leaves t vs s := by
  cases i
  case floatCompare w op =>
    cases htype
    obtain ⟨u, v, a, b, hstack, ha, hb⟩ := floats hargs hstack
    refine ⟨_, rfl, ?_⟩
    simp only [approximate, hstack, ha, hb]
    exact .result rfl rfl
  case floatUnary w op =>
    cases htype
    obtain ⟨v, a, hstack, ha⟩ := float hargs hstack
    refine ⟨_, rfl, ?_⟩
    simp only [approximate, hstack, ha]
    exact .result (Val.type_ofFloatBits _) rfl
  case floatBinary w op =>
    cases htype
    obtain ⟨u, v, a, b, hstack, ha, hb⟩ := floats hargs hstack
    refine ⟨_, rfl, ?_⟩
    simp only [approximate, hstack, ha, hb]
    exact .result (Val.type_ofFloatBits _) rfl
  case truncate source target signed clamp =>
    cases htype
    obtain ⟨v, a, hstack, ha⟩ := float hargs hstack
    refine ⟨_, rfl, ?_⟩
    simp only [approximate, hstack, ha]
    split
    · exact .result (Val.type_ofBits _) rfl
    · exact .trap
  case convert source target signed =>
    cases htype
    obtain ⟨v, n, hstack, hn⟩ := integer hargs hstack
    refine ⟨_, rfl, ?_⟩
    simp only [approximate, hstack, hn]
    exact .result (Val.type_ofFloatBits _) rfl
  case demote =>
    cases htype
    obtain ⟨v, hstack, hv⟩ := operand hargs hstack
    cases v <;> cases hv
    refine ⟨_, rfl, ?_⟩
    simp only [approximate, hstack]
    exact .result rfl rfl
  case promote =>
    cases htype
    obtain ⟨v, hstack, hv⟩ := operand hargs hstack
    cases v <;> cases hv
    refine ⟨_, rfl, ?_⟩
    simp only [approximate, hstack]
    exact .result rfl rfl
  case asInt w =>
    cases htype
    obtain ⟨v, hstack, hv⟩ := operand hargs hstack
    refine ⟨_, rfl, ?_⟩
    cases w <;> cases v <;> cases hv <;> simp only [approximate, hstack] <;> exact .result rfl rfl
  case asFloat w =>
    cases htype
    obtain ⟨v, hstack, hv⟩ := operand hargs hstack
    refine ⟨_, rfl, ?_⟩
    cases w <;> cases v <;> cases hv <;> simp only [approximate, hstack] <;> exact .result rfl rfl
  all_goals cases hi

theorem exec_of_integers (P : Program) (s : Store) (hi : i.ofIntegers = true) :
    f.exec P s i = f.calculate s i := by
  cases i <;> first | rfl | cases hi

theorem exec_of_floats (P : Program) (s : Store) (hi : i.ofFloats = true) :
    f.exec P s i = f.approximate s i := by
  cases i <;> first | rfl | cases hi

/-- Valid arithmetic is never stuck. -/
theorem leaves_exec (P : Program) (s : Store) (hi : i.numeric = true)
    (htype : C.fixedType? i = some type) (hargs : args.map Val.type = type.params)
    (hstack : f.stack = args.reverse ++ vs) :
    ∃ t, type.results = [t] ∧ (f.exec P s i).Leaves t vs s := by
  obtain hi | hi := Bool.or_eq_true_iff.mp hi
  · rw [exec_of_integers P s hi]
    exact leaves_calculate s hi htype hargs hstack
  · rw [exec_of_floats P s hi]
    exact leaves_approximate s hi htype hargs hstack

end Frame
end AspectHost.Wasm
