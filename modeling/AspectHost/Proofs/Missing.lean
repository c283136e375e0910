import Mathlib
import AspectHost.Instance

/-! # Texts that tell of a missing export

A failure within the allocator reaches the host as a text, and so does every trap. Such a text tells that the
memory or the allocator is missing if it is the text of that very failure, at whatever depth
(`TellsMissing`). Texts are told apart by the characters at the places where their families part ways, so
among the failures of the host only three kinds can tell of a missing export (`HostError.of_tells`,
`MemoryError.of_tells`). -/

namespace AspectHost

/-! ## Characters at a place -/

def letter (t : String) (i : Nat) : Option Char := t.toList[i]?

theorem letter_append {t : String} {i : Nat} {x : Char} (h : letter t i = some x) (u : String) :
    letter (t ++ u) i = some x := by
  unfold letter at h ⊢
  rw [String.toList_append, List.getElem?_append_left (List.getElem?_eq_some_iff.mp h).1]
  exact h

theorem letter_append_right (t : String) {u : String} {i : Nat} {x : Char} (h : letter u i = some x) :
    letter (t ++ u) (t.toList.length + i) = some x := by
  unfold letter at h ⊢
  rw [String.toList_append, List.getElem?_append_right (Nat.le_add_right _ _), Nat.add_sub_cancel_left]
  exact h

/-- The text has another character than `x` at that place. -/
def Departs (t : String) (i : Nat) (x : Char) : Prop := (letter t i).any (· ≠ x) = true

namespace Departs

variable {t : String} {i : Nat} {x : Char} (h : Departs t i x)

include h

theorem ne : letter t i ≠ some x := by
  intro hx
  unfold Departs at h
  rw [hx] at h
  simp at h

theorem append (u : String) : Departs (t ++ u) i x := by
  unfold Departs at h ⊢
  cases hy : letter t i with
  | none =>
    rw [hy] at h
    cases h
  | some y =>
    rw [letter_append hy u, ← hy]
    exact h

theorem append_right (u : String) : Departs (u ++ t) (u.toList.length + i) x := by
  unfold Departs at h ⊢
  cases hy : letter t i with
  | none =>
    rw [hy] at h
    cases h
  | some y =>
    rw [letter_append_right u hy, ← hy]
    exact h

end Departs

/-! ## Missing exports -/

/-- The text says that the guest does not export its memory or its allocator. -/
inductive TellsMissing : String → Prop
  | memory (name : String) : TellsMissing (HostError.memory (.noMemoryExport name)).message
  | allocator (name : String) : TellsMissing (HostError.memory (.noAllocator name)).message
  /-- The allocator failed with that text. -/
  | within {t : String} (h : TellsMissing t) : TellsMissing (HostError.memory (.engine t)).message

/-- What tells the failures of an access apart, in place thirteen. -/
def MemoryError.mark : MemoryError → Char
  | outOfBounds .. => 'a'
  | noMemoryExport _ => 'g'
  | noAllocator _ => 'g'
  | allocationFailed _ => 'a'
  | engine _ => 'e'

theorem MemoryError.letter_first (c : MemoryError) : letter c.message 0 = some 'M' := by
  cases c
  all_goals
    unfold message
    repeat' with_reducible apply letter_append
    rfl

theorem MemoryError.letter_mark (c : MemoryError) : letter c.message 13 = some c.mark := by
  cases c
  all_goals
    unfold message
    repeat' with_reducible apply letter_append
    rfl

/-- Behind the name of the outer family stands the text of the failed access. -/
theorem HostError.letter_memory {c : MemoryError} {x : Char} (i : Nat) (h : letter c.message i = some x) :
    letter (memory c).message (14 + i) = some x :=
  letter_append_right "RuntimeError: " h

theorem DecodeError.departs (c : DecodeError) : Departs c.message 0 'M' := by
  cases c
  all_goals
    unfold message
    repeat' with_reducible apply Departs.append
    rfl

theorem Wasm.Trap.departs (c : Wasm.Trap) : Departs c.message 0 'R' := by
  cases c <;> rfl

namespace TellsMissing

variable {t : String} (h : TellsMissing t)

include h

theorem letter_first : letter t 0 = some 'R' := by
  cases h <;> exact letter_append rfl _

theorem letter_family : letter t 14 = some 'M' := by
  cases h <;> exact HostError.letter_memory 0 (MemoryError.letter_first _)

theorem letter_mark : letter t 27 = some 'g' ∨ letter t 27 = some 'e' := by
  cases h with
  | memory name => exact .inl (HostError.letter_memory 13 (MemoryError.letter_mark _))
  | allocator name => exact .inl (HostError.letter_memory 13 (MemoryError.letter_mark _))
  | within h => exact .inr (HostError.letter_memory 13 (MemoryError.letter_mark _))

end TellsMissing

/-- Only a failed access tells of a missing export, or a host function that fails with such a text. -/
theorem HostError.of_tells {e : HostError} (h : TellsMissing e.message) :
    (∃ c, e = .memory c) ∨ ∃ t, e = .hostFunction t := by
  have hfamily := h.letter_family
  cases e with
  | memory c => exact .inl ⟨c, rfl⟩
  | hostFunction t => exact .inr ⟨t, rfl⟩
  | decode c => exact absurd hfamily (Departs.append_right c.departs "RuntimeError: ").ne
  | _ =>
    refine absurd hfamily (Departs.ne ?_)
    unfold message
    repeat' with_reducible apply Departs.append
    rfl

theorem HostError.engine_inj {t u : String}
    (h : (memory (.engine t)).message = (memory (.engine u)).message) : t = u := by
  have hlist : ("RuntimeError: " ++ ("MemoryError: engine failure: " ++ t ++ ".")).toList =
    ("RuntimeError: " ++ ("MemoryError: engine failure: " ++ u ++ ".")).toList := congrArg String.toList h
  simp only [String.toList_append] at hlist
  have hinner := List.append_cancel_right (List.append_cancel_left hlist)
  exact String.toList_inj.mp (List.append_cancel_left hinner)

/-- A failed access tells of a missing export if that is its cause, or that of the failure within. -/
theorem MemoryError.of_tells {c : MemoryError} (h : TellsMissing (HostError.memory c).message) :
    (∃ n, c = .noMemoryExport n) ∨ (∃ n, c = .noAllocator n) ∨ ∃ t, c = .engine t ∧ TellsMissing t := by
  have hmark := h.letter_mark
  rw [HostError.letter_memory 13 c.letter_mark, Option.some.injEq, Option.some.injEq] at hmark
  cases c with
  | outOfBounds p n m => simp [mark] at hmark
  | allocationFailed n => simp [mark] at hmark
  | noMemoryExport n => exact .inl ⟨n, rfl⟩
  | noAllocator n => exact .inr (.inl ⟨n, rfl⟩)
  | engine t =>
    refine .inr (.inr ⟨t, rfl, ?_⟩)
    generalize ht : (HostError.memory (.engine t)).message = u at h
    have he : letter u 27 = some 'e' := ht ▸ HostError.letter_memory 13 (MemoryError.letter_mark _)
    cases h with
    | memory name =>
      rw [HostError.letter_memory 13 (MemoryError.letter_mark _)] at he
      cases he
    | allocator name =>
      rw [HostError.letter_memory 13 (MemoryError.letter_mark _)] at he
      cases he
    | within h => exact HostError.engine_inj ht ▸ h

/-- A trap of the guest never tells of a missing export. -/
theorem Failure.of_tells {f : Failure} (h : TellsMissing f.message) :
    (∃ e, f = .host e) ∨ ∃ r, f = .misuse r := by
  cases f with
  | trap c => exact absurd h.letter_first c.departs.ne
  | host e => exact .inl ⟨e, rfl⟩
  | misuse r => exact .inr ⟨r, rfl⟩

end AspectHost
