import Mathlib
import AspectHost.Validator
import AspectHost.Wasm.Interpreter

/-! # Validators are kept unseen

The validators that are kept stand under the configurations that they were made for, no two under one
(`Validators.Sound`). A request finds the one for its configuration or makes it, and the places that were
answered before stay what they were. So over every history of requests, keeping validators makes no
difference but that equal configurations share one (`Desk.kept_unseen`). -/

namespace AspectHost

/-- The validators that are kept, and what the requests so far were answered. Judging code changes neither. -/
structure Desk where
  validators : Validators := {}
  /-- The requests in their order, each with the place that it was answered with. -/
  answers : List (Config × Except HostError Nat) := []

namespace Desk

variable [Wasm.Engine]

def request (d : Desk) (c : Config) : Desk :=
  match Validators.ask c d.validators with
  | .ok i vs => ⟨vs, d.answers ++ [(c, .ok i)]⟩
  | .error e vs => ⟨vs, d.answers ++ [(c, .error e)]⟩

/-- What the validator that the `n`-th request was answered with says of the code. Nothing if there is
none. -/
def verdict? (d : Desk) (n : Nat) (code : Bytes) : Option (Except HostError Unit) :=
  match d.answers[n]? with
  | some (_, .ok i) => (·.validate code) <$> d.validators.get? i
  | _ => none

def after (requests : List Config) : Desk := requests.foldl request {}

end Desk

namespace Validators

variable {vs vs' : Validators} {c : Config} {i : Nat} {e : HostError}

/-- Each validator is the one that its configuration gives, and no configuration has two. -/
structure Sound [Wasm.Engine] (vs : Validators) : Prop where
  made : ∀ entry ∈ vs.made, Validator.new entry.1 = .ok entry.2
  nodup : (vs.made.map Prod.fst).Nodup

/-- All that was there stands where it stood. -/
def Extends (vs' vs : Validators) : Prop := vs.made <+: vs'.made

theorem Extends.getElem? (h : vs'.Extends vs) {entry : Config × Validator} (hi : vs.made[i]? = some entry) :
    vs'.made[i]? = some entry := by
  obtain ⟨added, hadded⟩ := h
  rw [← hadded, List.getElem?_append_left (List.getElem?_eq_some_iff.mp hi).1, hi]

theorem getElem?_of_found (h : vs.made.findIdx? (·.1 = c) = some i) : ∃ v, vs.made[i]? = some (c, v) := by
  obtain ⟨hlt, hc, -⟩ := List.findIdx?_eq_some_iff_getElem.mp h
  have hkey : vs.made[i].1 = c := by simpa using hc
  exact ⟨vs.made[i].2, by rw [List.getElem?_eq_getElem hlt, ← hkey]⟩

theorem not_mem_of_missing (h : vs.made.findIdx? (·.1 = c) = none) : c ∉ vs.made.map Prod.fst := by
  rw [List.mem_map]
  rintro ⟨entry, hmem, hc⟩
  have hne := List.findIdx?_eq_none_iff.mp h entry hmem
  simp [hc] at hne

variable [Wasm.Engine]

/-- The place of a configuration, if there is a validator for it. -/
theorem ask_of_found (h : vs.made.findIdx? (·.1 = c) = some i) : ask c vs = .ok i vs := by
  unfold ask
  simp only [bind, EStateM.bind, get, getThe, MonadStateOf.get, EStateM.get, h]
  rfl

theorem ask_of_missing (h : vs.made.findIdx? (·.1 = c) = none) : ask c vs =
    match Validator.new c with
    | .ok v => .ok vs.made.length ⟨vs.made ++ [(c, v)]⟩
    | .error e => .error e vs := by
  unfold ask
  simp only [bind, EStateM.bind, get, getThe, MonadStateOf.get, EStateM.get, h]
  cases Validator.new c <;> rfl

namespace Sound

/-- A request is answered with a place where the validator of its configuration stands, or fails as making
one does. Either way what was there stays, and after a failure there is nothing else. -/
theorem ask_cases (h : vs.Sound) (c : Config) :
    (∃ i v vs', ask c vs = .ok i vs' ∧ Validator.new c = .ok v ∧ vs'.made[i]? = some (c, v) ∧
      vs'.Sound ∧ vs'.Extends vs) ∨
    ∃ e, ask c vs = .error e vs ∧ Validator.new c = .error e := by
  cases hfound : vs.made.findIdx? (·.1 = c) with
  | some i =>
    obtain ⟨v, hv⟩ := getElem?_of_found hfound
    have hnew : Validator.new c = .ok v := h.made (c, v) (List.mem_of_getElem? hv)
    exact .inl ⟨i, v, vs, ask_of_found hfound, hnew, hv, h, List.prefix_refl _⟩
  | none =>
    rw [ask_of_missing hfound]
    cases hnew : Validator.new c with
    | error e => exact .inr ⟨e, rfl, rfl⟩
    | ok v =>
      refine .inl ⟨_, v, _, rfl, rfl, ?_, ⟨?_, ?_⟩, List.prefix_append _ _⟩
      · exact List.getElem?_concat_length
      · intro entry hentry
        obtain hold | hone := List.mem_append.mp hentry
        · exact h.made entry hold
        · cases List.mem_singleton.mp hone
          exact hnew
      · rw [List.map_append, List.map_singleton, ← List.concat_eq_append]
        exact h.nodup.concat (not_mem_of_missing hfound)

/-- A place stands for one configuration, and a configuration stands in one place. -/
theorem place_eq_iff (h : vs.Sound) {c c' : Config} {v v' : Validator} {i i' : Nat}
    (hi : vs.made[i]? = some (c, v)) (hi' : vs.made[i']? = some (c', v')) : i = i' ↔ c = c' := by
  constructor
  · rintro rfl
    exact congrArg Prod.fst (Option.some.inj (hi.symm.trans hi'))
  · rintro rfl
    have hkey : (vs.made.map Prod.fst)[i]? = some c := by rw [List.getElem?_map, hi, Option.map_some]
    have hkey' : (vs.made.map Prod.fst)[i']? = some c := by rw [List.getElem?_map, hi', Option.map_some]
    have hlt := (List.getElem?_eq_some_iff.mp hkey).1
    exact (List.getElem?_inj hlt h.nodup).mp (hkey.trans hkey'.symm)

end Sound
end Validators

namespace Desk

section

variable [Wasm.Engine] {d : Desk}

/-- What is kept is sound, and every request was answered as making its validator would have been: with the
place where that validator stands, or with the failure. -/
structure Sound (d : Desk) : Prop where
  validators : d.validators.Sound
  granted : ∀ c i, (c, .ok i) ∈ d.answers →
    ∃ v, Validator.new c = .ok v ∧ d.validators.made[i]? = some (c, v)
  refused : ∀ c e, (c, .error e) ∈ d.answers → Validator.new c = .error e

theorem Sound.empty : ({} : Desk).Sound where
  validators := ⟨nofun, List.nodup_nil⟩
  granted := nofun
  refused := nofun

theorem Sound.request (h : d.Sound) (c : Config) : (d.request c).Sound := by
  unfold Desk.request
  obtain ⟨i, v, vs, hask, hnew, hplace, hvs, hextends⟩ | ⟨e, hask, hnew⟩ := h.validators.ask_cases c
  · rw [hask]
    refine ⟨hvs, ?_, ?_⟩
    · intro c' i' hmem
      obtain hold | hone := List.mem_append.mp hmem
      · obtain ⟨v', hnew', hplace'⟩ := h.granted c' i' hold
        exact ⟨v', hnew', hextends.getElem? hplace'⟩
      · cases List.mem_singleton.mp hone
        exact ⟨v, hnew, hplace⟩
    · intro c' e' hmem
      obtain hold | hone := List.mem_append.mp hmem
      · exact h.refused c' e' hold
      · cases List.mem_singleton.mp hone
  · rw [hask]
    refine ⟨h.validators, ?_, ?_⟩
    · intro c' i' hmem
      obtain hold | hone := List.mem_append.mp hmem
      · exact h.granted c' i' hold
      · cases List.mem_singleton.mp hone
    · intro c' e' hmem
      obtain hold | hone := List.mem_append.mp hmem
      · exact h.refused c' e' hold
      · cases List.mem_singleton.mp hone
        exact hnew

theorem sound_after (requests : List Config) : (after requests).Sound := by
  induction requests using List.reverseRecOn with
  | nil => exact .empty
  | append_singleton cs c ih =>
    rw [after, List.foldl_concat]
    exact ih.request c

/-- Every request is answered, in its turn. -/
theorem keys_answers_after (requests : List Config) : (after requests).answers.map Prod.fst = requests := by
  have hrequest : ∀ (d : Desk) (c : Config),
      (d.request c).answers.map Prod.fst = d.answers.map Prod.fst ++ [c] := by
    intro d c
    unfold Desk.request
    cases Validators.ask c d.validators <;> simp
  induction requests using List.reverseRecOn with
  | nil => rfl
  | append_singleton cs c ih =>
    rw [after, List.foldl_concat, hrequest]
    exact congrArg (· ++ [c]) ih

theorem Sound.verdict?_of_granted (h : d.Sound) {n : Nat} {c : Config} {i : Nat}
    (hn : d.answers[n]? = some (c, .ok i)) (code : Bytes) :
    ∃ v, Validator.new c = .ok v ∧ d.verdict? n code = some (v.validate code) := by
  obtain ⟨v, hnew, hplace⟩ := h.granted c i (List.mem_of_getElem? hn)
  refine ⟨v, hnew, ?_⟩
  simp only [verdict?, hn, Validators.get?, hplace, Option.map_eq_map, Option.map_some]

/-- **Validators are kept unseen.** Over every history of requests, each request succeeds or fails as making a
validator for its configuration alone does, and its validator judges all code, whenever it is asked, as one
made afresh for that configuration. Two requests that succeed share a validator exactly if their
configurations are the same, and one that fails leaves what is kept as it is. -/
theorem kept_unseen (requests : List Config) :
    (∀ (n : Nat) c, requests[n]? = some c → ∃ answer, (after requests).answers[n]? = some (c, answer) ∧
      answer.map (fun _ => ()) = (Validator.new c).map (fun _ => ()) ∧
      ∀ code, (after requests).verdict? n code = (·.validate code) <$> (Validator.new c).toOption) ∧
    (∀ (n n' : Nat) c c' i i', (after requests).answers[n]? = some (c, .ok i) →
      (after requests).answers[n']? = some (c', .ok i') → (i = i' ↔ c = c')) ∧
    ∀ c e vs, Validators.ask c (after requests).validators = .error e vs →
      vs = (after requests).validators := by
  have hsound := sound_after requests
  refine ⟨?answered, ?shared, ?kept⟩
  case answered =>
    intro n c hn
    rw [← keys_answers_after requests, List.getElem?_map, Option.map_eq_some_iff] at hn
    obtain ⟨⟨c, answer⟩, hn, rfl⟩ := hn
    refine ⟨answer, hn, ?_⟩
    cases answer with
    | ok i =>
      obtain ⟨v, hnew, -⟩ := hsound.granted c i (List.mem_of_getElem? hn)
      refine ⟨by rw [hnew]; rfl, fun code => ?_⟩
      obtain ⟨v', hnew', hverdict⟩ := hsound.verdict?_of_granted hn code
      rw [hverdict, hnew']
      rfl
    | error e =>
      have hnew := hsound.refused c e (List.mem_of_getElem? hn)
      refine ⟨by rw [hnew]; rfl, fun code => ?_⟩
      simp only [verdict?, hn, hnew]
      rfl
  case shared =>
    intro n n' c c' i i' hn hn'
    obtain ⟨v, -, hplace⟩ := hsound.granted c i (List.mem_of_getElem? hn)
    obtain ⟨v', -, hplace'⟩ := hsound.granted c' i' (List.mem_of_getElem? hn')
    exact hsound.validators.place_eq_iff hplace hplace'
  case kept =>
    intro c e vs hask
    obtain ⟨i, v, vs', hok, -⟩ | ⟨e', herror, -⟩ := hsound.validators.ask_cases c
    · rw [hok] at hask
      cases hask
    · rw [herror] at hask
      cases hask
      rfl

end

/-- Another allocator makes another validator, and one without a name none at all. -/
example :
    (after [{}, { allocatorExport := "malloc" }, { allocatorExport := "" }, {}]).answers.map Prod.snd =
      [.ok 0, .ok 1, .error Config.Fault.exportNames.toError, .ok 0] := by
  decide

end Desk
end AspectHost
