import AspectHost.Proofs.CommandLine.Order

/-! # Arguments keep their order

A command line may give texts and bytes in any order, between its other options. A call gets just the
arguments that the words give, in their order, and where one of them is not a row of bytes no program is
loaded (`course_in_order`). -/

namespace AspectHost.CommandLine

/-! ## The other options -/

/-- Computations that a map does not tell apart fail alike, or succeed with results that it does not tell
apart. -/
theorem map_eq_map {ε α β : Type} {f : α → β} {x y : Except ε α} (h : f <$> x = f <$> y) :
    (∃ e, x = .error e ∧ y = .error e) ∨ ∃ a b, x = .ok a ∧ y = .ok b ∧ f a = f b := by
  cases x with
  | error e =>
    cases y with
    | error e' =>
      cases h
      exact .inl ⟨e, rfl, rfl⟩
    | ok b => cases h
  | ok a =>
    cases y with
    | error e' => cases h
    | ok b => exact .inr ⟨a, b, rfl, rfl, Except.ok.inj h⟩

namespace Matches

/-- What is there besides arguments. -/
def rest (m : Matches) : Matches := { m with texts := {}, hexes := {}, position := 0 }

theorem take_argument {g : Given} {a : Argument} (m : Matches) (hg : g.argument? = some a) :
    ∃ m', m.take g = .ok m' ∧ m'.rest = m.rest := by
  cases g with
  | validate => cases hg
  | option s v => cases s <;> first | exact ⟨_, rfl, rfl⟩ | cases hg

theorem given?_rest (m : Matches) (s : Setting) : m.rest.given? s = m.given? s := by cases s <;> rfl

/-- What is given next meets no arguments. -/
theorem take_rest (m : Matches) (g : Given) : rest <$> m.take g = rest <$> m.rest.take g := by
  cases g with
  | validate =>
    change rest <$> (if m.validate then _ else _) = rest <$> (if m.validate then _ else _)
    split <;> rfl
  | option s v =>
    change rest <$> (if (m.given? s).isSome then _ else _) =
      rest <$> (if (m.rest.given? s).isSome then _ else _)
    rw [given?_rest]
    split
    · rfl
    · cases s <;> rfl

/-- Arguments do not matter to what else is given. -/
theorem foldlM_others (gs : List Given) {m m' : Matches} (h : m.rest = m'.rest) :
    rest <$> gs.foldlM take m = rest <$> (others gs).foldlM take m' := by
  induction gs generalizing m m' with
  | nil => exact congrArg Except.ok h
  | cons g gs ih =>
    rw [List.foldlM_cons]
    cases hg : g.argument? with
    | some a =>
      obtain ⟨m'', htake, hrest⟩ := m.take_argument hg
      have hothers : others (g :: gs) = others gs := List.filter_cons_of_neg (by simp [hg])
      rw [htake, hothers]
      exact ih (hrest.trans h)
    | none =>
      have hothers : others (g :: gs) = g :: others gs := List.filter_cons_of_pos (by simp [hg])
      rw [hothers, List.foldlM_cons]
      have hsame : rest <$> m.take g = rest <$> m'.take g := by rw [m.take_rest, m'.take_rest, h]
      obtain ⟨e, htake, htake'⟩ | ⟨n, n', htake, htake', hrest⟩ := map_eq_map hsame
      · rw [htake, htake']
        rfl
      · rw [htake, htake']
        exact ih hrest

end Matches

/-- What the words ask for depends on the arguments only in what arguments there are. -/
theorem ofMatches_of_rest {m m' : Matches} (h : m.rest = m'.rest) {vs vs' : List Value}
    (hvs : Options.collect m = .ok vs) (hvs' : Options.collect m' = .ok vs') (program method : String) :
    Options.ofMatches program method m =
      (fun o => { o with arguments := vs }) <$> Options.ofMatches program method m' := by
  have hgas : m.gas = m'.gas := (congrArg Matches.gas h :)
  have hconfig : Options.configuration m = Options.configuration m' :=
    (congrArg Options.configuration h :)
  have hvalidate : m.validate = m'.validate := (congrArg Matches.validate h :)
  unfold Options.ofMatches
  rw [hgas, hconfig, hvs, hvs', hvalidate]
  cases Options.valueOr Options.number Options.defaultGas m'.gas with
  | error e => rfl
  | ok gas =>
    cases Options.configuration m' with
    | error e => rfl
    | ok config => rfl

theorem collect_of_ofMatches {m : Matches} {program method : String} {o : Options}
    (h : Options.ofMatches program method m = .ok o) : Options.collect m = .ok o.arguments := by
  obtain ⟨gas, -, h⟩ := bind_eq_ok.mp h
  obtain ⟨config, -, h⟩ := bind_eq_ok.mp h
  obtain ⟨vs, hvs, h⟩ := bind_eq_ok.mp h
  cases h
  exact hvs

/-! ## Command lines -/

/-- What is given is refused only where it must not be given again. -/
theorem Matches.usage_of_foldlM {gs : List Given} {m : Matches} {r : Refusal}
    (h : gs.foldlM Matches.take m = .error r) : ∃ reason, r = .usage reason := by
  induction gs generalizing m with
  | nil => cases h
  | cons g gs ih =>
    rw [List.foldlM_cons] at h
    obtain h | ⟨m', -, h⟩ := bind_eq_error.mp h
    · cases g with
      | validate =>
        change (if m.validate then _ else _) = _ at h
        split at h <;> cases h
        exact ⟨_, rfl⟩
      | option s v =>
        change (if (m.given? s).isSome then _ else _) = _ at h
        split at h <;> cases h
        exact ⟨_, rfl⟩
    · exact ih h

theorem Exit.code_ne_zero {e : Exit} (h : ∀ output, e ≠ .done output) : e.code ≠ 0 := by
  cases e with
  | done output => exact absurd rfl (h output)
  | failed message =>
    change (1 : UInt8) ≠ 0
    decide
  | refused reason =>
    change (2 : UInt8) ≠ 0
    decide

section

variable {gs : List Given} {words : List String} (h : Lists gs words)

include h

/-- The words end the command line with a failure, or ask for a call with what their arguments stand for. -/
theorem options_cases : (∃ exit, options words = .error exit ∧ exit.code ≠ 0) ∨
    ∃ o, options words = .ok o ∧ List.Forall₂ Argument.Stands (arguments gs) o.arguments := by
  unfold options
  cases hread : Matches.read {} words with
  | error r =>
    rw [Matches.read_of_lists {} h] at hread
    obtain ⟨reason, rfl⟩ := Matches.usage_of_foldlM hread
    exact .inl ⟨.refused reason, rfl, Exit.code_ne_zero nofun⟩
  | ok m =>
    cases hprogram : m.program with
    | none => exact .inl ⟨.refused _, by simp only [hprogram]; rfl, Exit.code_ne_zero nofun⟩
    | some program =>
      cases hmethod : m.method with
      | none => exact .inl ⟨.refused _, by simp only [hprogram, hmethod]; rfl, Exit.code_ne_zero nofun⟩
      | some method =>
        cases ho : Options.ofMatches program method m with
        | error e =>
          exact .inl ⟨.failed e, by simp only [hprogram, hmethod, ho]; rfl, Exit.code_ne_zero nofun⟩
        | ok o =>
          refine .inr ⟨o, by simp only [hprogram, hmethod, ho]; rfl, ?_⟩
          exact (collect_of_lists h hread).mp (collect_of_ofMatches ho)

/-- If the arguments all stand for values, what the words ask for is what they ask for without the arguments,
with these values. -/
theorem options_of_stand {vs : List Value} (hvs : List.Forall₂ Argument.Stands (arguments gs) vs)
    {words' : List String} (h' : Lists (others gs) words') :
    options words = (fun o => { o with arguments := vs }) <$> options words' := by
  have hsame : Matches.rest <$> Matches.read {} words = Matches.rest <$> Matches.read {} words' := by
    rw [Matches.read_of_lists {} h, Matches.read_of_lists {} h']
    exact Matches.foldlM_others gs rfl
  have hnone : arguments (others gs) = [] := by
    unfold arguments others
    simp
  unfold options
  obtain ⟨r, hread, hread'⟩ | ⟨m, m', hread, hread', hrest⟩ := map_eq_map hsame
  · rw [hread, hread']
    rfl
  · rw [hread, hread']
    have hprogram : m.program = m'.program := (congrArg Matches.program hrest :)
    have hmethod : m.method = m'.method := (congrArg Matches.method hrest :)
    have hcollect : Options.collect m' = .ok [] :=
      (collect_of_lists h' hread').mpr (hnone ▸ .nil)
    dsimp only
    rw [hprogram, hmethod]
    cases m'.program with
    | none => rfl
    | some program =>
      cases m'.method with
      | none => rfl
      | some method =>
        dsimp only
        rw [ofMatches_of_rest hrest ((collect_of_lists h hread).mpr hvs) hcollect]
        cases Options.ofMatches program method m' <;> rfl

end

theorem lists_of_options {words : List String} {o : Options} (h : options words = .ok o) :
    ∃ gs, Lists gs words := by
  unfold options at h
  cases hread : Matches.read {} words with
  | error r => rw [hread] at h; cases h
  | ok m => exact Matches.lists_of_read hread

theorem course_of_error {words : List String} {exit : Exit} (h : options words = .error exit) :
    course words = .ending exit := by
  unfold course
  rw [h]

/-- **Arguments keep their order.** If what is told of the two kinds of arguments was given at rising
positions, the call gets what was given, in that order. So it is with words: those that ask for a call
give something, and ask for it with what their arguments stand for, one by one. Where all bytes can be
read, arguments make no other difference to what the words ask for; where some cannot, the command line
ends with a failure, and no program is loaded. -/
theorem course_in_order :
    (∀ m given vs, Matches.Tells m given →
      (Options.collect m = .ok vs ↔ List.Forall₂ Argument.Stands (given.map Prod.snd) vs)) ∧
    ∀ words, (∀ o, options words = .ok o → ∃ gs, Lists gs words) ∧
      ∀ gs, Lists gs words →
        (∀ o, options words = .ok o → List.Forall₂ Argument.Stands (arguments gs) o.arguments) ∧
        ((∀ s, .hex s ∈ arguments gs → ∃ b, Text.Hex.decode s = .ok b) →
          ∃ vs, List.Forall₂ Argument.Stands (arguments gs) vs ∧
            ∀ words', Lists (others gs) words' →
              options words = (fun o => { o with arguments := vs }) <$> options words') ∧
        ∀ s e, .hex s ∈ arguments gs → Text.Hex.decode s = .error e →
          ∃ exit, options words = .error exit ∧ exit.code ≠ 0 ∧ course words = .ending exit := by
  refine ⟨fun m given vs h => collect_eq_ok_iff h, fun words => ⟨fun o => lists_of_options, fun gs h => ?_⟩⟩
  refine ⟨?_, ?_, ?_⟩
  · intro o ho
    obtain ⟨exit, hexit, -⟩ | ⟨o', ho', hstand⟩ := options_cases h
    · cases ho.symm.trans hexit
    · cases ho.symm.trans ho'
      exact hstand
  · intro hread
    obtain ⟨vs, hvs⟩ := Argument.stand_of_read hread
    exact ⟨vs, hvs, fun words' h' => options_of_stand h hvs h'⟩
  · intro s e hs he
    obtain ⟨exit, hexit, hcode⟩ | ⟨o, -, hstand⟩ := options_cases h
    · exact ⟨exit, hexit, hcode, course_of_error hexit⟩
    · obtain ⟨b, hb⟩ := Argument.read_of_stand hstand hs
      cases he.symm.trans hb

/-- Bytes between two texts, at positions that other options leave between them; the same from words; and
a text that is none of bytes, which ends the command line. -/
theorem course_in_order_mixed :
    Options.collect { texts := ⟨["a", "z"], [4, 9]⟩, hexes := ⟨["0aff"], [6]⟩ } =
      .ok [.string "a", .bytearray [10, 255], .string "z"] ∧
    (options ["-p", "x.wasm", "--arg=a", "-b", "0aff", "--method", "f", "-az"]).map Options.arguments =
      .ok [.string "a", .bytearray [10, 255], .string "z"] ∧
    ∃ exit, exit.code ≠ 0 ∧ course ["--arg", "a", "-b=0"] = .ending exit := by
  obtain ⟨htold, hwords⟩ := course_in_order
  have hread : Text.Hex.decode "0aff" = .ok [10, 255] := by rfl
  refine ⟨?_, ?_, ?_⟩
  · refine (htold _ [(4, .text "a"), (6, .hex "0aff"), (9, .text "z")] _ ⟨?_, rfl, rfl⟩).mpr ?_
    · decide
    · exact .cons (.text "a") (.cons (.hex hread) (.cons (.text "z") .nil))
  · have hgiven : Lists [.option .program "x.wasm", .option .text "a", .option .hex "0aff",
        .option .method "f", .option .text "z"] ["-p", "x.wasm", "--arg=a", "-b", "0aff", "--method", "f", "-az"] :=
      .cons (.letterApart (c := 'p') rfl (.inr (by decide))) <| .cons (.joined .text "a") <|
        .cons (.letterApart (c := 'b') rfl (.inr (by decide))) <| .cons (.apart .method (.inr (by decide))) <|
          .cons (.letterAttached (c := 'a') rfl (by decide) (by decide)) .nil
    have hrest : Lists [.option .program "x.wasm", .option .method "f"] ["-p", "x.wasm", "--method", "f"] :=
      .cons (.letterApart (c := 'p') rfl (.inr (by decide))) <| .cons (.apart .method (.inr (by decide))) .nil
    obtain ⟨vs, hstand, hsame⟩ := ((hwords _).2 _ hgiven).2.1 fun s hs => by
      obtain rfl : "0aff" = s := by simpa [arguments, Given.argument?, eq_comm] using hs
      exact ⟨_, hread⟩
    have hcall : options ["-p", "x.wasm", "--method", "f"] = .ok ⟨"x.wasm", "f", 1000000, [], {}, false⟩ := by
      cbv
    have hvs : vs = [.string "a", .bytearray [10, 255], .string "z"] :=
      List.right_unique_forall₂' Argument.stands_unique hstand
        (.cons (.text "a") (.cons (.hex hread) (.cons (.text "z") .nil)))
    rw [hsame _ hrest, hcall, hvs]
    rfl
  · have hgiven : Lists [.option .text "a", .option .hex "0"] ["--arg", "a", "-b=0"] :=
      .cons (.apart .text (.inr (by decide))) <| .cons (.letterJoined (c := 'b') rfl "0") .nil
    have hmem : .hex "0" ∈ arguments [.option .text "a", .option .hex "0"] := by decide
    obtain ⟨exit, -, hcode, hcourse⟩ := ((hwords _).2 _ hgiven).2.2 "0" .oddLength hmem rfl
    exact ⟨exit, hcode, hcourse⟩

end AspectHost.CommandLine
