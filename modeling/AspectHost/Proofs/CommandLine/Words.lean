import AspectHost.CommandLine
import AspectHost.Proofs.Outcome

/-! # What the words of a command line give

Every way of writing an option is a list of words (`Spells`), and a command line is one after the other
(`Lists`). Words that can be read give something (`Matches.lists_of_read`), and are read as just what they
give, in that order (`Matches.read_of_lists`). -/

namespace AspectHost.CommandLine

/-! ## What a command line gives -/

/-- An argument of the call, as it is given. -/
inductive Argument where
  | text (s : String)
  | hex (s : String)
  deriving DecidableEq

namespace Argument

def text? : Argument → Option String
  | text s => some s
  | hex _ => none

def hex? : Argument → Option String
  | text _ => none
  | hex s => some s

/-- The value that an argument stands for. Not every text is one of bytes. -/
inductive Stands : Argument → Value → Prop
  | text (s : String) : Stands (text s) (.string s)
  | hex {s : String} {b : Bytes} (h : Text.Hex.decode s = .ok b) : Stands (hex s) (.bytearray b)

theorem stands_unique : Relator.RightUnique Stands := by
  intro a v v' h h'
  cases h with
  | text s =>
    cases h'
    rfl
  | hex hb =>
    cases h' with
    | hex hb' =>
      cases hb.symm.trans hb'
      rfl

/-- Where all bytes can be read, each argument stands for a value. -/
theorem stand_of_read {args : List Argument} (h : ∀ s, hex s ∈ args → ∃ b, Text.Hex.decode s = .ok b) :
    ∃ vs, List.Forall₂ Stands args vs := by
  induction args with
  | nil => exact ⟨[], .nil⟩
  | cons a args ih =>
    obtain ⟨vs, hvs⟩ := ih fun s hs => h s (List.mem_cons_of_mem a hs)
    cases a with
    | text s => exact ⟨_, .cons (.text s) hvs⟩
    | hex s =>
      obtain ⟨b, hb⟩ := h s List.mem_cons_self
      exact ⟨_, .cons (.hex hb) hvs⟩

theorem read_of_stand {args : List Argument} {vs : List Value} (h : List.Forall₂ Stands args vs) {s : String}
    (hs : hex s ∈ args) : ∃ b, Text.Hex.decode s = .ok b := by
  induction h with
  | nil => cases hs
  | cons ha _ ih =>
    obtain rfl | hs := List.mem_cons.mp hs
    · cases ha with
      | hex hb => exact ⟨_, hb⟩
    · exact ih hs

end Argument

/-- One thing that a command line gives. -/
inductive Given where
  | option (s : Setting) (v : String)
  | validate
  deriving DecidableEq

def Given.argument? : Given → Option Argument
  | option .text v => some (.text v)
  | option .hex v => some (.hex v)
  | _ => none

/-- The arguments of the call, in the order of the command line. -/
def arguments (gs : List Given) : List Argument := gs.filterMap Given.argument?

/-- What the command line gives besides arguments. -/
def others (gs : List Given) : List Given := gs.filter (·.argument?.isNone)

/-- The word does not look like an option. -/
def Plain (v : String) : Prop := v = "-" ∨ v.toList.head? ≠ some '-'

/-- The words that give something. -/
inductive Spells : Given → List String → Prop
  | joined (s : Setting) (v : String) : Spells (.option s v) ["--" ++ s.long ++ "=" ++ v]
  | apart (s : Setting) {v : String} (hv : Plain v) : Spells (.option s v) ["--" ++ s.long, v]
  | letterJoined {c : Char} {s : Setting} (hc : Setting.ofShort? c = some s) (v : String) :
    Spells (.option s v) ["-".push c ++ "=" ++ v]
  | letterAttached {c : Char} {s : Setting} (hc : Setting.ofShort? c = some s) {v : String} (hv : v ≠ "")
    (hequals : v.toList.head? ≠ some '=') : Spells (.option s v) ["-".push c ++ v]
  | letterApart {c : Char} {s : Setting} (hc : Setting.ofShort? c = some s) {v : String} (hv : Plain v) :
    Spells (.option s v) ["-".push c, v]
  | validate : Spells .validate ["--validate"]

/-- The words of a command line that gives all this. Two dashes may end it. -/
inductive Lists : List Given → List String → Prop
  | nil : Lists [] []
  | escape : Lists [] ["--"]
  | cons {g : Given} {gs : List Given} {word rest : List String} (h : Spells g word) (hs : Lists gs rest) :
    Lists (g :: gs) (word ++ rest)

/-- Adds what is given next. -/
def Matches.take (m : Matches) : Given → Except Refusal Matches
  | .option s v => m.set s v
  | .validate => m.switch .validate

/-! ## Words -/

section

variable {word v : String} {c : Char} {r : List Char} {s : Setting}

theorem ofString_of_long (h : word.toList = '-' :: '-' :: r) (hr : r ≠ []) :
    Word.ofString word = .long (Word.splitValue r).1 (Word.splitValue r).2 := by
  unfold Word.ofString
  rw [h]
  cases r with
  | nil => exact absurd rfl hr
  | cons c r => rfl

theorem ofString_of_short (h : word.toList = '-' :: c :: r) (hc : c ≠ '-') :
    Word.ofString word = .short c r := by
  unfold Word.ofString
  rw [h]
  split <;> simp_all

theorem ofString_of_plain (h : Plain v) : Word.ofString v = .plain v := by
  obtain rfl | h := h
  · rfl
  · unfold Word.ofString
    split <;> simp_all

/-- The forms that words have. -/
theorem ofString_cases (word : String) :
    word = "--" ∨ (∃ r, r ≠ [] ∧ word.toList = '-' :: '-' :: r) ∨
      (∃ c r, c ≠ '-' ∧ word.toList = '-' :: c :: r) ∨ Plain word := by
  cases hword : word.toList with
  | nil => exact .inr (.inr (.inr (.inr (by simp [hword]))))
  | cons c cs =>
    by_cases hc : c = '-'
    · subst hc
      cases cs with
      | nil => exact .inr (.inr (.inr (.inl (String.toList_inj.mp hword))))
      | cons d r =>
        by_cases hd : d = '-'
        · subst hd
          cases r with
          | nil => exact .inl (String.toList_inj.mp hword)
          | cons e r => exact .inr (.inl ⟨e :: r, by simp, rfl⟩)
        · exact .inr (.inr (.inl ⟨d, r, hd, rfl⟩))
    · exact .inr (.inr (.inr (.inr (by simpa [hword] using hc))))

theorem plain_of_ofString (h : Word.ofString word = .plain v) : Plain word ∧ word = v := by
  obtain rfl | ⟨r, hr, hword⟩ | ⟨c, r, hc, hword⟩ | hplain := ofString_cases word
  · cases h
  · rw [ofString_of_long hword hr] at h
    cases h
  · rw [ofString_of_short hword hc] at h
    cases h
  · rw [ofString_of_plain hplain] at h
    cases h
    exact ⟨hplain, rfl⟩

theorem splitValue_joined {name : List Char} (h : '=' ∉ name) (v : List Char) :
    Word.splitValue (name ++ '=' :: v) = (String.ofList name, some (String.ofList v)) := by
  have hname : ∀ c ∈ name, (c != '=') = true := fun c hc => bne_iff_ne.mpr fun he => h (he ▸ hc)
  have hdrop : (name ++ '=' :: v).dropWhile (· != '=') = '=' :: v := by
    rw [List.dropWhile_append_of_pos hname]
    rfl
  have htake : (name ++ '=' :: v).takeWhile (· != '=') = name := by
    rw [List.takeWhile_append_of_pos hname]
    simp
  simp only [Word.splitValue, hdrop, htake]

theorem splitValue_bare (h : '=' ∉ r) : Word.splitValue r = (String.ofList r, none) := by
  have hdrop : r.dropWhile (· != '=') = [] :=
    List.dropWhile_eq_nil_iff.mpr fun c hc => bne_iff_ne.mpr fun he => h (he ▸ hc)
  simp only [Word.splitValue, hdrop]

theorem ofLong?_eq_some {name : String} : Setting.ofLong? name = some s ↔ s.long = name := by
  constructor
  · intro h
    simpa using List.find?_some h
  · rintro rfl
    cases s <;> rfl

theorem not_mem_long (s : Setting) : '=' ∉ s.long.toList := by cases s <;> decide

theorem ofShort?_ne (h : Setting.ofShort? c = some s) : c ≠ '-' := by
  rintro rfl
  cases h

/-! ## What a word gives on its own -/

theorem ofWord_joined (s : Setting) (v : String) : Demand.ofWord ("--" ++ s.long ++ "=" ++ v) = .set s v := by
  have hword : ("--" ++ s.long ++ "=" ++ v).toList = '-' :: '-' :: (s.long.toList ++ '=' :: v.toList) := by
    simp
  have hlong : Setting.ofLong? s.long = some s := ofLong?_eq_some.mpr rfl
  simp only [Demand.ofWord, ofString_of_long hword (by simp), splitValue_joined (not_mem_long s),
    String.ofList_toList, hlong]

theorem ofWord_apart (s : Setting) : Demand.ofWord ("--" ++ s.long) = .await s := by
  cases s <;> rfl

theorem ofWord_letterJoined (hc : Setting.ofShort? c = some s) (v : String) :
    Demand.ofWord ("-".push c ++ "=" ++ v) = .set s v := by
  have hword : ("-".push c ++ "=" ++ v).toList = '-' :: c :: '=' :: v.toList := by simp
  simp [Demand.ofWord, ofString_of_short hword (ofShort?_ne hc), hc, Word.attached?]

theorem ofWord_letterAttached (hc : Setting.ofShort? c = some s) (hv : v ≠ "")
    (hequals : v.toList.head? ≠ some '=') : Demand.ofWord ("-".push c ++ v) = .set s v := by
  have hword : ("-".push c ++ v).toList = '-' :: c :: v.toList := by simp
  have hattached : Word.attached? v.toList = some v := by
    unfold Word.attached?
    split <;> simp_all
  simp only [Demand.ofWord, ofString_of_short hword (ofShort?_ne hc), hc, hattached]

theorem ofWord_letterApart (hc : Setting.ofShort? c = some s) : Demand.ofWord ("-".push c) = .await s := by
  have hword : ("-".push c).toList = ['-', c] := by simp
  simp [Demand.ofWord, ofString_of_short hword (ofShort?_ne hc), hc, Word.attached?]

/-! ## Which words give it -/

theorem long_cases (h : word.toList = '-' :: '-' :: r) :
    (∃ name v, word = "--" ++ name ++ "=" ++ v ∧ Word.splitValue r = (name, some v)) ∨
      ∃ name, word = "--" ++ name ∧ Word.splitValue r = (name, none) := by
  by_cases hequals : '=' ∈ r
  · obtain ⟨name, v, rfl, hname⟩ := List.eq_append_cons_of_mem hequals
    refine .inl ⟨String.ofList name, String.ofList v, ?_, splitValue_joined hname v⟩
    exact String.toList_inj.mp (by simp [h])
  · refine .inr ⟨String.ofList r, ?_, splitValue_bare hequals⟩
    exact String.toList_inj.mp (by simp [h])

theorem spells_of_short {v : String} (hc : Setting.ofShort? c = some s) (h : word.toList = '-' :: c :: r)
    (hv : Word.attached? r = some v) : Spells (.option s v) [word] := by
  unfold Word.attached? at hv
  split at hv
  · cases hv
  · rename_i r'
    obtain rfl := Option.some.inj hv
    have hword : word = "-".push c ++ "=" ++ String.ofList r' := String.toList_inj.mp (by simp [h])
    exact hword ▸ .letterJoined hc _
  · rename_i hne hequals
    obtain rfl := Option.some.inj hv
    have hword : word = "-".push c ++ String.ofList r := String.toList_inj.mp (by simp [h])
    refine hword ▸ .letterAttached hc ?_ ?_
    · intro hempty
      exact hne (by simpa using congrArg String.toList hempty)
    · intro hhead
      cases r with
      | nil => exact hne rfl
      | cons d r => exact hequals r (by simpa using hhead)

/-- The word is one that makes the demand. -/
def Demand.Spelled (word : String) : Demand → Prop
  | .set s v => Spells (.option s v) [word]
  | .await s => ∀ v, Plain v → Spells (.option s v) [word, v]
  | .switch .validate => word = "--validate"
  | .finish => word = "--"
  | _ => True

theorem Switch.spelled_of_long {name : String} (h : word = "--" ++ name) :
    (((Switch.ofLong? name).map Demand.switch).getD (.unknown word)).Spelled word := by
  unfold Switch.ofLong?
  split
  · exact h
  · exact trivial
  · exact trivial
  · exact trivial

theorem Switch.spelled_of_short (c : Char) :
    (((Switch.ofShort? c).map Demand.switch).getD (.unknown word)).Spelled word := by
  unfold Switch.ofShort?
  split <;> exact trivial

theorem spelled_ofWord (word : String) : (Demand.ofWord word).Spelled word := by
  unfold Demand.ofWord
  obtain rfl | ⟨r, hr, hword⟩ | ⟨c, r, hc, hword⟩ | hplain := ofString_cases word
  · rfl
  · obtain ⟨name, v, hspelled, hsplit⟩ | ⟨name, hspelled, hsplit⟩ := long_cases hword
    · cases hs : Setting.ofLong? name with
      | none =>
        simp only [ofString_of_long hword hr, hsplit, hs]
        exact trivial
      | some s =>
        simp only [ofString_of_long hword hr, hsplit, hs]
        obtain rfl := ofLong?_eq_some.mp hs
        exact hspelled ▸ Spells.joined s v
    · cases hs : Setting.ofLong? name with
      | none =>
        simp only [ofString_of_long hword hr, hsplit, hs]
        exact Switch.spelled_of_long hspelled
      | some s =>
        simp only [ofString_of_long hword hr, hsplit, hs]
        obtain rfl := ofLong?_eq_some.mp hs
        exact fun v hv => hspelled ▸ Spells.apart s hv
  · cases hs : Setting.ofShort? c with
    | none =>
      simp only [ofString_of_short hword hc, hs]
      exact Switch.spelled_of_short c
    | some s =>
      cases hv : Word.attached? r with
      | some v =>
        simp only [ofString_of_short hword hc, hs, hv]
        exact spells_of_short hs hword hv
      | none =>
        simp only [ofString_of_short hword hc, hs, hv]
        obtain rfl : r = [] := by
          unfold Word.attached? at hv
          split at hv <;> first | rfl | cases hv
        have hletter : word = "-".push c := String.toList_inj.mp (by simp [hword])
        exact fun v hv => hletter ▸ Spells.letterApart hs hv
  · simp only [ofString_of_plain hplain]
    exact trivial

theorem spelled_of_ofWord {d : Demand} (h : Demand.ofWord word = d) : d.Spelled word :=
  h ▸ spelled_ofWord word

end

/-! ## Reading the words -/

namespace Matches

theorem read_cons (m : Matches) (word : String) (rest : List String) : m.read (word :: rest) =
    match Demand.ofWord word with
    | .set s v => do read (← m.set s v) rest
    | .switch s => do read (← m.switch s) rest
    | .finish =>
      match rest with
      | [] => .ok m
      | w :: _ => .error (unexpected w)
    | .unknown w => .error (unexpected w)
    | .await s =>
      match rest with
      | [] => .error (missing s)
      | v :: rest =>
        match Word.ofString v with
        | .plain v => do read (← m.set s v) rest
        | _ => .error (missing s) :=
  read.eq_def m (word :: rest)

theorem read_of_spells (m : Matches) {g : Given} {word : List String} (h : Spells g word)
    (rest : List String) :
    m.read (word ++ rest) = m.take g >>= (·.read rest) := by
  cases h with
  | joined s v => simp only [List.cons_append, List.nil_append, read_cons, ofWord_joined, take]
  | apart s hv =>
    simp only [List.cons_append, List.nil_append, read_cons, ofWord_apart, ofString_of_plain hv, take]
  | letterJoined hc v =>
    simp only [List.cons_append, List.nil_append, read_cons, ofWord_letterJoined hc, take]
  | letterAttached hc hv hequals =>
    simp only [List.cons_append, List.nil_append, read_cons, ofWord_letterAttached hc hv hequals, take]
  | letterApart hc hv =>
    simp only [List.cons_append, List.nil_append, read_cons, ofWord_letterApart hc,
      ofString_of_plain hv, take]
  | validate => rfl

/-- Words are read as what they give, one after the other. -/
theorem read_of_lists (m : Matches) {gs : List Given} {words : List String} (h : Lists gs words) :
    m.read words = gs.foldlM take m := by
  induction h generalizing m with
  | nil => rfl
  | escape => rfl
  | cons h hs ih =>
    rw [read_of_spells m h, List.foldlM_cons]
    simp only [ih]

/-- Words that are read give something. -/
theorem lists_of_read {m m' : Matches} {words : List String} (h : m.read words = .ok m') :
    ∃ gs, Lists gs words := by
  fun_induction read m words with
  | case1 m => exact ⟨[], .nil⟩
  | case2 m word rest s v hd ih =>
    obtain ⟨m'', -, h⟩ := bind_eq_ok.mp h
    obtain ⟨gs, hgs⟩ := ih m'' h
    exact ⟨_, .cons (spelled_of_ofWord hd) hgs⟩
  | case3 m word rest s hd ih =>
    obtain ⟨m'', hs, h⟩ := bind_eq_ok.mp h
    obtain ⟨gs, hgs⟩ := ih m'' h
    cases s with
    | validate =>
      obtain rfl : word = "--validate" := spelled_of_ofWord hd
      exact ⟨_, .cons .validate hgs⟩
    | version => cases hs
    | help => cases hs
  | case4 m word hd =>
    obtain rfl : word = "--" := spelled_of_ofWord hd
    exact ⟨[], .escape⟩
  | case8 m word s hd w rest v hv ih =>
    obtain ⟨m'', -, h⟩ := bind_eq_ok.mp h
    obtain ⟨gs, hgs⟩ := ih m'' h
    obtain ⟨hplain, rfl⟩ := plain_of_ofString hv
    exact ⟨_, .cons (spelled_of_ofWord hd w hplain) hgs⟩
  | _ => cases h

end Matches

end AspectHost.CommandLine
