import FencedDiff.Except
import FencedDiff.Proofs.Command.Words

/-!
# Asking for a mode

Behind the words that ask for a mode, the reading of a plain command line goes on as it
would have without them: to the same error, or to the same arguments with the mode besides
(`read_of_asks`).

This is shown step by step. The two readings stay apart by what the mode noted and nothing
else, which is what `Mirrors` says of their answers; only when the arguments are checked
against each other can the mode make a difference. The one thing that the words do to the
reading in front of them is that a value is read which otherwise would be read later
(`finish_of_settle`). If that value is wrong, this is told in either case, unless a second
document stands behind it, which without the mode is noticed first.
-/

namespace FencedDiff.Command

/-- The argument that a mode is asked for with. -/
def Mode.arg : Mode → Arg
  | .inPlace => .inPlace
  | .output _ => .output
  | .check => .check

/-- The arguments with a mode besides. -/
def Arguments.asked (a : Arguments) : Mode → Arguments
  | .inPlace => { a with inPlace := true }
  | .output path => { a with output := some path }
  | .check => { a with check := true }

/-- The matches after the words for a mode. -/
def Matches.asked (m : Matches) (mode : Mode) : Matches :=
  m.note mode.arg (m.arguments.asked mode)

/-- The reading after the words for a mode, if no value was pending. -/
def Reading.asked (r : Reading) (mode : Mode) : Reading := { r with found := r.found.asked mode }

/-- The arguments with a mode besides, unless it is to change a document in place that is in no
file. -/
def Mode.accept (mode : Mode) (a : Arguments) : Except Stop Arguments :=
  if (a.asked mode).inPlace && a.input.isNone then .error (.usage .missingInput)
  else .ok (a.asked mode)

/-- The arguments ask for no mode. -/
structure Arguments.IsPlain (a : Arguments) : Prop where
  output_eq : a.output = none
  inPlace_eq : a.inPlace = false
  check_eq : a.check = false
  initConfig_eq : a.initConfig = false

structure Matches.IsNeutral (m : Matches) : Prop where
  arguments : m.arguments.IsPlain
  present : ∀ arg ∈ m.present, arg.isNeutral = true

structure Reading.IsNeutral (positionalOnly : Bool) (r : Reading) : Prop where
  found : r.found.IsNeutral
  pending : ∀ arg value, r.pending = some (arg, value) → arg.isNeutral = true
  positionalOnly_eq : r.positionalOnly = positionalOnly

/-! ## Two readings side by side -/

/-- The second matches are the first, which ask for no mode, with the mode besides. -/
structure Matches.Adds (mode : Mode) (m m' : Matches) : Prop where
  neutral : m.IsNeutral
  arguments_eq : m'.arguments = m.arguments.asked mode
  mem_present_iff : ∀ arg, arg ∈ m'.present ↔ arg = mode.arg ∨ arg ∈ m.present

/-- The second reading is the first, with a mode besides. -/
structure Reading.Adds (mode : Mode) (positionalOnly : Bool) (r r' : Reading) : Prop where
  neutral : r.IsNeutral positionalOnly
  found : r.found.Adds mode r'.found
  eq : r' = { r with found := r'.found }

/-- Both fail alike, and not because help was asked for, or what they come to is related. -/
inductive Mirrors {α : Type} (rel : α → α → Prop) : Except Stop α → Except Stop α → Prop
  | error (e : UsageError) : Mirrors rel (.error (.usage e)) (.error (.usage e))
  | ok {a b : α} (h : rel a b) : Mirrors rel (.ok a) (.ok b)

namespace Mirrors

variable {α β : Type} {rel : α → α → Prop} {rel' : β → β → Prop} {x y : Except Stop α}

theorem bind (h : Mirrors rel x y) {f g : α → Except Stop β}
    (hfg : ∀ a b, rel a b → Mirrors rel' (f a) (g b)) : Mirrors rel' (x >>= f) (y >>= g) := by
  cases h with
  | error e => exact .error e
  | ok hab => exact hfg _ _ hab

theorem map (h : Mirrors rel x y) {f g : α → β} (hfg : ∀ a b, rel a b → rel' (f a) (g b)) :
    Mirrors rel' (x.map f) (y.map g) := by
  cases h with
  | error e => exact .error e
  | ok hab => exact .ok (hfg _ _ hab)

theorem left_cases (h : Mirrors rel x y) :
    (∃ e, x = .error (.usage e)) ∨ ∃ a b, x = .ok a ∧ rel a b := by
  cases h with
  | error e => exact .inl ⟨e, rfl⟩
  | ok hab => exact .inr ⟨_, _, rfl, hab⟩

end Mirrors

theorem Mode.arg_ne_of_isNeutral (mode : Mode) {arg : Arg} (h : arg.isNeutral = true) :
    arg ≠ mode.arg := by
  rintro rfl
  cases mode <;> cases h

theorem Matches.IsNeutral.note {m : Matches} (hm : m.IsNeutral) {arg : Arg}
    (harg : arg.isNeutral = true) {a : Arguments} (ha : a.IsPlain) : (m.note arg a).IsNeutral := by
  refine ⟨ha, ?_⟩
  rw [Matches.note, List.forall_mem_append, List.forall_mem_singleton]
  exact ⟨hm.present, harg⟩

theorem Matches.IsNeutral.adds_asked {m : Matches} (hm : m.IsNeutral) (mode : Mode) :
    m.Adds mode (m.asked mode) where
  neutral := hm
  arguments_eq := rfl
  mem_present_iff arg := by
    rw [Matches.asked, Matches.note, List.mem_append, List.mem_singleton, or_comm]

theorem Reading.IsNeutral.adds_asked {r : Reading} {p : Bool} (hr : r.IsNeutral p) (mode : Mode) :
    r.Adds mode p (r.asked mode) where
  neutral := hr
  found := hr.found.adds_asked mode
  eq := rfl

section Steps

variable {mode : Mode} {m m' : Matches} {r r' : Reading} {p : Bool} {arg : Arg}

theorem Matches.Adds.note (h : m.Adds mode m') (harg : arg.isNeutral = true) {a a' : Arguments}
    (ha : a.IsPlain) (haskd : a' = a.asked mode) : (m.note arg a).Adds mode (m'.note arg a') where
  neutral := h.neutral.note harg ha
  arguments_eq := haskd
  mem_present_iff other := by
    rw [Matches.note, Matches.note, List.mem_append, List.mem_append, h.mem_present_iff, or_assoc]

theorem mirrors_path (value : String) :
    Mirrors Eq (Matches.path arg value) (Matches.path arg value) := by
  rw [Matches.path]
  split
  · exact .error _
  · exact .ok rfl

theorem mirrors_choice {α : Type} (ofName? : String → Option α) (value : String) :
    Mirrors Eq (Matches.choice arg ofName? value) (Matches.choice arg ofName? value) := by
  rw [Matches.choice]
  split
  · exact .ok rfl
  · exact .error _

theorem Matches.Adds.set (h : m.Adds mode m') (harg : arg.isNeutral = true) (value : String) :
    Mirrors (Matches.Adds mode) (m.set arg value) (m'.set arg value) := by
  have hcontains : m'.present.contains arg = m.present.contains arg := by
    rw [Bool.eq_iff_iff, List.contains_iff_mem, List.contains_iff_mem, h.mem_present_iff,
      or_iff_right (mode.arg_ne_of_isNeutral harg)]
  rw [Matches.set, Matches.set, hcontains]
  split
  · exact .error _
  · have ha := h.neutral.arguments
    cases arg with
    | input | config =>
        apply (mirrors_path value).map
        rintro v _ rfl
        refine h.note harg ⟨ha.output_eq, ha.inPlace_eq, ha.check_eq, ha.initConfig_eq⟩ ?_
        rw [h.arguments_eq]
        cases mode <;> rfl
    | policy | scanner =>
        apply (mirrors_choice _ value).map
        rintro v _ rfl
        refine h.note harg ⟨ha.output_eq, ha.inPlace_eq, ha.check_eq, ha.initConfig_eq⟩ ?_
        rw [h.arguments_eq]
        cases mode <;> rfl
    | output | inPlace | check | initConfig | help | version => cases harg

theorem Reading.Adds.settle (h : r.Adds mode p r') :
    Mirrors (Reading.Adds mode p) r.settle r'.settle := by
  rw [h.eq, Reading.settle, Reading.settle]
  dsimp only
  split
  · exact .ok (h.eq ▸ h)
  · exact .error _
  · rename_i arg value hpending
    refine (h.found.set (h.neutral.pending _ _ hpending) value).map fun found found' hfound => ?_
    exact ⟨⟨hfound.neutral, by simp, h.neutral.positionalOnly_eq⟩, hfound, rfl⟩

theorem Reading.Adds.attached (h : r.Adds mode p r') (harg : arg.isNeutral = true)
    (value : String) :
    Mirrors (Reading.Adds mode p) (r.attached arg value) (r'.attached arg value) := by
  refine h.settle.bind fun s s' hs => ?_
  refine (hs.found.set harg value).bind fun found found' hfound => .ok ⟨?_, hfound, ?_⟩
  · exact ⟨hfound.neutral, hs.neutral.pending, hs.neutral.positionalOnly_eq⟩
  · rw [hs.eq]

theorem Reading.Adds.await (h : r.Adds mode p r') (harg : arg.isNeutral = true) :
    Mirrors (Reading.Adds mode p) (r.await arg) (r'.await arg) := by
  refine h.settle.bind fun s s' hs => .ok ⟨⟨hs.neutral.found, ?_, ?_⟩, hs.found, ?_⟩
  · rintro _ _ ⟨⟩
    exact harg
  · exact hs.neutral.positionalOnly_eq
  · rw [hs.eq]

theorem Reading.Adds.positional (h : r.Adds mode p r') (text : String) :
    Mirrors (Reading.Adds mode p) (r.positional text) (r'.positional text) := by
  have hinput : r'.hasInput = r.hasInput := by rw [h.eq]
  rw [Reading.positional, Reading.positional, hinput]
  split
  · exact .error _
  · refine h.settle.bind fun s s' hs => .ok ⟨⟨hs.neutral.found, ?_, ?_⟩, hs.found, ?_⟩
    · rintro _ _ ⟨⟩
      rfl
    · exact hs.neutral.positionalOnly_eq
    · rw [hs.eq]

theorem Reading.Adds.plain (h : r.Adds mode p r') (text : String) :
    Mirrors (Reading.Adds mode p) (r.plain text) (r'.plain text) := by
  have hpending : r'.pending = r.pending := by rw [h.eq]
  rw [Reading.plain, Reading.plain, hpending]
  split
  · rename_i arg harg
    refine .ok ⟨⟨h.neutral.found, ?_, h.neutral.positionalOnly_eq⟩, h.found, ?_⟩
    · rintro _ _ ⟨⟩
      exact h.neutral.pending _ _ harg
    · rw [h.eq]
  · exact h.positional text

theorem Reading.Adds.take (h : r.Adds mode p r') {word : String}
    (hword : p = true ∨ word = "--" ∨ isNeutralWord word = true) :
    Mirrors (Reading.Adds mode (p || word == "--")) (r.take word) (r'.take word) := by
  have hp : r.positionalOnly = p := h.neutral.positionalOnly_eq
  have hp' : r'.positionalOnly = p := by rw [h.eq, ← hp]
  cases p with
  | true =>
      rw [Reading.take, Reading.take, hp, hp', if_pos rfl, if_pos rfl]
      exact h.positional word
  | false =>
      by_cases hdashes : word = "--"
      · subst hdashes
        rw [Reading.take, Reading.take, hp, hp']
        exact .ok ⟨⟨h.neutral.found, h.neutral.pending, rfl⟩, h.found, by rw [h.eq]⟩
      · have hneutral : isNeutralWord word = true := by simpa [hdashes] using hword
        rw [Bool.false_or, beq_eq_false_iff_ne.2 hdashes]
        rcases isNeutralWord_cases hneutral with
          ⟨arg, value, harg, htake⟩ | ⟨_, arg, harg, htake⟩ | ⟨_, htake⟩
        · rw [htake r hp, htake r' hp']
          exact h.attached harg value
        · rw [htake r hp, htake r' hp']
          exact h.await harg
        · rw [htake r hp, htake r' hp']
          exact h.plain word

end Steps

/-! ## Whole command lines -/

theorem isNeutral_start : Reading.IsNeutral false {} where
  found := ⟨⟨rfl, rfl, rfl, rfl⟩, by simp⟩
  pending := by simp
  positionalOnly_eq := rfl

/-- Reads the rest of a command line. -/
def Reading.finish (r : Reading) (words : List String) : Except Stop Arguments := do
  let r ← words.foldlM Reading.take r
  let r ← r.settle
  r.found.checked

section Lines

variable {mode : Mode} {r r' : Reading} {p : Bool} {front words : List String}

theorem Reading.finish_cons (r : Reading) (word : String) (words : List String) :
    r.finish (word :: words) = r.take word >>= fun s => s.finish words := by
  rw [finish, List.foldlM_cons, bind_assoc]
  rfl

theorem Reading.finish_append (r : Reading) (front words : List String) :
    r.finish (front ++ words) = front.foldlM Reading.take r >>= fun s => s.finish words := by
  rw [finish, List.foldlM_append, bind_assoc]
  rfl

theorem conflicts_eq_false (mode : Mode) {a b : Arg} (ha : a = mode.arg ∨ a.isNeutral = true)
    (hb : b = mode.arg ∨ b.isNeutral = true) : a.conflicts b = false := by
  have hnone : ∀ {c : Arg}, c.isNeutral = true → c.excludes = [] := by
    intro c hc
    cases c <;> first | rfl | cases hc
  have hexcludes : ∀ {c : Arg}, c.isNeutral = true → mode.arg.excludes.contains c = false := by
    intro c hc
    cases mode <;> cases c <;> first | rfl | cases hc
  have hself : mode.arg.excludes.contains mode.arg = false := by
    cases mode <;> rfl
  rw [Arg.conflicts]
  rcases ha with rfl | ha <;> rcases hb with rfl | hb
  · rw [hself, Bool.or_self]
  · rw [hexcludes hb, hnone hb, List.contains_nil, Bool.or_self]
  · rw [hexcludes ha, hnone ha, List.contains_nil, Bool.or_self]
  · rw [hnone ha, hnone hb, List.contains_nil, List.contains_nil, Bool.or_self]

theorem conflict?_eq_none {m : Matches}
    (h : ∀ a ∈ m.present, ∀ b ∈ m.present, a.conflicts b = false) : m.conflict? = none := by
  rw [Matches.conflict?, List.findSome?_eq_none_iff]
  intro a ha
  have hnone : (m.present.filter fun b => a.conflicts b) = [] := by
    rw [List.filter_eq_nil_iff]
    intro b hb
    rw [h a ha b hb]
    exact Bool.false_ne_true
  rw [hnone]

theorem Matches.IsNeutral.checked_eq {m : Matches} (hm : m.IsNeutral) :
    m.checked = .ok m.arguments := by
  have hconflict : m.conflict? = none := conflict?_eq_none fun a ha b hb =>
    conflicts_eq_false .check (.inr (hm.present a ha)) (.inr (hm.present b hb))
  rw [checked, hconflict, hm.arguments.inPlace_eq]
  rfl

theorem Matches.Adds.checked_eq {m m' : Matches} (h : m.Adds mode m') :
    m'.checked = mode.accept m.arguments := by
  have hpresent : ∀ a ∈ m'.present, a = mode.arg ∨ a.isNeutral = true := by
    intro a ha
    exact ((h.mem_present_iff a).1 ha).imp_right (h.neutral.present a)
  have hconflict : m'.conflict? = none := conflict?_eq_none fun a ha b hb =>
    conflicts_eq_false mode (hpresent a ha) (hpresent b hb)
  have hinput : (m.arguments.asked mode).input = m.arguments.input := by
    cases mode <;> rfl
  rw [checked, hconflict, h.arguments_eq, hinput]
  rfl

theorem Reading.Adds.foldlM (h : r.Adds mode p r') (hwords : p = true ∨ IsPlainLine words) :
    Mirrors (Reading.Adds mode (p || words.contains "--"))
      (words.foldlM Reading.take r) (words.foldlM Reading.take r') := by
  induction words generalizing r r' p with
  | nil => exact .ok (by simpa using h)
  | cons word words ih =>
      rw [isPlainLine_cons_iff] at hwords
      have hword : p = true ∨ word = "--" ∨ isNeutralWord word = true :=
        hwords.imp_right (Or.imp_right And.left)
      have hrest : (p || word == "--") = true ∨ IsPlainLine words := by
        rw [Bool.or_eq_true, beq_iff_eq, or_assoc]
        exact hwords.imp_right (Or.imp_right And.right)
      rw [List.foldlM_cons, List.foldlM_cons, List.contains_cons, ← Bool.or_assoc, BEq.comm]
      exact (h.take hword).bind fun s s' hs => ih hs hrest

/-- A reading ends as it would have without the mode, but for the mode. -/
theorem Reading.Adds.finish_eq (h : r.Adds mode p r') (hwords : p = true ∨ IsPlainLine words) :
    r'.finish words = r.finish words >>= mode.accept ∧
      ((∃ e, r.finish words = .error (.usage e)) ∨ ∃ a, r.finish words = .ok a ∧ a.IsPlain) := by
  have hread : Mirrors (Reading.Adds mode (p || words.contains "--"))
      (words.foldlM Reading.take r >>= Reading.settle)
      (words.foldlM Reading.take r' >>= Reading.settle) :=
    (h.foldlM hwords).bind fun s s' hs => hs.settle
  have hfinish : ∀ s : Reading, s.finish words =
      (words.foldlM Reading.take s >>= Reading.settle) >>= fun s => s.found.checked := by
    intro s
    rw [Reading.finish, bind_assoc]
  rw [hfinish, hfinish]
  generalize (words.foldlM Reading.take r >>= Reading.settle) = x at hread ⊢
  generalize (words.foldlM Reading.take r' >>= Reading.settle) = y at hread ⊢
  cases hread with
  | error e => exact ⟨rfl, .inl ⟨e, rfl⟩⟩
  | @ok s s' hs =>
      have hchecked := hs.neutral.found.checked_eq
      change s'.found.checked = s.found.checked >>= _ ∧
        ((∃ e, s.found.checked = .error (.usage e)) ∨ ∃ a, s.found.checked = .ok a ∧ a.IsPlain)
      rw [hchecked]
      exact ⟨hs.found.checked_eq, .inr ⟨_, rfl, hs.neutral.found.arguments⟩⟩

/-- Neutral words in front are read, or one of them is wrong. -/
theorem Reading.IsNeutral.foldlM_cases (hr : r.IsNeutral false)
    (h : ∀ word ∈ front, isNeutralWord word = true) :
    (∃ e, front.foldlM Reading.take r = .error (.usage e)) ∨
      ∃ s, front.foldlM Reading.take r = .ok s ∧ s.IsNeutral false := by
  have hdashes : front.contains "--" = false := by
    rw [← Bool.not_eq_true, List.contains_iff_mem]
    exact fun hmem => absurd (h _ hmem) (by decide)
  have hplain : IsPlainLine front := fun word hword => h word (List.takeWhile_subset _ hword)
  have hread := (hr.adds_asked .check).foldlM (.inr hplain)
  rw [Bool.false_or, hdashes] at hread
  exact hread.left_cases.imp_right fun ⟨s, _, hs, hadds⟩ => ⟨s, hs, hadds.neutral⟩

theorem Reading.IsNeutral.settle_cases (hr : r.IsNeutral p) :
    (∃ e, r.settle = .error (.usage e)) ∨ ∃ s, r.settle = .ok s ∧ s.IsNeutral p :=
  (hr.adds_asked .check).settle.left_cases.imp_right fun ⟨s, _, hs, hadds⟩ =>
    ⟨s, hs, hadds.neutral⟩

end Lines

/-! ## Values that are read early -/

/-- Unless an option awaits its value, a word that is no flag is a document. -/
theorem plain_eq_positional {r s : Reading} (h : r.settle = .ok s) (text : String) :
    r.plain text = r.positional text := by
  rw [Reading.plain]
  split
  · rename_i arg hpending
    rw [Reading.settle, hpending] at h
    cases h
  · rfl

section Settle

variable {r s : Reading} (h : r.settle = .ok s) (hs : s.settle = .ok s)
include h hs

theorem flag_of_settle (arg : Arg) : r.flag arg = s.flag arg := by
  rw [Reading.flag, Reading.flag, h, hs]

theorem attached_of_settle (arg : Arg) (value : String) :
    r.attached arg value = s.attached arg value := by
  rw [Reading.attached, Reading.attached, h, hs]

theorem await_of_settle (arg : Arg) : r.await arg = s.await arg := by
  rw [Reading.await, Reading.await, h, hs]

theorem positional_of_settle (hinput : s.hasInput = r.hasInput) (text : String) :
    r.positional text = s.positional text := by
  rw [Reading.positional, Reading.positional, hinput, h, hs]

theorem long_of_settle (text : List Char) : r.long text = s.long text := by
  simp only [Reading.long, attached_of_settle h hs, await_of_settle h hs, flag_of_settle h hs]

theorem short_of_settle (c : Char) (text : List Char) :
    r.short (c :: text) = s.short (c :: text) := by
  simp only [Reading.short, attached_of_settle h hs, await_of_settle h hs, flag_of_settle h hs]

theorem plain_of_settle (hinput : s.hasInput = r.hasInput) (text : String) :
    r.plain text = s.plain text := by
  rw [plain_eq_positional h, plain_eq_positional hs, positional_of_settle h hs hinput]

theorem take_of_settle (hinput : s.hasInput = r.hasInput)
    (honly : s.positionalOnly = r.positionalOnly) {word : String}
    (hword : r.positionalOnly = true ∨ word ≠ "--") : r.take word = s.take word := by
  cases hr : r.positionalOnly with
  | true =>
      rw [Reading.take, Reading.take, honly, hr, if_pos rfl, if_pos rfl]
      exact positional_of_settle h hs hinput word
  | false =>
      have hs' := honly.trans hr
      rcases take_cases word with
        rfl | ⟨text, _, htake⟩ | ⟨c, text, _, _, htake⟩ | ⟨_, htake⟩
      · exact absurd rfl (hword.resolve_left (by simp [hr]))
      · rw [htake r hr, htake s hs', long_of_settle h hs]
      · rw [htake r hr, htake s hs', short_of_settle h hs]
      · rw [htake r hr, htake s hs', plain_of_settle h hs hinput]

end Settle

theorem settle_eq_ok_cases {r s : Reading} (h : r.settle = .ok s) :
    s.pending = none ∧ (s = r ∨ ∃ arg value found, r.pending = some (arg, some value) ∧
      r.found.set arg value = .ok found ∧ s = { r with found, pending := none }) := by
  rw [Reading.settle] at h
  split at h
  · rename_i hpending
    rw [← Except.ok.inj h]
    exact ⟨hpending, .inl rfl⟩
  · cases h
  · rename_i arg value hpending
    cases hset : r.found.set arg value with
    | error e => rw [hset] at h; cases h
    | ok found =>
        rw [hset] at h
        rw [← Except.ok.inj h]
        exact ⟨rfl, .inr ⟨arg, value, found, hpending, hset, rfl⟩⟩

/-- A value that can be read may be read at once. -/
theorem finish_of_settle {r s : Reading} (h : r.settle = .ok s) (words : List String) :
    r.finish words = s.finish words := by
  induction words generalizing r s with
  | nil =>
      rcases (settle_eq_ok_cases h).2 with rfl | ⟨arg, value, found, hpending, hset, rfl⟩
      · rfl
      · change (r.settle >>= fun r => r.found.checked) = _
        rw [h]
        rfl
  | cons word words ih =>
      rcases (settle_eq_ok_cases h).2 with rfl | ⟨arg, value, found, hpending, hset, rfl⟩
      · rfl
      · by_cases hword : r.positionalOnly = true ∨ word ≠ "--"
        · rw [Reading.finish_cons, take_of_settle h rfl rfl rfl hword, ← Reading.finish_cons]
        · -- what comes behind two dashes is read in the same way
          rw [not_or, Decidable.not_not] at hword
          obtain ⟨hr, rfl⟩ := hword
          rw [Reading.finish_cons, Reading.finish_cons, Reading.take, Reading.take, if_neg hr,
            if_neg hr]
          refine ih ?_
          rw [Reading.settle, hpending]
          dsimp only
          rw [hset]
          rfl

theorem exists_pending_of_plain {r s : Reading} {text : String} (h : r.plain text = .ok s) :
    ∃ arg, s.pending = some (arg, some text) := by
  rw [Reading.plain] at h
  split at h
  · rename_i arg _
    rw [← Except.ok.inj h]
    exact ⟨arg, rfl⟩
  · rw [Reading.positional] at h
    split at h
    · cases h
    · obtain ⟨t, _, h⟩ := bind_eq_ok_iff.1 h
      rw [← Except.ok.inj h]
      exact ⟨.input, rfl⟩

/-- Where an option awaits its value, it is the last word in front. -/
theorem exists_bareOption_of_awaiting {front : List String} {r : Reading} {arg : Arg}
    (h : ∀ word ∈ front, isNeutralWord word = true)
    (hread : front.foldlM Reading.take {} = .ok r) (hpending : r.pending = some (arg, none)) :
    ∃ option ∈ front.getLast?, option ∈ bareOptions := by
  rcases List.eq_nil_or_concat front with rfl | ⟨init, word, rfl⟩
  · rw [← Except.ok.inj hread] at hpending
    cases hpending
  · rw [List.concat_eq_append] at h hread ⊢
    rw [List.forall_mem_append, List.forall_mem_singleton] at h
    rw [List.foldlM_append, bind_eq_ok_iff] at hread
    obtain ⟨s, hinit, hread⟩ := hread
    have hs : s.positionalOnly = false := by
      rcases isNeutral_start.foldlM_cases h.1 with ⟨e, he⟩ | ⟨t, ht, hneutral⟩
      · cases hinit.symm.trans he
      · rw [Except.ok.inj (hinit.symm.trans ht)]
        exact hneutral.positionalOnly_eq
    rw [List.foldlM_cons, bind_eq_ok_iff] at hread
    obtain ⟨t, htake, hread⟩ := hread
    obtain rfl := Except.ok.inj hread
    rcases isNeutralWord_cases h.2 with ⟨_, value, _, heq⟩ | ⟨hbare, _⟩ | ⟨_, heq⟩
    · rw [heq s hs, Reading.attached, bind_eq_ok_iff] at htake
      obtain ⟨u, hsettle, hset⟩ := htake
      obtain ⟨found, _, hset⟩ := bind_eq_ok_iff.1 hset
      rw [← Except.ok.inj hset] at hpending
      cases (settle_eq_ok_cases hsettle).1.symm.trans hpending
    · exact ⟨word, by simp, hbare⟩
    · rw [heq s hs] at htake
      obtain ⟨other, hother⟩ := exists_pending_of_plain htake
      cases hother.symm.trans hpending

/-! ## The words for a mode -/

section Spelling

variable {mode : Mode} {r : Reading} {ws : List String}

theorem Reading.IsNeutral.settle_bind_congr {p : Bool} (hr : r.IsNeutral p) {α : Type}
    {f g : Reading → Except Stop α}
    (h : ∀ s : Reading, s.IsNeutral p → s.pending = none → f s = g s) :
    r.settle >>= f = r.settle >>= g := by
  rcases hr.settle_cases with ⟨e, he⟩ | ⟨s, hs, hneutral⟩
  · rw [he]
    rfl
  · rw [hs]
    exact h s hneutral (settle_eq_ok_cases hs).1

theorem Matches.IsNeutral.contains_eq_false {m : Matches} (hm : m.IsNeutral) (mode : Mode) :
    m.present.contains mode.arg = false := by
  rw [← Bool.not_eq_true, List.contains_iff_mem]
  exact fun hmem => mode.arg_ne_of_isNeutral (hm.present _ hmem) rfl

theorem flag_inPlace {p : Bool} (hr : r.IsNeutral p) :
    r.flag .inPlace = r.settle >>= fun s => pure (s.asked .inPlace) := by
  refine hr.settle_bind_congr fun s hs _ => ?_
  have hcontains : s.found.present.contains .inPlace = false := hs.found.contains_eq_false .inPlace
  rw [Matches.setFlag, hcontains]
  rfl

theorem flag_check {p : Bool} (hr : r.IsNeutral p) :
    r.flag .check = r.settle >>= fun s => pure (s.asked .check) := by
  refine hr.settle_bind_congr fun s hs _ => ?_
  have hcontains : s.found.present.contains .check = false := hs.found.contains_eq_false .check
  rw [Matches.setFlag, hcontains]
  rfl

theorem set_output {m : Matches} (hm : m.IsNeutral) {path : String} (hpath : path ≠ "") :
    m.set .output path = .ok (m.asked (.output path)) := by
  have hcontains : m.present.contains .output = false := hm.contains_eq_false (.output path)
  have hempty : path.isEmpty = false := by simpa using hpath
  rw [Matches.set, Matches.path, hcontains, hempty]
  rfl

theorem attached_output {p : Bool} (hr : r.IsNeutral p) {path : String} (hpath : path ≠ "") :
    r.attached .output path = r.settle >>= fun s => pure (s.asked (.output path)) := by
  refine hr.settle_bind_congr fun s hs _ => ?_
  rw [set_output hs.found hpath]
  rfl

/-- Words that ask for a mode have a pending value read, and then they are read as the mode,
whatever comes behind them. -/
theorem finish_spelling (hr : r.IsNeutral false) (h : mode.Spelling ws) (words : List String) :
    r.finish (ws ++ words) = r.settle >>= fun s => (s.asked mode).finish words := by
  have hfirst : ∀ word, r.take word = r.settle >>= (fun s => pure (s.asked mode)) →
      r.finish ([word] ++ words) = r.settle >>= fun s => (s.asked mode).finish words := by
    intro word htake
    rw [List.singleton_append, Reading.finish_cons, htake, bind_assoc]
    rfl
  have hp := hr.positionalOnly_eq
  cases h with
  | inPlace hword => exact hfirst _ ((take_inPlace hp hword).trans (flag_inPlace hr))
  | check => exact hfirst _ ((take_check hp).trans (flag_check hr))
  | attached hoption hpath =>
      exact hfirst _ ((take_attached hp hoption).trans (attached_output hr hpath))
  | joined hpath hequals =>
      exact hfirst _ ((take_joined hp hpath hequals).trans (attached_output hr hpath))
  | @output word path hword hpath hvalue =>
      rw [List.cons_append, List.singleton_append, Reading.finish_cons, take_output hp hword,
        Reading.await, bind_assoc]
      refine hr.settle_bind_congr fun s hs hpending => ?_
      have htake := take_of_isValueWord hvalue (r := { s with pending := some (.output, none) })
        hs.positionalOnly_eq
      change Reading.finish _ (path :: words) = _
      rw [Reading.finish_cons, htake]
      refine finish_of_settle ?_ words
      rw [Reading.settle]
      dsimp only
      rw [set_output hs.found hpath, Reading.asked, ← hpending]
      rfl

end Spelling

/-! ## Values that are wrong -/

theorem settle_positionalOnly (r : Reading) :
    Reading.settle { r with positionalOnly := true } =
      r.settle.map fun s => { s with positionalOnly := true } := by
  obtain ⟨found, pending, positionalOnly, hasInput⟩ := r
  rcases pending with _ | ⟨arg, _ | value⟩
  · rfl
  · rfl
  · change (found.set arg value).map _ = ((found.set arg value).map _).map _
    cases found.set arg value <;> rfl

section Wrong

variable {r : Reading} {e : Stop} (h : r.settle = .error e)
include h

theorem positional_of_settle_error (text : String) :
    r.positional text = .error e ∨
      r.positional text = .error (.usage (.unexpectedArgument text)) := by
  rw [Reading.positional]
  split
  · exact .inr rfl
  · rw [h]
    exact .inl rfl

theorem finish_nil_of_settle_error : r.finish [] = .error e := by
  change (r.settle >>= _) = _
  rw [h]
  rfl

theorem finish_of_take_positional {word : String} (htake : r.take word = r.positional word)
    (words : List String) : r.finish (word :: words) = .error e ∨
      ∃ text, r.finish (word :: words) = .error (.usage (.unexpectedArgument text)) := by
  rw [Reading.finish_cons, htake]
  rcases positional_of_settle_error h word with herror | herror
  · rw [herror]
    exact .inl rfl
  · rw [herror]
    exact .inr ⟨word, rfl⟩

theorem finish_of_positionalOnly (hr : r.positionalOnly = true) (words : List String) :
    r.finish words = .error e ∨
      ∃ text, r.finish words = .error (.usage (.unexpectedArgument text)) := by
  cases words with
  | nil => exact .inl (finish_nil_of_settle_error h)
  | cons word words => exact finish_of_take_positional h (by rw [Reading.take, if_pos hr]) words

/-- A pending value that is wrong, or missing, is told of at the end, unless a second document
is met before. -/
theorem finish_of_settle_error (hr : r.positionalOnly = false) {words : List String}
    (hwords : IsPlainLine words)
    (hvalue : ∀ arg, r.pending = some (arg, none) → ∀ word ∈ words.head?,
      isValueWord word = false) :
    r.finish words = .error e ∨
      ∃ text, r.finish words = .error (.usage (.unexpectedArgument text)) := by
  cases words with
  | nil => exact .inl (finish_nil_of_settle_error h)
  | cons word words =>
      rcases isPlainLine_cons_iff.1 hwords with rfl | ⟨hword, _⟩
      · have htake : r.take "--" = .ok { r with positionalOnly := true } := by
          rw [Reading.take, hr]
          rfl
        have hsettle : Reading.settle { r with positionalOnly := true } = .error e := by
          rw [settle_positionalOnly, h]
          rfl
        rw [Reading.finish_cons, htake]
        exact finish_of_positionalOnly hsettle rfl words
      · rcases isNeutralWord_cases hword with
          ⟨arg, value, _, htake⟩ | ⟨_, arg, _, htake⟩ | ⟨hword, htake⟩
        · rw [Reading.finish_cons, htake r hr, Reading.attached, h]
          exact .inl rfl
        · rw [Reading.finish_cons, htake r hr, Reading.await, h]
          exact .inl rfl
        · refine finish_of_take_positional h ?_ words
          rw [htake r hr, Reading.plain]
          split
          · rename_i arg hpending
            rw [hvalue arg hpending word rfl] at hword
            cases hword
          · rfl

end Wrong

/-! ## The arguments of a command line -/

/-- What a command line asks for with a mode is what it asks for without, with the mode
besides. If it is wrong, so it is with the mode, and in the same way, unless what is wrong is
that it has a second document. -/
theorem read_of_asks {mode : Mode} {words args : List String} (h : mode.Asks words args)
    (hplain : IsPlainLine words) :
    Arguments.read args = Arguments.read words >>= mode.accept ∨
      (∃ text, Arguments.read words = .error (.usage (.unexpectedArgument text))) ∧
        ∃ e, Arguments.read args = .error (.usage e) := by
  obtain ⟨front, back, hgap, hspelling⟩ := h
  obtain ⟨hfront, hback⟩ := (isPlainLine_append_iff hgap.not_mem).1 hplain
  have hread : ∀ words, Arguments.read (front ++ words) =
      front.foldlM Reading.take {} >>= fun r => r.finish words :=
    Reading.finish_append {} front
  rw [hread, hread]
  rcases isNeutral_start.foldlM_cases hfront with ⟨e, he⟩ | ⟨r, hr, hneutral⟩
  · rw [he]
    exact .inl rfl
  · rw [hr]
    change r.finish _ = r.finish _ >>= _ ∨ (∃ text, r.finish _ = _) ∧ ∃ e, r.finish _ = _
    rw [finish_spelling hneutral hspelling]
    rcases hneutral.settle_cases with ⟨e, he⟩ | ⟨s, hs, hsneutral⟩
    · have hvalue : ∀ arg, r.pending = some (arg, none) → ∀ word ∈ back.head?,
          isValueWord word = false := by
        intro arg hpending
        obtain ⟨option, hoption, hbare⟩ := exists_bareOption_of_awaiting hfront hr hpending
        exact hgap.isValueWord_eq option hoption hbare
      rw [he]
      rcases finish_of_settle_error he hneutral.positionalOnly_eq hback hvalue with
        hfinish | hsecond
      · rw [hfinish]
        exact .inl rfl
      · exact .inr ⟨hsecond, e, rfl⟩
    · rw [hs, finish_of_settle hs]
      exact .inl ((hsneutral.adds_asked mode).finish_eq (.inr hback)).1

theorem read_of_asks_of_ok {mode : Mode} {words args : List String} (h : mode.Asks words args)
    (hplain : IsPlainLine words) {a : Arguments} (hread : Arguments.read words = .ok a) :
    Arguments.read args = mode.accept a := by
  rcases read_of_asks h hplain with hsame | ⟨⟨text, hsecond⟩, _⟩
  · rw [hsame, hread]
    rfl
  · cases hread.symm.trans hsecond

/-- A plain command line is wrong or asks for a pass without a mode, and never for help. -/
theorem read_cases {words : List String} (hplain : IsPlainLine words) :
    (∃ e, Arguments.read words = .error (.usage e)) ∨
      ∃ a, Arguments.read words = .ok a ∧ a.IsPlain :=
  ((isNeutral_start.adds_asked .check).finish_eq (.inr hplain)).2

theorem isPlain_of_read {words : List String} (hplain : IsPlainLine words) {a : Arguments}
    (h : Arguments.read words = .ok a) : a.IsPlain := by
  rcases read_cases hplain with ⟨e, herror⟩ | ⟨b, hb, hneutral⟩
  · cases h.symm.trans herror
  · cases h.symm.trans hb
    exact hneutral

end FencedDiff.Command
