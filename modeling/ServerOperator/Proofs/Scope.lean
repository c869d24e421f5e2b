import ServerOperator.Invocation
import ServerOperator.Proofs.Trimming

/-!
# The namespace that is watched

A namespace can be given by an argument or by a variable, and the argument wins. Neither way takes the white space away
from it, and an argument may be empty where a blank variable counts as none; so it is usable only if it was given so.

For this the arguments are read twice: by the program, which looks at a value once the next option begins, and by a
grammar, in which an option and its value are one (`Reads`).
-/

namespace ServerOperator

open Text (isBlank trim)

namespace CommandLine

/-! ## Arguments and their forms -/

namespace Setting

theorem equals_not_mem_name (s : Setting) : '=' ∉ s.name.toList := by
  cases s <;> decide

theorem name_of_ofName? {s : Setting} {name : String} (h : ofName? name = some s) : s.name = name := by
  simpa using List.find?_some h

theorem name_injective {s s' : Setting} (h : s.name = s'.name) : s = s' := by
  revert h
  cases s <;> cases s' <;> decide

end Setting

namespace Argument

theorem takeWhile_of_not_mem {cs : List Char} (h : '=' ∉ cs) (rest : List Char) :
    (cs ++ '=' :: rest).takeWhile (· ≠ '=') = cs ∧ (cs ++ '=' :: rest).dropWhile (· ≠ '=') = '=' :: rest := by
  have hne : ∀ c ∈ cs, decide (c ≠ '=') = true := by
    intro c hc
    exact decide_eq_true fun e => h (e ▸ hc)
  rw [List.takeWhile_append_of_pos hne, List.dropWhile_append_of_pos hne]
  simp

theorem dropWhile_eq_nil {cs : List Char} (h : ∀ rest, cs.dropWhile (· ≠ '=') ≠ '=' :: rest) :
    cs.dropWhile (· ≠ '=') = [] := by
  have hhead := List.head?_dropWhile_not (fun c => decide (c ≠ '=')) cs
  cases hcs : cs.dropWhile (· ≠ '=') with
  | nil => rfl
  | cons c rest =>
    rw [hcs] at hhead
    have : c = '=' := by simpa using hhead
    exact absurd (this ▸ hcs) (h rest)

theorem ofString_joined (s : Setting) (v : String) : ofString ("--" ++ s.name ++ "=" ++ v) = long s.name (some v) := by
  have hlist : ("--" ++ s.name ++ "=" ++ v).toList = '-' :: '-' :: (s.name.toList ++ '=' :: v.toList) := by
    simp
  obtain ⟨hname, hvalue⟩ := takeWhile_of_not_mem s.equals_not_mem_name v.toList
  unfold ofString
  rw [hlist]
  split
  · next h => simp at h
  · next cs _ h =>
    simp only [List.cons.injEq, true_and] at h
    rw [← h, hname, hvalue]
    simp
  · next hdash h => exact absurd (List.cons.inj (List.cons.inj h).2).1.symm hdash
  · next h => simp at h

theorem ofString_name (s : Setting) : ofString ("--" ++ s.name) = long s.name none := by
  cases s <;> decide

theorem eq_of_plain {a text : String} (h : ofString a = plain text) : text = a := by
  unfold ofString at h
  split at h
  · cases h
  · cases h
  · cases h
  · cases h
    rfl

theorem eq_of_separator {a : String} (h : ofString a = separator) : a = "--" := by
  unfold ofString at h
  split at h
  · next hs => exact String.toList_inj.mp hs
  all_goals cases h

theorem eq_of_long {a name : String} {value : Option String} (h : ofString a = long name value) :
    a = "--" ++ name ++ value.elim "" ("=" ++ ·) := by
  unfold ofString at h
  split at h
  · cases h
  · next cs _ hs =>
    cases h
    have hsplit : cs.takeWhile (· ≠ '=') ++ cs.dropWhile (· ≠ '=') = cs := List.takeWhile_append_dropWhile
    refine String.toList_inj.mp ?_
    rw [hs]
    split
    · next rest hrest =>
      rw [hrest] at hsplit
      simp only [Option.elim, String.toList_append, String.toList_ofList, List.append_assoc]
      exact congrArg ('-' :: '-' :: ·) hsplit.symm
    · next hrest =>
      rw [dropWhile_eq_nil hrest, List.append_nil] at hsplit
      simp only [Option.elim, String.toList_append, String.toList_ofList, hsplit]
      simp
  · cases h
  · cases h

end Argument

/-! ## Arguments by a grammar -/

inductive Reads : Settings → List String → Settings → Prop
  | done (g : Settings) : Reads g [] g
  | separator (g : Settings) : Reads g ["--"] g
  | joined {g g' last : Settings} (s : Setting) (v : String) {rest : List String} :
    g.assign s v = .ok g' → Reads g' rest last → Reads g (("--" ++ s.name ++ "=" ++ v) :: rest) last
  | apart {g g' last : Settings} (s : Setting) (v : String) {rest : List String} :
    Argument.ofString v = .plain v → g.assign s v = .ok g' → Reads g' rest last →
      Reads g (("--" ++ s.name) :: v :: rest) last

namespace State

def unread (st : State) : List String :=
  match st.pending with
  | none => []
  | some (s, none) => ["--" ++ s.name]
  | some (s, some v) => ["--" ++ s.name, v]

def ValueIsPlain (st : State) : Prop :=
  ∀ s v, st.pending = some (s, some v) → Argument.ofString v = .plain v

inductive Takes (st : State) : Argument → State → Prop
  | separator : Takes st .separator st
  | option (s : Setting) {g : Settings} : st.settle = .ok g →
    Takes st (.long s.name none) { settings := g, pending := some (s, none) }
  | joined (s : Setting) (v : String) {g g' : Settings} : st.settle = .ok g → g.assign s v = .ok g' →
    Takes st (.long s.name (some v)) { settings := g' }
  | value (s : Setting) (v : String) : st.pending = some (s, none) →
    Takes st (.plain v) { st with pending := some (s, some v) }

theorem flag_ne_ok (st st' : State) (name : String) (value : Option String) (stop : Stop) :
    st.flag name value stop ≠ .ok st' := by
  intro h
  unfold flag at h
  cases value with
  | some v => cases h
  | none => cases hs : st.settle <;> rw [hs] at h <;> cases h

theorem takes_of_take {st st' : State} {a : Argument} (h : st.take a = .ok st') : Takes st a st' := by
  unfold take at h
  split at h
  · cases h
    exact .separator
  · exact (flag_ne_ok _ _ _ _ _ h).elim
  · exact (flag_ne_ok _ _ _ _ _ h).elim
  · next name value _ _ =>
    split at h
    · cases h
    · next s hs =>
      obtain rfl := Setting.name_of_ofName? hs
      cases hg : st.settle with
      | error e => rw [hg] at h; cases h
      | ok g =>
        rw [hg] at h
        cases value with
        | none =>
          cases h
          exact .option s hg
        | some v =>
          cases hg' : g.assign s v with
          | error e => simp only [bind, Except.bind, hg'] at h; cases h
          | ok g' =>
            simp only [bind, Except.bind, hg'] at h
            cases h
            exact .joined s v hg hg'
  · exact (flag_ne_ok _ _ _ _ _ h).elim
  · exact (flag_ne_ok _ _ _ _ _ h).elim
  · cases h
  · next v =>
    split at h
    · next s hs =>
      cases h
      exact .value s v hs
    · cases h

theorem reads_of_settle {st : State} {g last : Settings} {rest : List String} (h : st.settle = .ok g)
    (hv : st.ValueIsPlain) (hrest : Reads g rest last) : Reads st.settings (st.unread ++ rest) last := by
  obtain ⟨settings, pending⟩ := st
  unfold settle at h
  match pending with
  | none =>
    cases h
    exact hrest
  | some (s, none) => cases h
  | some (s, some v) => exact .apart s v (hv s v rfl) h hrest

end State

theorem take_of_parseFrom {st : State} {a : String} {rest : List String} {last : Settings}
    (h : parseFrom st (a :: rest) = .ok last) :
    (Argument.ofString a = .separator → rest = []) ∧
      ∃ st', st.take (Argument.ofString a) = .ok st' ∧ parseFrom st' rest = .ok last := by
  unfold parseFrom at h
  split at h
  · cases h
  · next rest _ _ hmore =>
    constructor
    · intro ha
      cases rest with
      | nil => rfl
      | cons b rest => exact (hmore b rest ha rfl).elim
    · cases ht : st.take (Argument.ofString a) with
      | error e => rw [ht] at h; cases h
      | ok st' =>
        rw [ht] at h
        exact ⟨st', rfl, h⟩

/-- What the program reads is read by the grammar: the induction is on the arguments to come, and the ones not looked at
yet stand before them. -/
theorem reads_of_parseFrom {arguments : List String} {st : State} {last : Settings} (hv : st.ValueIsPlain)
    (h : parseFrom st arguments = .ok last) : Reads st.settings (st.unread ++ arguments) last := by
  induction arguments generalizing st with
  | nil => exact State.reads_of_settle h hv (.done last)
  | cons a rest ih =>
    obtain ⟨hlast, st', ht, hgo⟩ := take_of_parseFrom h
    have htakes := State.takes_of_take ht
    generalize ha : Argument.ofString a = arg at htakes
    cases htakes with
    | separator =>
      obtain rfl := hlast ha
      rw [Argument.eq_of_separator ha]
      exact State.reads_of_settle hgo hv (.separator last)
    | option s hg =>
      have hread := ih (by intro s' v hp; cases hp) hgo
      have hname : a = "--" ++ s.name := by simpa using Argument.eq_of_long ha
      rw [hname]
      exact State.reads_of_settle hg hv hread
    | joined s v hg hg' =>
      have hread := ih (by intro s' v' hp; cases hp) hgo
      have hname : a = "--" ++ s.name ++ "=" ++ v := by
        simpa [String.append_assoc] using Argument.eq_of_long ha
      rw [hname]
      exact State.reads_of_settle hg hv (.joined s v hg' hread)
    | value s v hp =>
      obtain rfl := Argument.eq_of_plain ha
      have hplain : State.ValueIsPlain { st with pending := some (s, some v) } := by
        intro s' v' hp'
        cases hp'
        exact ha
      have hread := ih hplain hgo
      unfold State.unread at hread ⊢
      rw [hp]
      exact hread

theorem reads_of_parse {arguments : List String} {g : Settings} (h : parse arguments = .ok g) :
    Reads {} arguments g :=
  reads_of_parseFrom (by intro s v hp; cases hp) h

/-! ## Settings that were given -/

/-- The arguments hold the setting with this value, in one piece or in two. -/
def Given (arguments : List String) (s : Setting) (v : String) : Prop :=
  ("--" ++ s.name ++ "=" ++ v) ∈ arguments ∨ ["--" ++ s.name, v] <:+: arguments

theorem joined_injective {s t : Setting} {v w : String}
    (h : "--" ++ s.name ++ "=" ++ v = "--" ++ t.name ++ "=" ++ w) : s = t ∧ v = w := by
  have hform := congrArg Argument.ofString h
  rw [Argument.ofString_joined, Argument.ofString_joined] at hform
  injection hform with hname hvalue
  exact ⟨Setting.name_injective hname, Option.some.inj hvalue⟩

theorem joined_ne_option {s t : Setting} {v : String} : "--" ++ s.name ++ "=" ++ v ≠ "--" ++ t.name := by
  intro h
  have hform := congrArg Argument.ofString h
  rw [Argument.ofString_joined, Argument.ofString_name] at hform
  injection hform with _ hvalue
  cases hvalue

theorem option_injective {s t : Setting} (h : "--" ++ s.name = "--" ++ t.name) : s = t := by
  have hform := congrArg Argument.ofString h
  rw [Argument.ofString_name, Argument.ofString_name] at hform
  injection hform with hname _
  exact Setting.name_injective hname

theorem not_given_nil (t : Setting) (w : String) : ¬ Given [] t w := by
  simp [Given]

theorem not_given_separator (t : Setting) (w : String) : ¬ Given ["--"] t w := by
  unfold Given
  rw [List.mem_singleton, List.infix_cons_iff]
  rintro (h | h | h)
  · have hform := congrArg Argument.ofString h
    rw [Argument.ofString_joined] at hform
    cases hform
  · simp at h
  · simp at h

theorem given_joined_iff {s t : Setting} {v w : String} {rest : List String} :
    Given (("--" ++ s.name ++ "=" ++ v) :: rest) t w ↔ s = t ∧ v = w ∨ Given rest t w := by
  unfold Given
  rw [List.mem_cons, List.infix_cons_iff, List.cons_prefix_cons]
  constructor
  · rintro ((h | h) | ⟨h, -⟩ | h)
    · obtain ⟨rfl, rfl⟩ := joined_injective h
      exact .inl ⟨rfl, rfl⟩
    · exact .inr (.inl h)
    · exact absurd h.symm joined_ne_option
    · exact .inr (.inr h)
  · rintro (⟨rfl, rfl⟩ | h | h)
    · exact .inl (.inl rfl)
    · exact .inl (.inr h)
    · exact .inr (.inr h)

theorem given_apart_iff {s t : Setting} {v w : String} {rest : List String} (hv : Argument.ofString v = .plain v) :
    Given (("--" ++ s.name) :: v :: rest) t w ↔ s = t ∧ v = w ∨ Given rest t w := by
  have hjoined : "--" ++ t.name ++ "=" ++ w ≠ v := by
    rintro rfl
    rw [Argument.ofString_joined] at hv
    cases hv
  have hoption : "--" ++ t.name ≠ v := by
    rintro rfl
    rw [Argument.ofString_name] at hv
    cases hv
  unfold Given
  rw [List.mem_cons, List.mem_cons, List.infix_cons_iff, List.infix_cons_iff, List.cons_prefix_cons,
    List.cons_prefix_cons, List.cons_prefix_cons]
  constructor
  · rintro ((h | h | h) | ⟨h, hw, -⟩ | ⟨h, -⟩ | h)
    · exact absurd h joined_ne_option
    · exact absurd h hjoined
    · exact .inr (.inl h)
    · exact .inl ⟨(option_injective h).symm, hw.symm⟩
    · exact absurd h hoption
    · exact .inr (.inr h)
  · rintro (⟨rfl, rfl⟩ | h | h)
    · exact .inr (.inl ⟨rfl, rfl, List.nil_prefix⟩)
    · exact .inl (.inr (.inr h))
    · exact .inr (.inr (.inr h))

theorem Settings.watchNamespace_of_assign {g g' : Settings} {s : Setting} {v : String} (h : g.assign s v = .ok g') :
    s = .watchNamespace ∧ g.watchNamespace = none ∧ g'.watchNamespace = some v ∨
      s ≠ .watchNamespace ∧ g'.watchNamespace = g.watchNamespace := by
  unfold assign at h
  split at h
  · cases h
  · next hhas =>
    split at h
    · next hread =>
      cases h
      cases s with
      | watchNamespace =>
        cases hread
        exact .inl ⟨rfl, by simpa [has] using hhas, rfl⟩
      | logFormat =>
        cases hread
        exact .inr ⟨by decide, rfl⟩
      | metricsPort | maxConcurrentReconciliations | resyncIntervalSecs =>
        simp only [read, Except.map] at hread
        split at hread <;> cases hread
        exact .inr ⟨by decide, rfl⟩
    · cases h

theorem Reads.watchNamespace_iff {g last : Settings} {arguments : List String} (h : Reads g arguments last)
    (ns : String) :
    last.watchNamespace = some ns ↔ g.watchNamespace = some ns ∨ Given arguments .watchNamespace ns := by
  have step : ∀ {g g' last : Settings} {s : Setting} {v : String} {rest : List String}, g.assign s v = .ok g' →
      (last.watchNamespace = some ns ↔ g'.watchNamespace = some ns ∨ Given rest .watchNamespace ns) →
      (last.watchNamespace = some ns ↔
        g.watchNamespace = some ns ∨ s = .watchNamespace ∧ v = ns ∨ Given rest .watchNamespace ns) := by
    intro g g' last s v rest hassign ih
    rw [ih]
    obtain ⟨rfl, hnone, hsome⟩ | ⟨hne, hkept⟩ := Settings.watchNamespace_of_assign hassign
    · simp [hnone, hsome]
    · simp [hne, hkept]
  induction h with
  | done g => simp [not_given_nil]
  | separator g => simp [not_given_separator]
  | joined s v hassign _ ih => rw [given_joined_iff, step hassign ih]
  | apart s v hv hassign _ ih => rw [given_apart_iff hv, step hassign ih]

end CommandLine

/-! ## The namespace of the configuration -/

open CommandLine Invocation

structure Usable (ns : String) : Prop where
  nonempty : ns ≠ ""
  trimmed : trim ns = ns

theorem watchNamespace_eq_some_iff {arguments : List String} {g : Settings} (h : parse arguments = .ok g)
    (env : Environment) (ns : String) :
    (config g env).watchNamespace = some ns ↔
      Given arguments .watchNamespace ns ∨
        (∀ v, ¬ Given arguments .watchNamespace v) ∧ env.get? "WATCH_NAMESPACE" = some ns ∧ isBlank ns = false := by
  have hgiven : ∀ v, g.watchNamespace = some v ↔ Given arguments .watchNamespace v := by
    intro v
    simpa using (reads_of_parse h).watchNamespace_iff v
  have hconfig : (config g env).watchNamespace =
      (g.watchNamespace <|> (env.get? "WATCH_NAMESPACE").filter (!isBlank ·)) := rfl
  simp only [← hgiven]
  rw [hconfig]
  cases g.watchNamespace with
  | some v => simp
  | none => simp [Option.filter_eq_some_iff]

/-- An argument wins whatever it holds, a variable counts unless it is blank, and the namespace is usable if and only if
the text that was taken is. -/
theorem watched_namespace_usable_iff {arguments : List String} {g : Settings} (h : parse arguments = .ok g)
    (env : Environment) :
    (∀ ns, (config g env).watchNamespace = some ns ↔
      Given arguments .watchNamespace ns ∨
        (∀ v, ¬ Given arguments .watchNamespace v) ∧ env.get? "WATCH_NAMESPACE" = some ns ∧ isBlank ns = false) ∧
      ((config g env).watchNamespace = none ↔
        (∀ v, ¬ Given arguments .watchNamespace v) ∧ ∀ v, env.get? "WATCH_NAMESPACE" = some v → isBlank v) ∧
      ((∀ ns, (config g env).watchNamespace = some ns → Usable ns) ↔
        (∀ v, Given arguments .watchNamespace v → Usable v) ∧
          ((∀ v, ¬ Given arguments .watchNamespace v) →
            ∀ v, env.get? "WATCH_NAMESPACE" = some v → isBlank v ∨ Usable v)) := by
  have htaken := watchNamespace_eq_some_iff h env
  refine ⟨htaken, ?_, ?_⟩
  · rw [Option.eq_none_iff_forall_ne_some]
    simp only [ne_eq, htaken, not_or, not_and, Bool.not_eq_false]
    constructor
    · intro hno
      exact ⟨fun v => (hno v).1, fun v hv => (hno v).2 (fun w => (hno w).1) hv⟩
    · rintro ⟨hno, hblank⟩ ns
      exact ⟨hno ns, fun _ => hblank ns⟩
  · constructor
    · intro husable
      refine ⟨fun v hv => husable v ((htaken v).mpr (.inl hv)), fun hno v hv => ?_⟩
      cases hb : isBlank v with
      | true => exact .inl rfl
      | false => exact .inr (husable v ((htaken v).mpr (.inr ⟨hno, hv, hb⟩)))
    · rintro ⟨hargument, hvariable⟩ ns hns
      obtain hgiven | ⟨hno, hv, hb⟩ := (htaken ns).mp hns
      · exact hargument ns hgiven
      · obtain hblank | husable := hvariable hno ns hv
        · rw [hb] at hblank
          cases hblank
        · exact husable

theorem watched_namespace_usable_iff_sample :
    parse ["--log-format", "json", "--watch-namespace", "tools"] =
        .ok { logFormat := some "json", watchNamespace := some "tools" } ∧
      (config { logFormat := some "json", watchNamespace := some "tools" }
        (SortedMap.ofList [("WATCH_NAMESPACE", " ")])).watchNamespace = some "tools" := by
  have h : parse ["--log-format", "json", "--watch-namespace", "tools"] =
      .ok { logFormat := some "json", watchNamespace := some "tools" } := by rfl
  have hgiven : Given ["--log-format", "json", "--watch-namespace", "tools"] .watchNamespace "tools" :=
    .inr ⟨["--log-format", "json"], [], rfl⟩
  exact ⟨h, ((watched_namespace_usable_iff h _).1 "tools").mpr (.inl hgiven)⟩

/-- White space around a namespace stays, and an empty one is taken from an argument only. -/
theorem watched_namespace_as_given :
    (config {} (SortedMap.ofList [("WATCH_NAMESPACE", " tools ")])).watchNamespace = some " tools " ∧
      ¬ Usable " tools " ∧
      parse ["--watch-namespace", ""] = .ok { watchNamespace := some "" } ∧
      (config { watchNamespace := some "" } {}).watchNamespace = some "" ∧ ¬ Usable "" ∧
      (config {} (SortedMap.ofList [("WATCH_NAMESPACE", "")])).watchNamespace = none := by
  refine ⟨by decide, ?_, rfl, by decide, ?_, by decide⟩
  · intro h
    exact absurd h.trimmed (by decide)
  · intro h
    exact h.nonempty rfl

end ServerOperator
