import ServerOperator.Proofs.Drift
import ServerOperator.Proofs.Limits

/-!
# The grammar of quantities

Quantities are scanned from the left, without ever going back. What is accepted is just what the grammar derives:
a suffix begins neither with a digit nor with a point, so the scanner stops where the number does. It takes the
digits of any script though, and of these a cluster reads the ASCII ones only.
-/

namespace ServerOperator

open Text (isDecimalDigit isAsciiDigit trim trim_of_given Trims given? isBlank)

namespace Quantity

/-! ## The grammar -/

section
variable (digit : Char → Bool)

/-- `D+` -/
structure Digits (cs : List Char) : Prop where
  ne_nil : cs ≠ []
  all : ∀ c ∈ cs, digit c = true

/-- `D+`, `D+.D*` or `.D+` -/
inductive Number : List Char → Prop
  | whole {ds : List Char} (h : Digits digit ds) : Number ds
  | pointed {ds fs : List Char} (h : Digits digit ds) (hf : ∀ c ∈ fs, digit c = true) : Number (ds ++ '.' :: fs)
  | fraction {fs : List Char} (h : Digits digit fs) : Number ('.' :: fs)

def suffixes : List (List Char) :=
  [['n'], ['u'], ['m'], ['k'], ['M'], ['G'], ['T'], ['P'], ['E'], ['K', 'i'], ['M', 'i'], ['G', 'i'], ['T', 'i'],
   ['P', 'i'], ['E', 'i']]

/-- One of the suffixes, `[eE][+-]?D+`, or nothing. -/
inductive Suffix : List Char → Prop
  | none : Suffix []
  | named {cs : List Char} (h : cs ∈ suffixes) : Suffix cs
  | exponent {e : Char} {sign ds : List Char} (he : e = 'e' ∨ e = 'E') (hsign : sign ∈ [[], ['+'], ['-']])
    (h : Digits digit ds) : Suffix (e :: (sign ++ ds))

/-- A number, perhaps after a plus sign, and a suffix. -/
inductive Grammatical : List Char → Prop
  | mk {sign number suffix : List Char} (hsign : sign ∈ [[], ['+']]) (hn : Number digit number)
    (hs : Suffix digit suffix) : Grammatical (sign ++ number ++ suffix)

end

/-! ## The scanner -/

def marks : List Char := ['+', '-', '.', 'n', 'u', 'm', 'k', 'M', 'G', 'T', 'P', 'E', 'K', 'i', 'e']

theorem isDecimalDigit_of_mem_marks {c : Char} (h : c ∈ marks) : isDecimalDigit c = false := by
  have hall : marks.all (!isDecimalDigit ·) = true := by decide
  simpa using List.all_eq_true.mp hall c h

theorem suffixes_subset_marks : ∀ cs ∈ suffixes, cs ⊆ marks := by decide

theorem scan_digits {ds : List Char} (h : ∀ c ∈ ds, isDecimalDigit c = true) {rest : List Char}
    (hrest : ∀ c ∈ rest.head?, isDecimalDigit c = false) :
    (ds ++ rest).takeWhile isDecimalDigit = ds ∧ (ds ++ rest).dropWhile isDecimalDigit = rest := by
  rw [List.takeWhile_append_of_pos h, List.dropWhile_append_of_pos h]
  cases rest with
  | nil => simp
  | cons c rest => simp [hrest c rfl]

theorem Digits.ne_mark {ds : List Char} (h : Digits isDecimalDigit ds) : ∀ c ∈ ds, ∀ m ∈ marks, c ≠ m := by
  rintro c hc m hm rfl
  have hdigit := h.all c hc
  rw [isDecimalDigit_of_mem_marks hm] at hdigit
  cases hdigit

theorem isSome_guard_iff {ds : List Char} {s : Scale} :
    (if ds.isEmpty || !ds.all isDecimalDigit then none else some s).isSome = true ↔ Digits isDecimalDigit ds := by
  by_cases hempty : ds = []
  · subst hempty
    exact ⟨fun h => by simp at h, fun h => absurd rfl h.ne_nil⟩
  · cases hall : ds.all isDecimalDigit with
    | true => exact ⟨fun _ => ⟨hempty, List.all_eq_true.mp hall⟩, fun _ => by simp [hempty]⟩
    | false =>
      refine ⟨fun h => by simp at h, fun h => ?_⟩
      rw [List.all_eq_true.mpr h.all] at hall
      cases hall

theorem isSome_exponent?_iff {cs : List Char} : (exponent? cs).isSome = true ↔
    ∃ sign ∈ [[], ['+'], ['-']], ∃ ds, cs = sign ++ ds ∧ Digits isDecimalDigit ds := by
  constructor
  · intro h
    unfold exponent? at h
    split at h
    next negative ds hcs =>
    have hds := isSome_guard_iff.mp h
    split at hcs
    · cases hcs; exact ⟨['+'], by simp, _, rfl, hds⟩
    · cases hcs; exact ⟨['-'], by simp, _, rfl, hds⟩
    · cases hcs; exact ⟨[], by simp, _, rfl, hds⟩
  · rintro ⟨sign, hsign, ds, rfl, hds⟩
    simp only [List.mem_cons, List.not_mem_nil, or_false] at hsign
    rcases hsign with rfl | rfl | rfl
    · -- Digits do not start with a sign.
      cases ds with
      | nil => exact absurd rfl hds.ne_nil
      | cons d ds =>
        have hplus : d ≠ '+' := hds.ne_mark d (by simp) '+' (by decide)
        have hminus : d ≠ '-' := hds.ne_mark d (by simp) '-' (by decide)
        have hguard := (isSome_guard_iff (s := .exponent false (d :: ds))).mpr hds
        simpa [exponent?, hplus, hminus] using hguard
    · exact isSome_guard_iff.mpr hds
    · exact isSome_guard_iff.mpr hds

theorem isSome_scale?_iff {cs : List Char} : (scale? cs).isSome = true ↔ Suffix isDecimalDigit cs := by
  have hnamed : (namedScales.lookup cs).isSome = true ↔ cs = [] ∨ cs ∈ suffixes := by
    rw [List.lookup_isSome_iff]
    simp only [namedScales, suffixes, List.mem_cons, List.not_mem_nil, or_false]
    simp
  constructor
  · intro h
    unfold scale? at h
    split at h
    · next s hs =>
      rcases hnamed.mp (by rw [hs]; rfl) with rfl | hcs
      · exact .none
      · exact .named hcs
    · split at h
      · obtain ⟨sign, hsign, ds, rfl, hds⟩ := isSome_exponent?_iff.mp h
        exact .exponent (.inl rfl) hsign hds
      · obtain ⟨sign, hsign, ds, rfl, hds⟩ := isSome_exponent?_iff.mp h
        exact .exponent (.inr rfl) hsign hds
      · cases h
  · intro h
    unfold scale?
    split
    · rfl
    · next hnone =>
      -- Only what has no name is read as an exponent, so `E` and `Ei` are never taken for truncated ones.
      have hunnamed : ¬ (cs = [] ∨ cs ∈ suffixes) := fun h => by
        have := hnamed.mpr h
        rw [hnone] at this
        cases this
      cases h with
      | none => exact absurd (.inl rfl) hunnamed
      | named hcs => exact absurd (.inr hcs) hunnamed
      | exponent he hsign hds =>
        have := isSome_exponent?_iff.mpr ⟨_, hsign, _, rfl, hds⟩
        rcases he with rfl | rfl
        · exact this
        · exact this

/-! ## Numbers -/

section
variable {number suffix : List Char}

theorem Number.head (h : Number isDecimalDigit number) : ∃ c cs, number = c :: cs ∧ c ≠ '+' := by
  cases h with
  | fraction h => exact ⟨'.', _, rfl, by decide⟩
  | whole h =>
    cases number with
    | nil => exact absurd rfl h.ne_nil
    | cons d ds => exact ⟨d, ds, rfl, h.ne_mark d (by simp) '+' (by decide)⟩
  | @pointed ds fs h hf =>
    cases ds with
    | nil => exact absurd rfl h.ne_nil
    | cons d ds => exact ⟨d, ds ++ '.' :: fs, rfl, h.ne_mark d (by simp) '+' (by decide)⟩

theorem unsigned_append {sign : List Char} (hsign : sign ∈ [[], ['+']]) (hn : Number isDecimalDigit number) :
    unsigned (sign ++ number ++ suffix) = number ++ suffix := by
  obtain ⟨c, cs, rfl, hc⟩ := hn.head
  simp only [List.mem_cons, List.not_mem_nil, or_false] at hsign
  rcases hsign with rfl | rfl
  · simp [unsigned, hc]
  · rfl

/-- A suffix goes on neither with the digits nor with the point of a number. -/
theorem Suffix.head (h : Suffix isDecimalDigit suffix) :
    ∀ c ∈ suffix.head?, isDecimalDigit c = false ∧ c ≠ '.' := by
  have hpoint : ∀ cs ∈ suffixes, '.' ∉ cs := by decide
  cases h with
  | none => simp
  | named h =>
    intro c hc
    have hmem := List.mem_of_head? hc
    refine ⟨isDecimalDigit_of_mem_marks (suffixes_subset_marks _ h hmem), ?_⟩
    rintro rfl
    exact hpoint _ h hmem
  | exponent he =>
    intro c hc
    cases hc
    rcases he with rfl | rfl <;> decide

theorem pointDigits_of_ne {cs : List Char} (h : ∀ c ∈ cs.head?, c ≠ '.') : pointDigits cs = ([], cs) := by
  unfold pointDigits
  split
  · exact absurd rfl (h '.' rfl)
  · rfl

/-- The scanner stops where the number does. -/
theorem isSome_ofChars?_append {sign : List Char} (hsign : sign ∈ [[], ['+']]) (hn : Number isDecimalDigit number)
    (hs : Suffix isDecimalDigit suffix) : (ofChars? (sign ++ number ++ suffix)).isSome = true := by
  have hscale := isSome_scale?_iff.mpr hs
  have hdigit : ∀ c ∈ suffix.head?, isDecimalDigit c = false := fun c hc => (hs.head c hc).1
  have hpoint : pointDigits suffix = ([], suffix) := pointDigits_of_ne fun c hc => (hs.head c hc).2
  have hdot : isDecimalDigit '.' = false := by decide
  unfold ofChars?
  rw [unsigned_append hsign hn]
  cases hn with
  | whole h =>
    obtain ⟨htake, hdrop⟩ := scan_digits h.all hdigit
    have hne : number.isEmpty = false := by simpa using h.ne_nil
    simp only [htake, hdrop, hpoint, hne]
    simpa using hscale
  | @pointed ds fs h hf =>
    have hafter : ∀ c ∈ ('.' :: (fs ++ suffix)).head?, isDecimalDigit c = false := by
      rintro c ⟨⟩
      exact hdot
    obtain ⟨htake, hdrop⟩ := scan_digits h.all hafter
    obtain ⟨htake', hdrop'⟩ := scan_digits hf hdigit
    have hne : ds.isEmpty = false := by simpa using h.ne_nil
    simp only [List.append_assoc, List.cons_append, htake, hdrop, pointDigits, htake', hdrop', hne]
    simpa using hscale
  | @fraction fs h =>
    obtain ⟨htake, hdrop⟩ := scan_digits h.all hdigit
    have hne : fs.isEmpty = false := by simpa using h.ne_nil
    simp only [List.cons_append, List.takeWhile_cons, List.dropWhile_cons, hdot, Bool.false_eq_true, if_false,
      pointDigits, htake, hdrop, hne]
    simpa using hscale

end

theorem digits_takeWhile (cs : List Char) : ∀ c ∈ cs.takeWhile isDecimalDigit, isDecimalDigit c = true :=
  fun c hc => List.all_eq_true.mp List.all_takeWhile c hc

theorem exists_sign (cs : List Char) : ∃ sign ∈ [[], ['+']], cs = sign ++ unsigned cs := by
  unfold unsigned
  split
  · exact ⟨['+'], by simp, rfl⟩
  · exact ⟨[], by simp, rfl⟩

/-- What the scanner takes for a number is one, unless it found no digit. -/
theorem exists_number (cs : List Char) (hne : (cs.takeWhile isDecimalDigit).isEmpty = false ∨
    (pointDigits (cs.dropWhile isDecimalDigit)).1.isEmpty = false) :
    ∃ number, cs = number ++ (pointDigits (cs.dropWhile isDecimalDigit)).2 ∧ Number isDecimalDigit number := by
  have hcs : cs.takeWhile isDecimalDigit ++ cs.dropWhile isDecimalDigit = cs := List.takeWhile_append_dropWhile
  have hwhole := digits_takeWhile cs
  -- Only the digits after the point are still scanned; those before it are any digits from here on.
  generalize cs.takeWhile isDecimalDigit = whole at hcs hne hwhole
  generalize cs.dropWhile isDecimalDigit = rest at hcs hne
  subst hcs
  unfold pointDigits at hne ⊢
  split at hne
  · next after =>
    have hafter : after.takeWhile isDecimalDigit ++ after.dropWhile isDecimalDigit = after :=
      List.takeWhile_append_dropWhile
    refine ⟨whole ++ '.' :: after.takeWhile isDecimalDigit, ?_, ?_⟩
    · simp only [List.append_assoc, List.cons_append, hafter]
    · cases whole with
      | nil => exact .fraction ⟨by simpa using hne, digits_takeWhile after⟩
      | cons d ds => exact .pointed ⟨List.cons_ne_nil d ds, hwhole⟩ (digits_takeWhile after)
  · exact ⟨whole, rfl, .whole ⟨by simpa using hne, hwhole⟩⟩

theorem isSome_ofChars?_iff {cs : List Char} : (ofChars? cs).isSome = true ↔ Grammatical isDecimalDigit cs := by
  constructor
  · intro h
    simp only [ofChars?] at h
    split at h
    · cases h
    · next hne =>
      rw [Bool.and_eq_true, not_and_or, Bool.not_eq_true, Bool.not_eq_true] at hne
      obtain ⟨sign, hsign, hcs⟩ := exists_sign cs
      obtain ⟨number, hnumber, hn⟩ := exists_number (unsigned cs) hne
      rw [Option.isSome_map] at h
      have hs := isSome_scale?_iff.mp h
      rw [hcs, hnumber, ← List.append_assoc]
      exact ⟨hsign, hn, hs⟩
  · rintro ⟨hsign, hn, hs⟩
    exact isSome_ofChars?_append hsign hn hs

theorem isValid_iff_grammatical (v : String) :
    isValid v = true ↔ ∃ w, Trims v w ∧ Grammatical isDecimalDigit w := by
  rw [isValid, parse?, isSome_ofChars?_iff]
  constructor
  · intro h
    exact ⟨_, Text.trims_iff.mpr rfl, h⟩
  · rintro ⟨w, hw, h⟩
    rwa [Text.trims_iff.mp hw]

/-! ## Foreign digits -/

section
variable {digit digit' : Char → Bool} {cs : List Char}

theorem Digits.imp (h : Digits digit cs) (himp : ∀ c ∈ cs, digit c = true → digit' c = true) : Digits digit' cs :=
  ⟨h.ne_nil, fun c hc => himp c hc (h.all c hc)⟩

theorem Number.imp (h : Number digit cs) (himp : ∀ c ∈ cs, digit c = true → digit' c = true) : Number digit' cs := by
  cases h with
  | whole h => exact .whole (h.imp himp)
  | pointed h hf =>
    refine .pointed (h.imp fun c hc => himp c (by simp [hc])) fun c hc => ?_
    exact himp c (by simp [hc]) (hf c hc)
  | fraction h => exact .fraction (h.imp fun c hc => himp c (by simp [hc]))

theorem Suffix.imp (h : Suffix digit cs) (himp : ∀ c ∈ cs, digit c = true → digit' c = true) : Suffix digit' cs := by
  cases h with
  | none => exact .none
  | named h => exact .named h
  | exponent he hsign h => exact .exponent he hsign (h.imp fun c hc => himp c (by simp [hc]))

/-- What are digits matters only for the characters that stand there. -/
theorem Grammatical.imp (h : Grammatical digit cs) (himp : ∀ c ∈ cs, digit c = true → digit' c = true) :
    Grammatical digit' cs := by
  obtain ⟨hsign, hn, hs⟩ := h
  exact ⟨hsign, hn.imp fun c hc => himp c (by simp [hc]), hs.imp fun c hc => himp c (by simp [hc])⟩

theorem Number.digit_or_mark (h : Number digit cs) : ∀ c ∈ cs, digit c = true ∨ c ∈ marks := by
  intro c hc
  cases h with
  | whole h => exact .inl (h.all c hc)
  | pointed h hf =>
    rcases List.mem_append.mp hc with hc | hc
    · exact .inl (h.all c hc)
    · rcases List.mem_cons.mp hc with rfl | hc
      · exact .inr (by decide)
      · exact .inl (hf c hc)
  | fraction h =>
    rcases List.mem_cons.mp hc with rfl | hc
    · exact .inr (by decide)
    · exact .inl (h.all c hc)

theorem Suffix.digit_or_mark (h : Suffix digit cs) : ∀ c ∈ cs, digit c = true ∨ c ∈ marks := by
  have hsigns : ∀ sign ∈ [[], ['+'], ['-']], sign ⊆ marks := by decide
  intro c hc
  cases h with
  | none => cases hc
  | named h => exact .inr (suffixes_subset_marks _ h hc)
  | exponent he hsign h =>
    rcases List.mem_cons.mp hc with rfl | hc
    · refine .inr ?_
      rcases he with rfl | rfl <;> decide
    · rcases List.mem_append.mp hc with hc | hc
      · exact .inr (hsigns _ hsign hc)
      · exact .inl (h.all c hc)

theorem Grammatical.digit_or_mark (h : Grammatical digit cs) : ∀ c ∈ cs, digit c = true ∨ c ∈ marks := by
  have hsigns : ∀ sign ∈ [[], ['+']], sign ⊆ marks := by decide
  obtain ⟨hsign, hn, hs⟩ := h
  intro c hc
  rcases List.mem_append.mp hc with hc | hc
  · rcases List.mem_append.mp hc with hc | hc
    · exact .inr (hsigns _ hsign hc)
    · exact hn.digit_or_mark c hc
  · exact hs.digit_or_mark c hc

end

/-- The quantity is one that a cluster can read, which knows the ASCII digits only. -/
def Conforms (q : String) : Prop := Grammatical isAsciiDigit q.toList

theorem conforms_iff {q : String} : Conforms q ↔ Grammatical isDecimalDigit q.toList ∧
    ∀ c ∈ q.toList, isDecimalDigit c = true → isAsciiDigit c = true := by
  constructor
  · intro h
    refine ⟨h.imp fun c _ => Text.isDecimalDigit_of_isAsciiDigit, fun c hc hdigit => ?_⟩
    refine (h.digit_or_mark c hc).resolve_right fun hmark => ?_
    rw [isDecimalDigit_of_mem_marks hmark] at hdigit
    cases hdigit
  · rintro ⟨h, hascii⟩
    exact h.imp hascii

theorem grammatical_of_isValid {q : String} (h : isValid q = true) (htrim : trim q = q) :
    Grammatical isDecimalDigit q.toList := by
  rwa [isValid, parse?, isSome_ofChars?_iff, htrim] at h

end Quantity

/-! ## The quantities of a container -/

def ContainerResources.quantities (r : ContainerResources) : List String :=
  (r.requests.elim [] (·.entries) ++ r.limits.elim [] (·.entries)).map (·.2)

theorem ServerSpec.quantities_written (s : ServerSpec) : s.written.quantities = [
    (given? (s.request? .cpu)).getD Default.cpuRequest, (given? (s.request? .memory)).getD Default.memoryRequest,
    (given? (s.limit? .cpu)).getD Default.cpuLimit, (given? (s.limit? .memory)).getD Default.memoryLimit] :=
  rfl

theorem Server.container_of_deployment {s : Server} {d : Deployment} (h : s.deployment = .ok d) :
    s.spec.QuantitiesValid ∧ ∃ c, d.containers = [c] ∧ c.resources = some s.spec.written := by
  unfold deployment at h
  split at h
  · next c hc =>
    cases h
    obtain ⟨image, _, hc⟩ := Except.bind_eq_ok hc
    obtain ⟨r, hr, hc⟩ := Except.bind_eq_ok hc
    cases hc
    have hvalid := ServerSpec.resolve_ok_iff.mp ⟨r, hr⟩
    rw [ServerSpec.resolve_eq_written hvalid] at hr
    cases hr
    exact ⟨hvalid, _, rfl, rfl⟩
  · cases h

/-- What is written is a default, or was given and found valid. -/
theorem ServerSpec.valid_of_written {s : ServerSpec} (h : s.QuantitiesValid) {q : String}
    (hq : q ∈ s.written.quantities) : Quantity.isValid q = true ∧ trim q = q := by
  have hgiven {value : Option String} {default : String}
      (hvalue : ∀ q ∈ value, isBlank q = false → Quantity.isValid q = true)
      (hdefault : Quantity.isValid default = true ∧ trim default = default) :
      Quantity.isValid ((given? value).getD default) = true ∧
        trim ((given? value).getD default) = (given? value).getD default := by
    cases hq : given? value with
    | none => exact hdefault
    | some q => exact ⟨isValid_of_given hvalue hq, trim_of_given hq⟩
  rw [quantities_written] at hq
  simp only [List.mem_cons, List.not_mem_nil, or_false] at hq
  rcases hq with rfl | rfl | rfl | rfl
  · exact hgiven (h.given .cpu).1 (by decide)
  · exact hgiven (h.given .memory).1 (by decide)
  · exact hgiven (h.given .cpu).2 (by decide)
  · exact hgiven (h.given .memory).2 (by decide)

/-- Of a Deployment that is synthesized, each of the four quantities is one by the grammar, if the digits of any script
are digits; and a cluster can read it just when its digits are all from ASCII. -/
theorem written_quantities_conform_iff {s : Server} {d : Deployment} (h : s.deployment = .ok d) : ∃ c r,
    d.containers = [c] ∧ c.resources = some r ∧ r.quantities.length = 4 ∧ ∀ q ∈ r.quantities,
      Quantity.Grammatical isDecimalDigit q.toList ∧
        (Quantity.Conforms q ↔ ∀ c ∈ q.toList, isDecimalDigit c = true → isAsciiDigit c = true) := by
  obtain ⟨hvalid, c, hc, hr⟩ := Server.container_of_deployment h
  refine ⟨c, _, hc, hr, rfl, fun q hq => ?_⟩
  obtain ⟨hq, htrim⟩ := ServerSpec.valid_of_written hvalid hq
  have hgrammar := Quantity.grammatical_of_isValid hq htrim
  refine ⟨hgrammar, ?_⟩
  rw [Quantity.conforms_iff]
  exact and_iff_right hgrammar

def arabicCores : Server where
  metadata := { name := some "demo", ns := some "default" }
  spec := {
    image := "nginx"
    resources := some { requests := some { cpu := some "\u0663" }, limits := some { memory := some " +1.5e9 " } } }

theorem arabicCores_valid : arabicCores.spec.QuantitiesValid := by decide

theorem written_quantities_conform_iff_sample : ∃ d c r, arabicCores.deployment = .ok d ∧ d.containers = [c] ∧
    c.resources = some r ∧ (∃ q ∈ r.quantities, Quantity.Conforms q) ∧ ∃ q ∈ r.quantities, ¬ Quantity.Conforms q := by
  obtain ⟨d, hd⟩ := (Server.deployment_ok_iff (by decide)).mpr arabicCores_valid
  obtain ⟨c, r, hc, hr, _, hconform⟩ := written_quantities_conform_iff hd
  obtain ⟨_, c', hc', hr'⟩ := Server.container_of_deployment hd
  cases hc'.symm.trans hc
  cases hr'.symm.trans hr
  have hmemory : "+1.5e9" ∈ arabicCores.spec.written.quantities := by decide
  have hcpu : "\u0663" ∈ arabicCores.spec.written.quantities := by decide
  have hascii : "+1.5e9".toList.all (fun c => !isDecimalDigit c || isAsciiDigit c) = true := by decide
  refine ⟨d, c, _, hd, hc, hr, ⟨_, hmemory, (hconform _ hmemory).2.mpr fun c hc hdigit => ?_⟩, ⟨_, hcpu, ?_⟩⟩
  · simpa [hdigit] using List.all_eq_true.mp hascii c hc
  · exact mt (hconform _ hcpu).2.mp fun h => absurd (h '\u0663' (by decide) (by decide)) (by decide)

/-- The Arabic digits get through to the container. -/
theorem foreign_digits_are_written : ¬ ∀ (s : Server) (d : Deployment), s.deployment = .ok d →
    ∀ c ∈ d.containers, ∀ r ∈ c.resources, ∀ q ∈ r.quantities, Quantity.Conforms q := by
  intro h
  obtain ⟨d, hd⟩ := (Server.deployment_ok_iff (by decide)).mpr arabicCores_valid
  obtain ⟨_, c, hc, hr⟩ := Server.container_of_deployment hd
  have hcpu : "\u0663" ∈ arabicCores.spec.written.quantities := by decide
  have hconforms := h _ d hd c (by simp [hc]) _ hr _ hcpu
  exact absurd ((Quantity.conforms_iff.mp hconforms).2 '\u0663' (by decide) (by decide)) (by decide)

end ServerOperator
