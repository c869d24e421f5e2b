import ServerOperator.Text.Blank

/-!
# Trimmed text

Trimming takes the white space away from both ends of a text and nothing else, so that a second time it
changes nothing.
-/

namespace ServerOperator.Text

theorem trimStart_eq_self {cs : List Char} (h : ∀ c ∈ cs.head?, isSpace c = false) : trimStart cs = cs := by
  cases cs with
  | nil => rfl
  | cons c cs => simp [trimStart, h c (by simp)]

theorem head?_trimStart (cs : List Char) : ∀ c ∈ (trimStart cs).head?, isSpace c = false := by
  intro c hc
  have := List.head?_dropWhile_not isSpace cs
  rw [show (List.dropWhile isSpace cs).head? = some c from hc] at this
  exact this

theorem trimEnd_eq_self {cs : List Char} (h : ∀ c ∈ cs.getLast?, isSpace c = false) : trimEnd cs = cs := by
  have : trimStart cs.reverse = cs.reverse := trimStart_eq_self (by simpa using h)
  rw [trimEnd, show cs.reverse.dropWhile isSpace = cs.reverse from this, List.reverse_reverse]

theorem getLast?_trimEnd (cs : List Char) : ∀ c ∈ (trimEnd cs).getLast?, isSpace c = false := by
  intro c hc
  rw [trimEnd, List.getLast?_reverse] at hc
  exact head?_trimStart cs.reverse c hc

theorem trimEnd_prefix (cs : List Char) : trimEnd cs <+: cs := by
  have h := (List.dropWhile_suffix isSpace : cs.reverse.dropWhile isSpace <:+ cs.reverse)
  simpa [trimEnd] using List.reverse_prefix.mpr h

theorem head?_trimEnd_trimStart (cs : List Char) : ∀ c ∈ (trimEnd (trimStart cs)).head?, isSpace c = false := by
  intro c hc
  refine head?_trimStart cs c ?_
  obtain ⟨rest, h⟩ := trimEnd_prefix (trimStart cs)
  rw [← h]
  cases ht : trimEnd (trimStart cs) with
  | nil => rw [ht] at hc; cases hc
  | cons d ds => rw [ht] at hc; simpa using hc

theorem trim_trim (s : String) : trim (trim s) = trim s := by
  have hs : trimStart (trimEnd (trimStart s.toList)) = trimEnd (trimStart s.toList) :=
    trimStart_eq_self (head?_trimEnd_trimStart s.toList)
  simp only [trim, String.toList_ofList, hs, trimEnd_eq_self (getLast?_trimEnd _)]

theorem given?_eq_none_iff {value : Option String} : given? value = none ↔ ∀ s ∈ value, isBlank s := by
  cases value with
  | none => simp [given?]
  | some s => simp [given?, nonBlank?]

theorem given?_eq_some {value : Option String} {t : String} (h : given? value = some t) :
    ∃ s, value = some s ∧ trim s = t := by
  obtain ⟨s, rfl, hs⟩ := Option.bind_eq_some_iff.mp h
  unfold nonBlank? at hs
  split at hs
  · cases hs
  · exact ⟨s, rfl, Option.some.inj hs⟩

theorem trim_of_given {value : Option String} {t : String} (h : given? value = some t) : trim t = t := by
  obtain ⟨s, -, rfl⟩ := given?_eq_some h
  exact trim_trim s

theorem isBlank_default {s : String} (c : Char) (h : c ∈ s.toList) (hc : isSpace c = false) : isBlank s = false := by
  rw [Bool.eq_false_iff]
  intro hb
  rw [isBlank_iff.mp hb c h] at hc
  cases hc

/-! ## White space around a text -/

def Padded (s : String) (w : List Char) : Prop :=
  ∃ l r, s.toList = l ++ w ++ r ∧ (∀ c ∈ l, isSpace c = true) ∧ ∀ c ∈ r, isSpace c = true

/-- The text is `w` with white space around it, none of which belongs to `w`. -/
structure Trims (s : String) (w : List Char) : Prop where
  padded : Padded s w
  head : ∀ c ∈ w.head?, isSpace c = false
  last : ∀ c ∈ w.getLast?, isSpace c = false

theorem Padded.trims {s : String} {w : List Char} (h : Padded s w) (hw : ∀ c ∈ w, isSpace c = false) : Trims s w :=
  ⟨h, fun c hc => hw c (List.mem_of_head? hc), fun c hc => hw c (List.mem_of_getLast? hc)⟩

theorem trimStart_append {l : List Char} (h : ∀ c ∈ l, isSpace c = true) (cs : List Char) :
    trimStart (l ++ cs) = trimStart cs :=
  List.dropWhile_append_of_pos h

theorem trimEnd_append {r : List Char} (h : ∀ c ∈ r, isSpace c = true) (cs : List Char) :
    trimEnd (cs ++ r) = trimEnd cs := by
  unfold trimEnd
  rw [List.reverse_append, List.dropWhile_append_of_pos (by simpa using h)]

theorem trims_trim (s : String) : Trims s (trim s).toList := by
  rw [trim, String.toList_ofList]
  refine ⟨⟨s.toList.takeWhile isSpace, ((trimStart s.toList).reverse.takeWhile isSpace).reverse, ?_, ?_, ?_⟩,
    head?_trimEnd_trimStart _, getLast?_trimEnd _⟩
  · have hend : trimEnd (trimStart s.toList) ++ ((trimStart s.toList).reverse.takeWhile isSpace).reverse =
        trimStart s.toList := by
      rw [trimEnd, ← List.reverse_append, List.takeWhile_append_dropWhile, List.reverse_reverse]
    rw [List.append_assoc, hend, trimStart, List.takeWhile_append_dropWhile]
  · intro c hc
    exact List.all_eq_true.mp List.all_takeWhile c hc
  · intro c hc
    exact List.all_eq_true.mp List.all_takeWhile c (List.mem_reverse.mp hc)

theorem Trims.eq_trim {s : String} {w : List Char} (h : Trims s w) : (trim s).toList = w := by
  obtain ⟨⟨l, r, hs, hl, hr⟩, hhead, hlast⟩ := h
  rw [trim, String.toList_ofList, hs, List.append_assoc, trimStart_append hl]
  cases w with
  | nil => rw [List.nil_append, trimStart_eq_nil_iff.mpr hr]; rfl
  | cons c w => rw [trimStart_eq_self (by simpa using hhead), trimEnd_append hr, trimEnd_eq_self hlast]

/-- There is one way to trim a text. -/
theorem trims_iff {s : String} {w : List Char} : Trims s w ↔ (trim s).toList = w :=
  ⟨Trims.eq_trim, fun h => h ▸ trims_trim s⟩

theorem mem_of_mem_trim {s : String} {c : Char} (h : c ∈ (trim s).toList) : c ∈ s.toList := by
  obtain ⟨l, r, hs, -, -⟩ := (trims_trim s).padded
  rw [hs]
  simp [h]

theorem nonBlank?_of_trims {s : String} {w : List Char} (h : Trims s w) (hw : w ≠ []) :
    nonBlank? s = some (String.ofList w) := by
  have htrim : trim s = String.ofList w := by rw [← h.eq_trim, String.ofList_toList]
  have hblank : isBlank s = false := by
    rw [isBlank, htrim]
    simpa using hw
  rw [nonBlank?, hblank, htrim]
  rfl

end ServerOperator.Text
