/-!
# Blank text

White space in the sense of Unicode, trimming, and text that holds nothing else.
-/

namespace ServerOperator.Text

/-- The characters with the Unicode property White_Space. -/
def isSpace (c : Char) : Bool :=
  let n := c.toNat
  (0x9 ≤ n && n ≤ 0xD) || n == 0x20 || n == 0x85 || n == 0xA0 || n == 0x1680 ||
    (0x2000 ≤ n && n ≤ 0x200A) || n == 0x2028 || n == 0x2029 || n == 0x202F || n == 0x205F || n == 0x3000

def trimStart (cs : List Char) : List Char :=
  cs.dropWhile isSpace

def trimEnd (cs : List Char) : List Char :=
  (cs.reverse.dropWhile isSpace).reverse

/-- The text without the white space at both ends. -/
def trim (s : String) : String :=
  String.ofList (trimEnd (trimStart s.toList))

/-- Text that is empty or white space only; a setting given so counts as not given. -/
def isBlank (s : String) : Bool :=
  trim s == ""

/-- The trimmed text, unless the text is blank. -/
def nonBlank? (s : String) : Option String :=
  if isBlank s then none else some (trim s)

/-- The text of an optional setting, trimmed; absent when unset or blank. -/
def given? (value : Option String) : Option String :=
  value.bind nonBlank?

/-! ## Laws -/

theorem trimStart_eq_nil_iff {cs : List Char} : trimStart cs = [] ↔ ∀ c ∈ cs, isSpace c := by
  induction cs with
  | nil => simp [trimStart]
  | cons c cs ih =>
    by_cases h : isSpace c
    · rw [List.forall_mem_cons, ← ih]; simp only [trimStart, List.dropWhile_cons, h, if_true, true_and]
    · simp [trimStart, h]

theorem isBlank_iff {s : String} : isBlank s ↔ ∀ c ∈ s.toList, isSpace c := by
  rw [← trimStart_eq_nil_iff]
  simp only [isBlank, trim, beq_iff_eq, ← String.toList_inj, String.toList_ofList, String.toList_empty]
  constructor
  · intro h
    cases hs : trimStart s.toList with
    | nil => rfl
    | cons c cs =>
      rw [hs, trimEnd, List.reverse_eq_nil_iff] at h
      have hc : isSpace c := trimStart_eq_nil_iff.mp h c (by simp)
      have : ∀ (l : List Char), trimStart l = c :: cs → isSpace c = false := by
        intro l
        induction l with
        | nil => simp [trimStart]
        | cons d l ih =>
          by_cases hd : isSpace d
          · simpa [trimStart, hd] using ih
          · simp only [trimStart, List.dropWhile_cons, hd]
            intro e; cases e; simpa using hd
      rw [this _ hs] at hc; cases hc
  · intro h; rw [h]; rfl

end ServerOperator.Text
