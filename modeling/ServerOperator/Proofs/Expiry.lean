import Mathlib.Data.List.Infix
import ServerOperator.WatchError

/-!
# Watches from versions that are gone

An API server that no longer keeps a version says so in a message with two versions, the one that was asked for and
the oldest it has. The class of the message hangs on their digits: it is `expired` unless one of them has 404 or 401
in a row, which are taken for a status.
-/

namespace ServerOperator.WatchError

/-! ## Texts within texts -/

theorem occurs_iff {marker cs : List Char} : occurs marker cs = true ↔ marker <:+: cs := by
  induction cs with
  | nil => simp [occurs]
  | cons c cs ih => simp [occurs, ih, List.infix_cons_iff]

theorem mentions_iff {text marker : String} : mentions text marker = true ↔ marker.toList <:+: text.toList :=
  occurs_iff

section
variable {m xs ys : List Char} {c : Char}

theorem infix_append_of_no_overlap (h : ∀ q, q <:+ m → q <+: ys → q = []) :
    m <:+: xs ++ ys ↔ m <:+: xs ∨ m <:+: ys := by
  rw [List.infix_append_iff]
  constructor
  · rintro (hx | hy | ⟨p, q, rfl, hp, hq⟩)
    · exact .inl hx
    · exact .inr hy
    · rw [h q (List.suffix_append p q) hq, List.append_nil]
      exact .inl hp.isInfix
  · rintro (hx | hy)
    · exact .inl hx
    · exact .inr (.inl hy)

/-- No occurrence goes across a character that it does not have. -/
theorem infix_append_cons (h : c ∉ m) : m <:+: xs ++ c :: ys ↔ m <:+: xs ∨ m <:+: ys := by
  have hempty : ∀ q, q <:+ m → q <+: c :: ys → q = [] := by
    intro q hm hy
    rcases List.prefix_cons_iff.mp hy with hq | ⟨t, rfl, -⟩
    · exact hq
    · exact absurd (hm.subset (List.mem_cons_self ..)) h
  rw [infix_append_of_no_overlap hempty, List.infix_cons_iff]
  constructor
  · rintro (hx | hy | hy)
    · exact .inl hx
    · rw [hempty m List.suffix_rfl hy]
      exact .inl List.nil_infix
    · exact .inr hy
  · rintro (hx | hy)
    · exact .inl hx
    · exact .inr (.inr hy)

end

/-! ## The message -/

/-- What is said of a watch from the version `asked` where all before `oldest` are gone. -/
def tooOld (asked oldest : Nat) : String :=
  "too old resource version: " ++ toString asked ++ " (" ++ toString oldest ++ ")"

def phrase : List Char := "too old resource version".toList

theorem toList_tooOld (asked oldest : Nat) : (tooOld asked oldest).toList =
    phrase ++ ':' :: ' ' :: (Nat.toDigits 10 asked ++ ' ' :: '(' :: (Nat.toDigits 10 oldest ++ [')'])) := by
  have hstart : "too old resource version: ".toList = phrase ++ [':', ' '] := rfl
  have hopening : " (".toList = [' ', '('] := rfl
  have hclosing : ")".toList = [')'] := rfl
  unfold tooOld
  simp only [String.toList_append, hstart, hopening, hclosing, Nat.toString_eq_ofList_toDigits,
    String.toList_ofList, List.append_assoc, List.cons_append, List.nil_append]

/-- What can only be in the message as a part of one of its numbers, and goes over neither of its ends. -/
structure Apart (m : List Char) : Prop where
  colon : ':' ∉ m
  opening : '(' ∉ m
  closing : ')' ∉ m
  phrase : ∀ q ∈ m.tails, q <+: phrase → q = []
  within : ¬ m <:+: WatchError.phrase

instance (m : List Char) : Decidable (Apart m) :=
  decidable_of_iff (':' ∉ m ∧ '(' ∉ m ∧ ')' ∉ m ∧ (∀ q ∈ m.tails, q <+: phrase → q = []) ∧ ¬ m <:+: phrase)
    ⟨fun ⟨h₁, h₂, h₃, h₄, h₅⟩ => ⟨h₁, h₂, h₃, h₄, h₅⟩, fun ⟨h₁, h₂, h₃, h₄, h₅⟩ => ⟨h₁, h₂, h₃, h₄, h₅⟩⟩

def HasLetter (m : List Char) : Prop := m.any (fun c => !c.isDigit && c ≠ ' ') = true

instance (m : List Char) : Decidable (HasLetter m) := inferInstanceAs (Decidable (_ = _))

def Shows (code n : Nat) : Prop := Nat.toDigits 10 code <:+: Nat.toDigits 10 n

instance (code n : Nat) : Decidable (Shows code n) := inferInstanceAs (Decidable (_ <:+: _))

section
variable {m before after : List Char} {asked oldest : Nat}

theorem Apart.infix_iff (h : Apart m) (hbefore : ¬ m <:+: before) (hafter : ¬ m <:+: after) :
    m <:+: before ++ (tooOld asked oldest).toList ++ after ↔
      m <:+: ' ' :: Nat.toDigits 10 asked ++ [' '] ∨ m <:+: Nat.toDigits 10 oldest := by
  have hlist : before ++ (tooOld asked oldest).toList ++ after =
      (((before ++ WatchError.phrase) ++ ':' :: (' ' :: Nat.toDigits 10 asked ++ [' '])) ++
        '(' :: Nat.toDigits 10 oldest) ++ ')' :: after := by
    simp [toList_tooOld]
  have hphrase : ¬ m <:+: before ++ WatchError.phrase := by
    rw [infix_append_of_no_overlap fun q hq => h.phrase q ((List.mem_tails q m).mpr hq)]
    exact not_or.mpr ⟨hbefore, h.within⟩
  rw [hlist, infix_append_cons h.closing, infix_append_cons h.opening, infix_append_cons h.colon,
    or_iff_left hafter, or_iff_right hphrase]

theorem infix_spaced_iff (h : ' ' ∉ m) (hne : m ≠ []) :
    m <:+: ' ' :: Nat.toDigits 10 asked ++ [' '] ↔ m <:+: Nat.toDigits 10 asked := by
  have hnil : ¬ m <:+: [] := by simpa using hne
  rw [infix_append_cons h, ← List.nil_append (' ' :: _), infix_append_cons h, or_iff_right hnil, or_iff_left hnil]

theorem Apart.not_infix_of_letter (h : Apart m) (hbefore : ¬ m <:+: before) (hafter : ¬ m <:+: after)
    (hletter : HasLetter m) : ¬ m <:+: before ++ (tooOld asked oldest).toList ++ after := by
  obtain ⟨c, hc, hdigit, hspace⟩ : ∃ c ∈ m, c.isDigit = false ∧ c ≠ ' ' := by simpa [HasLetter] using hletter
  have hnumber : ∀ n, c ∉ Nat.toDigits 10 n := by
    intro n hn
    rw [Nat.isDigit_of_mem_toDigits (by decide) (by decide) hn] at hdigit
    cases hdigit
  rw [h.infix_iff hbefore hafter]
  rintro (hin | hin)
  · have := hin.subset hc
    simp [hspace, hnumber] at this
  · exact hnumber oldest (hin.subset hc)

theorem Apart.infix_iff_shows {code : Nat} (h : Apart (Nat.toDigits 10 code))
    (hbefore : ¬ Nat.toDigits 10 code <:+: before) (hafter : ¬ Nat.toDigits 10 code <:+: after) :
    Nat.toDigits 10 code <:+: before ++ (tooOld asked oldest).toList ++ after ↔
      Shows code asked ∨ Shows code oldest := by
  have hspace : ' ' ∉ Nat.toDigits 10 code := by
    intro hmem
    cases Nat.isDigit_of_mem_toDigits (by decide) (by decide) hmem
  rw [h.infix_iff hbefore hafter, infix_spaced_iff hspace Nat.toDigits_ne_nil]
  rfl

end

/-! ## Classes -/

def Holds (l : List String) (text : String) : Prop := ∃ m ∈ l, m.toList <:+: text.toList

def Neutral (text : String) : Prop := ∀ e ∈ markers, e.1 ≠ .expired → ¬ Holds e.2 text

instance (l : List String) (text : String) : Decidable (Holds l text) :=
  inferInstanceAs (Decidable (∃ m ∈ l, _))

instance (text : String) : Decidable (Neutral text) :=
  inferInstanceAs (Decidable (∀ e ∈ markers, _))

section
variable {text : String}

theorem any_mentions_iff {l : List String} : l.any (mentions text) = true ↔ Holds l text := by
  simp [Holds, mentions_iff]

/-- The first class with a marker in the text is that of the text. -/
theorem classify_of_first {before after : List (WatchError × List String)} {e : WatchError × List String}
    (hsplit : markers = before ++ e :: after) (hbefore : ∀ d ∈ before, ¬ Holds d.2 text) (he : Holds e.2 text) :
    classify text = e.1 := by
  have hfind : markers.find? (fun d => d.2.any (mentions text)) = some e := by
    refine List.find?_eq_some_iff_append.mpr ⟨any_mentions_iff.mpr he, before, after, hsplit, ?_⟩
    intro d hd
    rw [Bool.not_eq_true', Bool.eq_false_iff]
    exact mt any_mentions_iff.mp (hbefore d hd)
  unfold classify
  rw [show markers.find? _ = some e from hfind]

/-- Of markers that are a status or have a letter, only the status can be in the message. -/
theorem holds_iff_shows {l : List String} {code : Nat} {before after : String} {asked oldest : Nat}
    (hl : ∀ m ∈ l, Apart m.toList ∧ (m.toList = Nat.toDigits 10 code ∨ HasLetter m.toList))
    (hcode : ∃ m ∈ l, m.toList = Nat.toDigits 10 code) (hbefore : ¬ Holds l before) (hafter : ¬ Holds l after) :
    Holds l (before ++ tooOld asked oldest ++ after) ↔ Shows code asked ∨ Shows code oldest := by
  have hb : ∀ m ∈ l, ¬ m.toList <:+: before.toList := fun m hm hin => hbefore ⟨m, hm, hin⟩
  have ha : ∀ m ∈ l, ¬ m.toList <:+: after.toList := fun m hm hin => hafter ⟨m, hm, hin⟩
  unfold Holds
  simp only [String.toList_append]
  constructor
  · rintro ⟨m, hm, hin⟩
    obtain ⟨hapart, hdigits | hletter⟩ := hl m hm
    · have hb := hb m hm
      have ha := ha m hm
      rw [hdigits] at hapart hin hb ha
      exact (hapart.infix_iff_shows hb ha).mp hin
    · exact absurd hin (hapart.not_infix_of_letter (hb m hm) (ha m hm) hletter)
  · intro h
    obtain ⟨m, hm, hdigits⟩ := hcode
    have hapart := (hl m hm).1
    have hb := hb m hm
    have ha := ha m hm
    refine ⟨m, hm, ?_⟩
    rw [hdigits] at hapart hb ha ⊢
    exact (hapart.infix_iff_shows hb ha).mpr h

end

/-- Whatever is said around it without a marker of another class, the message is of the class `expired` unless a
number in it has the digits of a status that is tried before. -/
theorem class_of_too_old {before after : String} (hbefore : Neutral before) (hafter : Neutral after)
    (asked oldest : Nat) : classify (before ++ tooOld asked oldest ++ after) =
      if Shows 404 asked ∨ Shows 404 oldest then .notFound
      else if Shows 401 asked ∨ Shows 401 oldest then .unauthorized
      else .expired := by
  have hnotFound : Holds ["ObjectNotFound", "404", "not found"] (before ++ tooOld asked oldest ++ after) ↔
      Shows 404 asked ∨ Shows 404 oldest := by
    have hmem : (WatchError.notFound, ["ObjectNotFound", "404", "not found"]) ∈ markers := by simp [markers]
    exact holds_iff_shows (by decide) (by decide) (hbefore _ hmem (by decide)) (hafter _ hmem (by decide))
  have hunauthorized : Holds ["401", "Unauthorized"] (before ++ tooOld asked oldest ++ after) ↔
      Shows 401 asked ∨ Shows 401 oldest := by
    have hmem : (WatchError.unauthorized, ["401", "Unauthorized"]) ∈ markers := by simp [markers]
    exact holds_iff_shows (by decide) (by decide) (hbefore _ hmem (by decide)) (hafter _ hmem (by decide))
  have hphrase : phrase <:+: (before ++ tooOld asked oldest ++ after).toList := by
    simp only [String.toList_append, toList_tooOld]
    exact ((List.prefix_append phrase _).isInfix.trans (List.suffix_append ..).isInfix).trans
      (List.prefix_append ..).isInfix
  split_ifs with h404 h401
  · exact classify_of_first (show markers = [] ++ _ :: _ from rfl) (List.forall_mem_nil _) (hnotFound.mpr h404)
  · refine classify_of_first (show markers = [_] ++ _ :: _ from rfl) ?_ (hunauthorized.mpr h401)
    exact List.forall_mem_singleton.mpr (mt hnotFound.mp h404)
  · refine classify_of_first (show markers = [_, _] ++ _ :: _ from rfl) ?_ ⟨"too old resource version", ?_, hphrase⟩
    · simp [mt hnotFound.mp h404, mt hunauthorized.mp h401]
    · simp

theorem class_of_too_old_sample : Neutral "watch stream failed: " ∧ Neutral ", will retry" ∧
    classify ("watch stream failed: " ++ tooOld 74004 74100 ++ ", will retry") = .expired :=
  have hbefore : Neutral "watch stream failed: " := by decide
  have hafter : Neutral ", will retry" := by decide
  ⟨hbefore, hafter, (class_of_too_old hbefore hafter 74004 74100).trans (by decide)⟩

theorem version_is_taken_for_status : classify (tooOld 40412 40398) = .notFound ∧
    classify (tooOld 74017 74019) = .unauthorized := by
  decide

end ServerOperator.WatchError
