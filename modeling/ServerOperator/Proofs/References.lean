import Mathlib.Data.List.DropRight
import ServerOperator.Proofs.Trimming
import ServerOperator.Server.Validation

/-!
# References by their parts

An image is resolved by looking for slashes, colons and at signs in a plain text. For a reference that is put
together from a host, a path, a tag and a digest this finds the parts again: the host is replaced as a whole, and a
tag is added where there is neither a tag nor a digest, whatever colons a host has.
-/

namespace ServerOperator

open Text (Padded Trims given? isSpace trim)

namespace Image

/-! ## References -/

/-- The parts of `[host/]first/.../last[:tag][@digest]`. -/
structure Reference where
  host : Option (List Char) := none
  first : List Char
  more : List (List Char) := []
  tag : Option (List Char) := none
  digest : Option (List Char) := none

namespace Reference

variable (r : Reference)

def suffix : List Char := r.tag.elim [] (':' :: ·) ++ r.digest.elim [] ('@' :: ·)

def path (suffix : List Char) : List Char := r.first ++ r.more.flatMap ('/' :: ·) ++ suffix

def on (host : Option (List Char)) (suffix : List Char) : List Char := host.elim [] (· ++ ['/']) ++ r.path suffix

def text : List Char := r.on r.host r.suffix

structure WellFormed : Prop where
  /-- A host has a dot or a port, or it is the local one. -/
  host : ∀ h ∈ r.host, ('.' ∈ h ∨ ':' ∈ h ∨ h = "localhost".toList) ∧ '/' ∉ h ∧ '@' ∉ h
  segments : ∀ p ∈ r.first :: r.more, p ≠ [] ∧ '/' ∉ p ∧ ':' ∉ p ∧ '@' ∉ p
  /-- A directory does not look like a host. -/
  directory : r.host = none → r.more ≠ [] → r.first ≠ "localhost".toList ∧ '.' ∉ r.first
  tag : ∀ t ∈ r.tag, '/' ∉ t
  digest : ∀ d ∈ r.digest, '/' ∉ d
  spaceless : ∀ c ∈ r.text, isSpace c = false

end Reference

/-! ## Slashes -/

section
variable {cs : List Char}

theorem ne_slash (h : '/' ∉ cs) : ∀ c ∈ cs, decide (c ≠ '/') = true := by
  intro c hc
  rw [decide_eq_true_eq]
  rintro rfl
  exact h hc

theorem takeWhile_slash (h : '/' ∉ cs) (rest : List Char) :
    (cs ++ '/' :: rest).takeWhile (· ≠ '/') = cs ∧ (cs ++ '/' :: rest).dropWhile (· ≠ '/') = '/' :: rest := by
  rw [List.takeWhile_append_of_pos (ne_slash h), List.dropWhile_append_of_pos (ne_slash h)]
  simp

theorem lastSegment_of_no_slash (h : '/' ∉ cs) : lastSegment cs = cs := by
  have hreverse : '/' ∉ cs.reverse := by simpa using h
  rw [lastSegment, List.takeWhile_eq_self_iff.mpr (ne_slash hreverse), List.reverse_reverse]

theorem lastSegment_append (cs rest : List Char) : lastSegment (cs ++ '/' :: rest) = lastSegment rest := by
  have hslash (l : List Char) : ('/' :: l).takeWhile (· ≠ '/') = [] := rfl
  unfold lastSegment
  rw [List.reverse_append, List.reverse_cons, List.append_assoc, List.singleton_append, List.takeWhile_append, hslash,
    List.append_nil]
  split
  · next h => rw [(List.takeWhile_prefix _).eq_of_length h]
  · rfl

theorem slash_not_mem_lastSegment (cs : List Char) : '/' ∉ lastSegment cs := by
  intro h
  rw [lastSegment, List.mem_reverse] at h
  have := List.all_eq_true.mp (List.all_takeWhile (p := (· ≠ '/')) (l := cs.reverse)) '/' h
  simp at this

theorem lastSegment_suffix (cs : List Char) : ∃ before, cs = before ++ lastSegment cs := by
  refine ⟨(cs.reverse.dropWhile (· ≠ '/')).reverse, ?_⟩
  rw [lastSegment, ← List.reverse_append, List.takeWhile_append_dropWhile, List.reverse_reverse]

theorem lastSegment_append_of_no_slash {suffix : List Char} (h : '/' ∉ suffix) (cs : List Char) :
    lastSegment (cs ++ suffix) = lastSegment cs ++ suffix := by
  have hreverse : '/' ∉ suffix.reverse := by simpa using h
  unfold lastSegment
  rw [List.reverse_append, List.takeWhile_append_of_pos (ne_slash hreverse), List.reverse_append, List.reverse_reverse]

theorem path_of_no_slash (h : '/' ∉ cs) : path cs = cs := by
  rw [path, List.dropWhile_eq_nil_iff.mpr (ne_slash h)]

theorem path_append (h : '/' ∉ cs) (rest : List Char) :
    path (cs ++ '/' :: rest) = if isRegistryHost cs then rest else cs ++ '/' :: rest := by
  obtain ⟨htake, hdrop⟩ := takeWhile_slash h rest
  rw [path, hdrop]
  simp only [htake]

theorem isRegistryHost_iff : isRegistryHost cs = true ↔ '.' ∈ cs ∨ ':' ∈ cs ∨ cs = "localhost".toList := by
  simp [isRegistryHost, or_assoc]

end

/-! ## Tags -/

/-- There is a digest, or else a tag: a colon that no slash follows. -/
def Tagged (cs : List Char) : Prop := '@' ∈ cs ∨ ∃ before after, cs = before ++ ':' :: after ∧ '/' ∉ after

theorem tag_iff {cs : List Char} : ':' ∈ lastSegment cs ↔ ∃ before after, cs = before ++ ':' :: after ∧ '/' ∉ after := by
  constructor
  · intro h
    obtain ⟨front, hfront⟩ := lastSegment_suffix cs
    obtain ⟨a, b, hab⟩ := List.append_of_mem h
    have hslash := slash_not_mem_lastSegment cs
    rw [hab] at hfront hslash
    refine ⟨front ++ a, b, ?_, ?_⟩
    · rw [hfront, List.append_assoc]
    · intro hb
      exact hslash (by simp [hb])
  · rintro ⟨before, after, rfl, h⟩
    have hsuffix : '/' ∉ ':' :: after := by simp [h]
    rw [lastSegment_append_of_no_slash hsuffix]
    simp

theorem hasTag_iff {image : String} : hasTag image = true ↔ Tagged image.toList := by
  unfold Tagged
  rw [← tag_iff]
  simp [hasTag]

/-! ## Finding the parts -/

theorem colon_mem_lastSegment_iff {first : List Char} {more : List (List Char)} {suffix : List Char}
    (hsegments : ∀ p ∈ first :: more, '/' ∉ p ∧ ':' ∉ p) (hsuffix : '/' ∉ suffix) :
    ':' ∈ lastSegment (first ++ more.flatMap ('/' :: ·) ++ suffix) ↔ ':' ∈ suffix := by
  induction more generalizing first with
  | nil =>
    obtain ⟨hslash, hcolon⟩ := hsegments first (by simp)
    have hno : '/' ∉ first ++ suffix := by simp [hslash, hsuffix]
    rw [List.flatMap_nil, List.append_nil, lastSegment_of_no_slash hno]
    simp [hcolon]
  | cons p more ih =>
    have hsplit : first ++ (p :: more).flatMap ('/' :: ·) ++ suffix =
        first ++ '/' :: (p ++ more.flatMap ('/' :: ·) ++ suffix) := by simp
    rw [hsplit, lastSegment_append]
    exact ih fun q hq => hsegments q (List.mem_cons_of_mem first hq)

namespace Reference

variable {r : Reference} {suffix : List Char}

theorem on_some (h : List Char) : r.on (some h) suffix = h ++ '/' :: r.path suffix := by
  simp [on]

theorem text_ne_nil (hr : r.WellFormed) : r.text ≠ [] := by
  have hfirst := (hr.segments r.first (by simp)).1
  simp [text, on, path, hfirst]

theorem slash_not_mem_suffix (hr : r.WellFormed) : '/' ∉ r.suffix := by
  obtain ⟨-, -, -, htag, hdigest, -⟩ := hr
  unfold Reference.suffix
  cases ht : r.tag <;> cases hd : r.digest <;> simp_all

theorem mem_suffix_iff : r.suffix ≠ [] ↔ '@' ∈ r.suffix ∨ ':' ∈ r.suffix := by
  unfold Reference.suffix
  cases r.tag <;> cases r.digest <;> simp

theorem hasTag_text (hr : r.WellFormed) : hasTag (String.ofList r.text) = true ↔ r.suffix ≠ [] := by
  have hat : '@' ∈ r.text ↔ '@' ∈ r.suffix := by
    have hsegments : ∀ p ∈ r.first :: r.more, '@' ∉ p := fun p hp => (hr.segments p hp).2.2.2
    obtain ⟨hfirst, hmore⟩ := List.forall_mem_cons.mp hsegments
    have hpath : '@' ∈ r.path r.suffix ↔ '@' ∈ r.suffix := by
      simp +contextual [Reference.path, hfirst, hmore]
    unfold text
    cases hhost : r.host with
    | none => exact hpath
    | some h =>
      obtain ⟨-, -, hat⟩ := hr.host h hhost
      rw [on_some, ← hpath]
      simp [hat]
  -- A colon of the host is followed by a slash, so that it is not in the last segment.
  have hcolon : ':' ∈ lastSegment r.text ↔ ':' ∈ r.suffix := by
    have hpath : ':' ∈ lastSegment (r.path r.suffix) ↔ ':' ∈ r.suffix :=
      colon_mem_lastSegment_iff (fun p hp => ⟨(hr.segments p hp).2.1, (hr.segments p hp).2.2.1⟩)
        (slash_not_mem_suffix hr)
    unfold text
    cases r.host with
    | none => exact hpath
    | some h => rwa [on_some, lastSegment_append]
  rw [mem_suffix_iff, ← hat, ← hcolon, hasTag, String.toList_ofList]
  simp

/-- When the host is taken away from a reference the path is left. -/
theorem path_on (hr : r.WellFormed) (hsuffix : '/' ∉ suffix) : Image.path (r.on r.host suffix) = r.path suffix := by
  cases hhost : r.host with
  | some h =>
    obtain ⟨hregistry, hslash, -⟩ := hr.host h hhost
    rw [on_some, path_append hslash, if_pos (isRegistryHost_iff.mpr hregistry)]
  | none =>
    show Image.path (r.path suffix) = r.path suffix
    obtain ⟨-, hslash, hcolon, -⟩ := hr.segments r.first (by simp)
    unfold Reference.path
    cases hmore : r.more with
    | nil =>
      refine path_of_no_slash ?_
      simp [hslash, hsuffix]
    | cons p more =>
      -- The first of several segments must not be taken for a host.
      obtain ⟨hlocal, hdot⟩ := hr.directory hhost (by simp [hmore])
      have hdirectory : ¬ isRegistryHost r.first = true := by
        rw [isRegistryHost_iff, not_or, not_or]
        exact ⟨hdot, hcolon, hlocal⟩
      have hsplit : r.first ++ (p :: more).flatMap ('/' :: ·) ++ suffix =
          r.first ++ '/' :: (p ++ more.flatMap ('/' :: ·) ++ suffix) := by simp
      rw [hsplit, path_append hslash, if_neg hdirectory]

/-! ## Resolving -/

def hostUnder (r : Reference) (override : Option String) : Option (List Char) :=
  match (trim (override.getD "")).toList.rdropWhile (· = '/') with
  | [] => r.host
  | host => some host

def suffixWith (r : Reference) (imageTag : Option String) : List Char :=
  if r.suffix = [] then (given? imageTag).elim [] (':' :: ·.toList) else r.suffix

variable {override imageTag : Option String}

theorem hostUnder_of_none (h : given? override = none) : r.hostUnder override = r.host := by
  have hblank : trim (override.getD "") = "" := by
    cases override with
    | none => rfl
    | some o => simpa [Text.isBlank] using Text.given?_eq_none_iff.mp h o rfl
  rw [hostUnder, hblank]
  rfl

theorem inRegistry_on (hr : r.WellFormed) (hsuffix : '/' ∉ suffix) {registry : String}
    (h : given? override = some registry) : inRegistry (String.ofList (r.on r.host suffix)) registry =
      String.ofList (r.on (r.hostUnder override) suffix) := by
  obtain ⟨o, rfl, rfl⟩ := Text.given?_eq_some h
  have hname : registryName (trim o) = (trim o).toList.rdropWhile (· = '/') := by
    rw [registryName, Text.trim_trim]
    rfl
  unfold inRegistry hostUnder
  rw [hname, Option.getD_some]
  generalize (trim o).toList.rdropWhile (· = '/') = name
  cases name with
  | nil => rfl
  | cons c name => simp only [String.toList_ofList, path_on hr hsuffix, on_some]

theorem tagged_text (hr : r.WellFormed) (imageTag : Option String) :
    (given? imageTag).elim (String.ofList r.text) (withTag (String.ofList r.text)) =
      String.ofList (r.on r.host (r.suffixWith imageTag)) := by
  have htag := hasTag_text hr
  unfold suffixWith
  by_cases hsuffix : r.suffix = []
  · have hopen : ¬ hasTag (String.ofList r.text) = true := by simpa [htag] using hsuffix
    rw [if_pos hsuffix]
    cases given? imageTag with
    | none => rw [Option.elim_none, text, hsuffix]; rfl
    | some tag =>
      rw [Option.elim_some, withTag, if_neg hopen, text, hsuffix, ← String.toList_inj]
      simp [on, path]
  · rw [if_neg hsuffix]
    cases given? imageTag with
    | none => rfl
    | some tag => rw [Option.elim_some, withTag, if_pos (htag.mpr hsuffix), text]

theorem slash_not_mem_suffixWith (hr : r.WellFormed) (htag : ∀ t ∈ imageTag, '/' ∉ t.toList) :
    '/' ∉ r.suffixWith imageTag := by
  unfold suffixWith
  split
  · cases h : given? imageTag with
    | none => simp
    | some tag =>
      obtain ⟨t, rfl, rfl⟩ := Text.given?_eq_some h
      have hslash : '/' ∉ (trim t).toList := mt Text.mem_of_mem_trim (htag t rfl)
      simp [hslash]
  · exact slash_not_mem_suffix hr

end Reference

end Image

theorem ServerSpec.resolveImage_eq {s : ServerSpec} {image : String} (h : Text.nonBlank? s.image = some image) :
    s.resolveImage =
      let tagged := (given? s.imageTag).elim image (Image.withTag image)
      .ok ((given? s.registryOverride).elim tagged (Image.inRegistry tagged)) := by
  rw [resolveImage, h]
  cases given? s.imageTag <;> cases given? s.registryOverride <;> simp only [Option.elim_none, Option.elim_some]

/-- An image that is a reference is resolved to the same reference, but for a host given in place of its own, and a tag
given where it has neither tag nor digest. -/
theorem image_is_resolved_by_parts {s : ServerSpec} {r : Image.Reference} (hr : r.WellFormed)
    (himage : Padded s.image r.text) (htag : ∀ t ∈ s.imageTag, '/' ∉ t.toList) :
    s.resolveImage = .ok (String.ofList (r.on (r.hostUnder s.registryOverride) (r.suffixWith s.imageTag))) := by
  have hgiven : Text.nonBlank? s.image = some (String.ofList r.text) :=
    Text.nonBlank?_of_trims (himage.trims hr.spaceless) (Image.Reference.text_ne_nil hr)
  have hsuffix := Image.Reference.slash_not_mem_suffixWith hr htag
  rw [ServerSpec.resolveImage_eq hgiven]
  simp only [Image.Reference.tagged_text hr]
  cases h : given? s.registryOverride with
  | some registry => rw [Option.elim_some, Image.Reference.inRegistry_on hr hsuffix h]
  | none => rw [Image.Reference.hostUnder_of_none h, Option.elim_none]

def portedReference : Image.Reference where
  host := some "reg.local:5000".toList
  first := "team".toList
  more := ["server".toList]

def movedServer : ServerSpec where
  image := " reg.local:5000/team/server\n"
  imageTag := some "\tv1 "
  registryOverride := some " new.reg:1// "

theorem image_is_resolved_by_parts_sample : portedReference.WellFormed ∧
    Padded movedServer.image portedReference.text ∧
    movedServer.resolveImage = .ok "new.reg:1/team/server:v1" := by
  have hspaceless : portedReference.text.all (!isSpace ·) = true := by decide
  have hr : portedReference.WellFormed :=
    ⟨by decide, by decide, by decide, by decide, by decide, by simpa using List.all_eq_true.mp hspaceless⟩
  have himage : Padded movedServer.image portedReference.text :=
    ⟨[' '], ['\n'], by decide, List.forall_mem_singleton.mpr (by decide), List.forall_mem_singleton.mpr (by decide)⟩
  refine ⟨hr, himage, (image_is_resolved_by_parts hr himage (by decide)).trans (congrArg Except.ok ?_)⟩
  decide

end ServerOperator
