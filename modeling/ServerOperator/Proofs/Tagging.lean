import ServerOperator.Proofs.Defaulting

/-!
# The default tag

Whether an image has a tag is asked twice: when defaults are filled in, of the image as it was written, and when it is
resolved, of the trimmed one. The two agree on every text, and moving an image to another registry looks only at what
comes before its tag. So filling in adds the default tag to the image that is deployed, or changes nothing.
-/

namespace ServerOperator

open Text (isBlank isSpace given? trim)

namespace Image

/-- What comes before a text is of no account unless the text has no slash, and then it adds its own last segment. -/
theorem mem_lastSegment_append {front : List Char} {c : Char} (h : c ∉ front) (cs : List Char) :
    c ∈ lastSegment (front ++ cs) ↔ c ∈ lastSegment cs := by
  by_cases hslash : '/' ∈ cs
  · obtain ⟨a, b, rfl⟩ := List.append_of_mem hslash
    rw [← List.append_assoc, lastSegment_append, lastSegment_append]
  · have hfront : c ∉ lastSegment front := by
      obtain ⟨before, hbefore⟩ := lastSegment_suffix front
      intro hc
      rw [hbefore] at h
      exact h (List.mem_append_right _ hc)
    rw [lastSegment_append_of_no_slash hslash, lastSegment_of_no_slash hslash, List.mem_append, or_iff_right hfront]

theorem not_mem_of_space {l : List Char} {c : Char} (hl : ∀ d ∈ l, isSpace d = true) (hc : isSpace c = false) :
    c ∉ l := by
  intro h
  rw [hl c h] at hc
  cases hc

/-- White space is no part of a tag, and no slash either. -/
theorem hasTag_trim (image : String) : hasTag (trim image) = hasTag image := by
  obtain ⟨l, r, hs, hl, hr⟩ := (Text.trims_trim image).padded
  have hno {c : Char} (hc : isSpace c = false) : c ∉ l ∧ c ∉ r := ⟨not_mem_of_space hl hc, not_mem_of_space hr hc⟩
  have hdigest : '@' ∈ image.toList ↔ '@' ∈ (trim image).toList := by
    obtain ⟨hl, hr⟩ := hno (c := '@') (by decide)
    rw [hs]
    simp [hl, hr]
  have htag : ':' ∈ lastSegment image.toList ↔ ':' ∈ lastSegment (trim image).toList := by
    obtain ⟨hl, hr⟩ := hno (c := ':') (by decide)
    obtain ⟨_, hslash⟩ := hno (c := '/') (by decide)
    rw [hs, lastSegment_append_of_no_slash hslash, List.mem_append, or_iff_left hr, mem_lastSegment_append hl]
  rw [Bool.eq_iff_iff]
  simp only [hasTag, Bool.or_eq_true, List.contains_iff_mem]
  rw [hdigest, htag]

/-! ## Registries -/

theorem path_append_of_no_slash {suffix : List Char} (h : '/' ∉ suffix) (cs : List Char) :
    path (cs ++ suffix) = path cs ++ suffix := by
  by_cases hslash : '/' ∈ cs
  · obtain ⟨first, rest, rfl, hfirst⟩ := List.eq_append_cons_of_mem hslash
    rw [List.append_assoc, List.cons_append, path_append hfirst, path_append hfirst]
    split
    · rfl
    · rw [List.append_assoc, List.cons_append]
  · have hboth : '/' ∉ cs ++ suffix := by simp [hslash, h]
    rw [path_of_no_slash hboth, path_of_no_slash hslash]

theorem inRegistry_append {suffix : String} (h : '/' ∉ suffix.toList) (image registry : String) :
    inRegistry (image ++ suffix) registry = inRegistry image registry ++ suffix := by
  unfold inRegistry
  cases registryName registry with
  | nil => rfl
  | cons c name =>
    rw [← String.toList_inj]
    simp [path_append_of_no_slash h]

end Image

/-! ## Resolving after filling in -/

namespace ServerSpec

open Setting (IsSet)

variable {s : ServerSpec} {image : String} (name : String)

/-- Of what an image is resolved from, filling in touches the tag alone. -/
theorem resolveImage_fillDefaults (h : Text.nonBlank? s.image = some image) :
    (s.fillDefaults name).1.resolveImage =
      let imageTag := if Image.hasTag s.image then s.imageTag else (fillText Default.imageTag s.imageTag).1
      let tagged := (given? imageTag).elim image (Image.withTag image)
      .ok ((given? s.registryOverride).elim tagged (Image.inRegistry tagged)) := by
  rw [fillDefaults_fst]
  exact resolveImage_eq h

theorem resolveImage_of_tagged (h : Text.nonBlank? s.image = some image)
    (htag : Image.Tagged s.image.toList ∨ IsSet (isBlank · = false) s.imageTag) :
    (s.fillDefaults name).1.resolveImage = s.resolveImage := by
  have hkept : (if Image.hasTag s.image then s.imageTag else (fillText Default.imageTag s.imageTag).1) = s.imageTag := by
    rcases htag with htag | hset
    · rw [if_pos (Image.hasTag_iff.mpr htag)]
    · rw [(Setting.filled_text Default.imageTag s.imageTag).kept hset, ite_self]
  rw [resolveImage_fillDefaults name h, resolveImage_eq h, hkept]

theorem resolveImage_of_untagged (h : Text.nonBlank? s.image = some image) (htag : ¬ Image.Tagged s.image.toList)
    (hopen : ¬ IsSet (isBlank · = false) s.imageTag) : ∃ resolved, s.resolveImage = .ok resolved ∧
      (s.fillDefaults name).1.resolveImage = .ok (resolved ++ ":latest") := by
  rw [← Image.hasTag_iff] at htag
  have himage : ¬ Image.hasTag image = true := by
    have hgiven : given? (some s.image) = some image := h
    obtain ⟨_, hi, rfl⟩ := Text.given?_eq_some hgiven
    cases hi
    rwa [Image.hasTag_trim]
  have hlatest : Image.withTag image "latest" = image ++ ":latest" := by
    rw [Image.withTag, if_neg himage, String.append_assoc]
    rfl
  have hfilled : (fillText Default.imageTag s.imageTag).1 = some "latest" :=
    (Setting.filled_text Default.imageTag s.imageTag).filled hopen
  have hdefault : given? (some "latest") = some "latest" := by decide
  have hnone : given? s.imageTag = none := Setting.given?_eq_none_iff.mpr hopen
  rw [resolveImage_fillDefaults name h, resolveImage_eq h, if_neg htag, hfilled]
  simp only [hdefault, hnone, Option.elim_none, Option.elim_some, hlatest]
  refine ⟨_, rfl, ?_⟩
  cases given? s.registryOverride with
  | none => rfl
  | some registry => rw [Option.elim_some, Image.inRegistry_append (by decide), Option.elim_some]

end ServerSpec

/-- Filling in changes the image that is deployed by the default tag, if neither the image nor the setting for it gives
one, and not at all otherwise. -/
theorem defaults_add_only_the_tag {s : ServerSpec} (h : isBlank s.image = false) (name : String) :
    ∃ resolved, s.resolveImage = .ok resolved ∧
      (¬ Image.Tagged s.image.toList → (∀ tag, s.imageTag = some tag → isBlank tag = true) →
        (s.fillDefaults name).1.resolveImage = .ok (resolved ++ ":latest")) ∧
      (Image.Tagged s.image.toList ∨ (∃ tag, s.imageTag = some tag ∧ isBlank tag = false) →
        (s.fillDefaults name).1.resolveImage = .ok resolved) := by
  have himage : Text.nonBlank? s.image = some (trim s.image) := if_neg (by simp [h])
  obtain ⟨resolved, hresolved⟩ : ∃ resolved, s.resolveImage = .ok resolved := ⟨_, ServerSpec.resolveImage_eq himage⟩
  refine ⟨resolved, hresolved, fun htag hopen => ?_, fun htag => ?_⟩
  · have hunset : ¬ Setting.IsSet (isBlank · = false) s.imageTag := by
      rintro ⟨tag, ht, hb⟩
      rw [hopen tag ht] at hb
      cases hb
    obtain ⟨resolved', hbefore, hafter⟩ := ServerSpec.resolveImage_of_untagged name himage htag hunset
    cases hresolved.symm.trans hbefore
    exact hafter
  · rw [← hresolved]
    exact ServerSpec.resolveImage_of_tagged name himage htag

def movedUntagged : ServerSpec where
  image := " reg.local:5000/team/server\n"
  imageTag := some "\t"
  registryOverride := some "new.reg:1/"

theorem defaults_add_only_the_tag_sample : isBlank movedUntagged.image = false ∧
    (movedUntagged.fillDefaults "search").1.resolveImage = .ok "new.reg:1/team/server:latest" := by
  have hblank : isBlank movedUntagged.image = false := by decide
  obtain ⟨resolved, hresolved, hadded, -⟩ := defaults_add_only_the_tag hblank "search"
  have hbefore : movedUntagged.resolveImage = .ok "new.reg:1/team/server" := by decide
  cases hbefore.symm.trans hresolved
  have htag : ¬ Image.Tagged movedUntagged.image.toList := by
    rw [← Image.hasTag_iff]
    decide
  refine ⟨hblank, hadded htag fun tag h => ?_⟩
  cases h
  decide

end ServerOperator
