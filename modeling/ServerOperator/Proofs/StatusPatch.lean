import ServerOperator.Api.Request
import ServerOperator.Json.MergePatch
import ServerOperator.Proofs.Effects
import ServerOperator.Proofs.Reading

/-!
# The patch of a status

A status is written by a merge patch, which changes only the members it names and takes away those that are
`null`. A status names all its members, so that nothing is left of an earlier one: the object is read afterwards
as the server before with the new status, just as the store in memory keeps it.
-/

namespace ServerOperator

namespace Json

/-! ## Patches that are flat -/

namespace Fields

variable {o : Fields} {key name : String}

theorem values_remove : (o.remove name).values key = if name = key then [] else o.values key := by
  rw [remove, values, values, List.filter_filter]
  split
  · next h => simp [h]
  · next h =>
    refine congrArg (List.map _) (List.filter_congr fun m _ => ?_)
    by_cases hm : m.1 = key
    · simp [hm, Ne.symm h]
    · simp [hm]

theorem find?_eq_head? : o.find? key = (o.values key).head? := by
  induction o with
  | nil => rfl
  | cons m o ih =>
    rw [find?, SortedMap.find?, values_cons]
    split
    · rfl
    · exact ih

end Fields

theorem mergeMembers_cons (target : Fields) {v : Json} (hv : v ≠ .null) (name : String) (rest : Fields) :
    mergeMembers target ((name, v) :: rest) =
      mergeMembers (target.set name (mergePatch ((target.find? name).getD null) v)) rest := by
  cases v <;> first | rfl | exact absurd rfl hv

theorem mergePatch_of_flat (target : Json) {v : Json} (hv : v.fields? = none) : mergePatch target v = v := by
  cases v <;> first | rfl | cases hv

/-- A patch keeps what it does not name. -/
theorem values_mergeMembers {key : String} {patch : Fields} (h : key ∉ patch.map (·.1)) (target : Fields) :
    (mergeMembers target patch).values key = target.values key := by
  induction patch generalizing target with
  | nil => rfl
  | cons m patch ih =>
    obtain ⟨name, v⟩ := m
    obtain ⟨hne, hrest⟩ := not_or.mp (mt List.mem_cons.mpr h)
    by_cases hv : v = .null
    · subst hv
      show (mergeMembers (target.remove name) patch).values key = _
      rw [ih hrest, Fields.values_remove, if_neg (Ne.symm hne)]
    · rw [mergeMembers_cons target hv, ih hrest, Fields.values_set_ne _ (Ne.symm hne)]

/-- A member with a plain value takes the place of what stands under its name. -/
theorem mergeMembers_flat {target : Fields} {name : String} {v : Json} (hv : v.fields? = none)
    (hone : (target.values name).length ≤ 1) (rest : Fields) : ∃ merged : Fields,
      mergeMembers target ((name, v) :: rest) = mergeMembers merged rest ∧ merged.Shows name v ∧
        ∀ key ≠ name, merged.values key = target.values key := by
  by_cases hnull : v = .null
  · subst hnull
    refine ⟨target.remove name, rfl, .inr ⟨rfl, ?_⟩, fun key hkey => ?_⟩
    · rw [Fields.values_remove, if_pos rfl]
    · rw [Fields.values_remove, if_neg (Ne.symm hkey)]
  · refine ⟨target.set name v, ?_, .inl ?_, fun key hkey => ?_⟩
    · rw [mergeMembers_cons target hnull, mergePatch_of_flat _ hv]
    · exact Fields.values_set_self v hone
    · exact Fields.values_set_ne v (Ne.symm hkey)

/-- A patch of plain values leaves each of them, and nothing of what stood under their names. -/
theorem shows_mergeMembers {patch : Fields} (hflat : ∀ m ∈ patch, m.2.fields? = none) (hnames : (patch.map (·.1)).Nodup)
    {target : Fields} (htarget : ∀ name ∈ patch.map (·.1), (target.values name).length ≤ 1) :
    ∀ m ∈ patch, (mergeMembers target patch).Shows m.1 m.2 := by
  induction patch generalizing target with
  | nil => exact List.forall_mem_nil _
  | cons m patch ih =>
    obtain ⟨name, v⟩ := m
    obtain ⟨hv, hflat⟩ := List.forall_mem_cons.mp hflat
    obtain ⟨hname, hnames⟩ := List.nodup_cons.mp hnames
    obtain ⟨hone, htarget⟩ := List.forall_mem_cons.mp htarget
    obtain ⟨merged, hmerged, hshows, hothers⟩ := mergeMembers_flat hv hone patch
    rw [hmerged]
    -- The rest of the patch has other names: it keeps the first member, and finds what it is to replace as it was.
    refine List.forall_mem_cons.mpr ⟨?_, ih hflat hnames fun key hkey => ?_⟩
    · rwa [Fields.Shows, values_mergeMembers hname]
    · rw [hothers key fun h => hname (h ▸ hkey)]
      exact htarget key hkey

end Json

/-! ## The status -/

open Json

theorem ServerStatus.flat (s : ServerStatus) : ∀ m ∈ s.toJson.fields?.getD [], m.2.fields? = none := by
  rw [toJson, fields?, Option.getD_some]
  simp only [List.forall_mem_cons]
  refine ⟨?_, ?_, rfl, rfl, rfl, ?_, List.forall_mem_nil _⟩
  · cases s.phase <;> rfl
  · cases s.message <;> rfl
  · cases s.observedGeneration <;> rfl

/-- A status can be put over any value that is read as a status, or is no object. -/
theorem ServerStatus.ofJson?_mergePatch (s : ServerStatus) {v : Json}
    (hv : ∀ o, v = .object o → ∃ old, ofJson? v = .ok old) : ofJson? (v.mergePatch s.toJson) = .ok s := by
  refine ofJson?_of_shows (shows_mergeMembers s.flat (show fieldNames.Nodup by decide) fun name hname => ?_)
  cases ho : v.fields? with
  | none => exact Nat.zero_le _
  | some o =>
    have hobject : v = .object o := by cases v <;> first | cases ho; rfl | cases ho
    obtain ⟨old, hold⟩ := hv o hobject
    subst hobject
    obtain ⟨_, hrecord, _⟩ := Except.bind_eq_ok hold
    obtain ⟨_, hdistinct, _⟩ := Except.bind_eq_ok hrecord
    exact Fields.distinct_ok_iff.mp hdistinct name hname

theorem Json.Fields.exists_of_optional {α : Type} {o : Fields} {key : String} {read : Json → Except Mismatch α}
    {v : Json} {a : Option α} (h : o.optional key read = .ok a) (hv : o.values key = [v]) (hnull : v ≠ .null) :
    ∃ b, read v = .ok b := by
  cases hread : read v with
  | ok b => exact ⟨b, rfl⟩
  | error e =>
    rw [optional, member?, hv, List.foldlM_cons, asOption_of_ne hnull, hread] at h
    cases h

theorem Server.ofJson?_mergePatch {v : Json} {server : Server} (h : ofJson? v = .ok server) (status : ServerStatus) :
    ofJson? (v.mergePatch (Call.statusPatch status)) = .ok { server with status := some status } := by
  obtain ⟨o, rfl, hdistinct, hmetadata, hspec, hstatus⟩ := ofJson?_ok_iff.mp h
  have hone := Fields.distinct_ok_iff.mp hdistinct
  -- What is patched is the one status there is, and if it is an object then it was read as a status.
  have hpatched := status.ofJson?_mergePatch (v := (o.find? "status").getD .null) fun old hold => by
    rw [Fields.find?_eq_head?] at hold ⊢
    rcases Fields.values_cases (hone "status" (by decide)) with hvalues | ⟨live, hvalues⟩
    · rw [hvalues] at hold
      cases hold
    · rw [hvalues] at hold ⊢
      obtain rfl : live = .object old := hold
      exact Fields.exists_of_optional hstatus hvalues nofun
  generalize hw : ((o.find? "status").getD .null).mergePatch status.toJson = w at hpatched
  have hmerged : mergePatch (.object o) (Call.statusPatch status) = .object (o.set "status" w) := by
    rw [← hw]
    rfl
  have hshown : (o.set "status" w).values "status" = [w] := Fields.values_set_self w (hone "status" (by decide))
  have hkept {key : String} (hkey : "status" ≠ key) : (o.set "status" w).values key = o.values key :=
    Fields.values_set_ne w hkey
  rw [hmerged]
  refine ofJson?_ok_iff.mpr ⟨_, rfl, Fields.distinct_ok_iff.mpr fun key hkey => ?_, ?_, ?_, ?_⟩
  · by_cases h : "status" = key
    · subst h
      rw [hshown]
      exact Nat.le_refl 1
    · rw [hkept h]
      exact hone key hkey
  · rw [← hmetadata, Fields.member?, hkept (by decide)]
    rfl
  · rw [← hspec, Fields.member?, hkept (by decide)]
    rfl
  · refine Fields.optional_of_values hshown ?_ hpatched
    rintro rfl
    cases hpatched

/-! ## The store in memory -/

open MemoryStore (handler effect_handler)

namespace MemoryStore

/-- A patch fails and keeps the server, or has found one and stores it with the new status. -/
theorem patchStatus_outcome (s : MemoryStore) (key : Key) (status : ServerStatus) :
    (∃ f, (handler s (.patchStatus key status)).1 = .error f ∧
      (handler s (.patchStatus key status)).2.object? .server key = s.object? .server key) ∨
    (handler s (.patchStatus key status)).1 = .ok () ∧ ∃ live : Server, s.object? .server key = some live ∧
      ((handler s (.patchStatus key status)).2.object? .server key).map Kind.server.unversioned =
        some (Kind.server.unversioned { live with status := some status }) := by
  have h := effect_handler s (.patchStatus key status)
  generalize (handler s (.patchStatus key status)).1 = r, (handler s (.patchStatus key status)).2 = t at h ⊢
  cases h with
  | failed untouched => exact .inl ⟨_, rfl, congrArg (·.get? key) (untouched.table .server)⟩
  | @patched _ _ live _ stored alike =>
    refine .inr ⟨rfl, live, stored, ?_⟩
    rw [alike.object?, object?_patched]
    rfl

def Documents (s : MemoryStore) (key : Key) (v : Json) : Prop := ∃ server, Server.ofJson? v = .ok server ∧
  (s.object? .server key).map Kind.server.unversioned = some (Kind.server.unversioned server)

def patchBoth (key : Key) (b : MemoryStore × Json) (status : ServerStatus) : MemoryStore × Json :=
  let r := handler b.1 (.patchStatus key status)
  (r.2, if r.1.isOk then b.2.mergePatch (Call.statusPatch status) else b.2)

theorem Documents.patchBoth {b : MemoryStore × Json} {key : Key} (h : b.1.Documents key b.2) (status : ServerStatus) :
    (patchBoth key b status).1.Documents key (patchBoth key b status).2 := by
  obtain ⟨server, hread, hstored⟩ := h
  unfold MemoryStore.patchBoth
  rcases patchStatus_outcome b.1 key status with ⟨f, hr, hkept⟩ | ⟨hr, live, hlive, hpatched⟩ <;> dsimp only <;> rw [hr]
  · exact ⟨server, hread, hkept ▸ hstored⟩
  · refine ⟨{ server with status := some status }, Server.ofJson?_mergePatch hread status, hpatched.trans ?_⟩
    rw [hlive] at hstored
    have hsame : Kind.server.unversioned live = Kind.server.unversioned server := Option.some.inj hstored
    exact congrArg (fun o : Server => some { o with status := some status }) hsame

/-- Document and stored server agree after any number of patches, some of which may fail. -/
theorem Documents.after_patches {b : MemoryStore × Json} {key : Key} (h : b.1.Documents key b.2)
    (statuses : List ServerStatus) :
    let b' := statuses.foldl (MemoryStore.patchBoth key) b
    b'.1.Documents key b'.2 := by
  induction statuses generalizing b with
  | nil => exact h
  | cons status statuses ih => exact ih (h.patchBoth status)

end MemoryStore

/-- A server is read back from what it is written as. From any document that is read as the server, whatever its
status was, the patch of a status makes one that is read as the server with that status and nothing else changed,
which is the server that the store in memory keeps after the same call, but for its version. -/
theorem status_patch_replaces_status (server : Server) (key : Key) (status : ServerStatus) :
    Server.ofJson? server.toJson = .ok server ∧
      ∀ v patch, Server.ofJson? v = .ok server → (Call.patchStatus key status).body? = some patch →
        Server.ofJson? (v.mergePatch patch) = .ok { server with status := some status } ∧
        ∀ s : MemoryStore, s.object? .server key = some server → (handler s (.patchStatus key status)).1 = .ok () →
          ((handler s (.patchStatus key status)).2.object? .server key).map Kind.server.unversioned =
            some (Kind.server.unversioned { server with status := some status }) := by
  refine ⟨Server.undoes server, fun v patch hv hpatch => ?_⟩
  cases hpatch
  refine ⟨Server.ofJson?_mergePatch hv status, fun s hs hok => ?_⟩
  rcases s.patchStatus_outcome key status with ⟨f, hf, _⟩ | ⟨_, live, hlive, hstored⟩
  · cases hok.symm.trans hf
  · obtain rfl : server = live := Option.some.inj (hs.symm.trans hlive)
    exact hstored

def failedServer : Server where
  metadata := { name := some "search", ns := some "tools", foreign := .ofFields [("managedFields", .array [])] }
  spec := { image := "search" }
  status := some { phase := some .failed, message := some "image is missing", observedGeneration := some 2 }

/-- The server as somebody else has written it, with a member that is carried along and one that is not read. -/
def failedDocument : Json := .object [
  ("metadata", .object [("name", .string "search"), ("namespace", .string "tools"), ("managedFields", .array [])]),
  ("status", .object [("phase", .string "Failed"), ("revision", .int 7), ("message", .string "image is missing"),
    ("observedGeneration", .int 2)]),
  ("spec", .object [("image", .string "search")])]

def failedStore : MemoryStore := (∅ : MemoryStore).put .server failedServer.key failedServer

def clearedStatus : ServerStatus := { phase := some .ready, deploymentReady := true }

/-- Phase and flag are new, and neither the message nor the generation of the failed pass is left. -/
theorem status_patch_replaces_status_sample :
    Server.ofJson? (failedDocument.mergePatch (Call.statusPatch clearedStatus)) =
        .ok { failedServer with status := some clearedStatus } ∧
      ((handler failedStore (.patchStatus failedServer.key clearedStatus)).2.object? .server failedServer.key).map
        Kind.server.unversioned = some { failedServer with status := some clearedStatus } := by
  obtain ⟨_, hpatch⟩ := status_patch_replaces_status failedServer failedServer.key clearedStatus
  obtain ⟨hread, hstore⟩ := hpatch failedDocument _ rfl rfl
  exact ⟨hread, hstore _ rfl rfl⟩

end ServerOperator
