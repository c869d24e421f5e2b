import Mathlib.Logic.Basic
import ServerOperator.Proofs.Sharing
import ServerOperator.Proofs.Wiring

/-!
# Edits and passes in turn

What the children of a server are after a history of edits and passes, is decided by the spec at the last pass
that was done, up to one thing: the annotations of the Ingress. Merging only puts entries in, so that an
annotation that an earlier spec asked for stays when it is taken out of the spec.
-/

namespace ServerOperator

open MemoryStore (Alike handler)

/-! ## What a server asks for -/

def ServerSpec.under (spec : ServerSpec) (id : Metadata) : Server := { metadata := id, spec }

namespace Server

def identity (s : Server) : Metadata where
  name := s.metadata.name
  generateName := s.metadata.generateName
  ns := s.metadata.ns
  uid := s.metadata.uid

def core (s : Server) : Server := s.spec.under s.identity

section
variable (s : Server)

theorem core_deployment : s.core.deployment = s.deployment := rfl

theorem core_wanted (c : Child) : c.wanted s.core = c.wanted s := by
  cases c with
  | deployment => exact s.core_deployment
  | service | ingress => rfl

theorem core_closed : s.core.fillDefaults.2 = s.fillDefaults.2 := rfl

theorem core_fault? : s.core.fault? = s.fault? := by
  have hv : s.core.validate = s.validate := rfl
  simp only [fault?, hv, core_closed, core_deployment]
  rfl

end

section
variable {a b : Server}

theorem identity_of_bare (h : a.bare = b.bare) : a.identity = b.identity :=
  (congrArg identity h : a.bare.identity = b.bare.identity)

theorem identity_of_core (h : a.core = b.core) : a.identity = b.identity :=
  (congrArg metadata h : a.core.metadata = b.core.metadata)

theorem spec_of_core (h : a.core = b.core) : a.spec = b.spec :=
  (congrArg spec h : a.core.spec = b.core.spec)

end

end Server

/-! ## Annotations of several specs -/

/-- The annotations that the Ingress gets from specs of which the first is the latest. -/
def collected : List ServerSpec → SortedMap String
  | [] => ∅
  | spec :: past => (collected past).union spec.annotations

theorem get?_collected (specs : List ServerSpec) (key : String) :
    (collected specs).get? key = specs.findSome? (·.annotations.get? key) := by
  induction specs with
  | nil => rfl
  | cons spec past ih =>
    rw [collected, SortedMap.get?_union, ih, List.findSome?_cons]
    cases spec.annotations.get? key <;> rfl

theorem collected_single (spec : ServerSpec) : collected [spec] = spec.annotations := by
  refine SortedMap.ext_get? fun key => ?_
  rw [get?_collected, List.findSome?_singleton]

theorem ServerSpec.isEmpty_annotations (spec : ServerSpec) : spec.annotations.isEmpty = false := by
  have h : (spec.annotations.get? entrypointsAnnotation).isSome = true := by
    simp [ServerSpec.annotations]
  obtain ⟨value, h⟩ := Option.isSome_iff_exists.mp h
  exact SortedMap.isEmpty_of_get? h

/-! ## Children after several specs -/

/-- An object but for its version and for a status that is reported without one. -/
def Kind.declared (k : Kind) (o : k.Object) : k.Object := k.unreported (k.unversioned o)

theorem DeploymentSpec.merge_of_containers (spec spec' : ServerSpec) (id : Metadata) (c c' : Container)
    (h : mergeContainer [c] c' = [c']) : ((spec.under id).deploymentSpec c).merge ((spec'.under id).deploymentSpec c') =
      (spec'.under id).deploymentSpec c' := by
  have hname : (spec.under id).name = (spec'.under id).name := rfl
  simp only [merge, PodTemplate.merge, PodTemplate.mergeMetadata, PodSpec.merge, Option.elim, Option.getD_some,
    Server.deploymentSpec, List.foldl_cons, List.foldl_nil, h, hname, mergeEntries_self]

namespace Child

variable (c : Child)

def annotated (specs : List ServerSpec) : c.kind.Object → c.kind.Object :=
  match c with
  | deployment | service => id
  | ingress => fun (o : Ingress) =>
    { o with metadata := { o.metadata with annotations := some (collected specs) } }

theorem declared_withVersion (o : c.kind.Object) (v : Option String) :
    c.kind.declared (c.kind.withVersion o v) = c.kind.declared o := by
  rw [Kind.declared, Kind.declared, Kind.unversioned_withVersion]

theorem annotated_annotated (specs specs' : List ServerSpec) (o : c.kind.Object) :
    c.annotated specs (c.annotated specs' o) = c.annotated specs o := by
  cases c <;> rfl

theorem declared_comp_unreported : c.kind.declared ∘ c.kind.unreported = c.kind.declared := by
  cases c <;> rfl

theorem declared_merge (live wanted : c.kind.Object) :
    c.kind.declared (c.merge live wanted) = c.merge (c.kind.declared live) wanted := by
  cases c <;> rfl

section
variable {c} {id : Metadata} {spec spec' : ServerSpec} {v w : c.kind.Object} (hw : c.wanted (spec'.under id) = .ok w)
include hw

theorem declared_inSpace (space : String) :
    c.kind.declared (c.kind.inSpace w space) = c.annotated [spec'] (c.kind.inSpace w space) := by
  cases c with
  | deployment =>
    obtain ⟨_, rfl⟩ := Server.deployment_eq_ok (show (spec'.under id).deployment = .ok w from hw)
    rfl
  | service =>
    cases hw
    rfl
  | ingress =>
    cases hw
    rw [annotated, collected_single]
    rfl

theorem merge_annotated (hv : c.wanted (spec.under id) = .ok v) (space : String) (past : List ServerSpec) :
    c.merge (c.annotated (spec :: past) (c.kind.inSpace v space)) w =
      c.annotated (spec' :: spec :: past) (c.kind.inSpace w space) := by
  have hmeta : Metadata.merge { (spec'.under id).childMetadata with ns := some space } (spec'.under id).childMetadata =
      { (spec'.under id).childMetadata with ns := some space } := by
    simp only [Metadata.merge, mergeEntries_self, mergeOwners_self]
  cases c with
  | deployment =>
    obtain ⟨image, resources, _, rfl⟩ := Server.deployment_eq (show (spec.under id).deployment = .ok v from hv)
    obtain ⟨image', resources', _, rfl⟩ := Server.deployment_eq (show (spec'.under id).deployment = .ok w from hw)
    have hspec := DeploymentSpec.merge_of_containers spec spec' id { (spec.under id).container image with resources }
      { (spec'.under id).container image' with resources := resources' } (if_pos rfl)
    exact congrArg₂ (fun m s => Deployment.mk m (some s) none) hmeta hspec
  | service =>
    cases hv
    cases hw
    exact congrArg (fun m => Service.mk m (some (spec'.under id).serviceSpec) none) hmeta
  | ingress =>
    cases hv
    cases hw
    have hannotations : mergeEntries (some (collected (spec :: past))) (some spec'.annotations) =
        some (collected (spec' :: spec :: past)) := by
      rw [mergeEntries, spec'.isEmpty_annotations]
      rfl
    exact congrArg₂ (fun m a => Ingress.mk { m with annotations := a } (some (spec'.under id).ingressSpec) none)
      hmeta hannotations

end

/-- What a child of an identity can be after passes that were done for these specs, the latest first. -/
inductive Shaped (id : Metadata) : List ServerSpec → Option c.kind.Object → Prop
  | missing : Shaped id [] none
  | made {spec : ServerSpec} {past : List ServerSpec} {wanted live : c.kind.Object}
    (asked : c.wanted (spec.under id) = .ok wanted)
    (shape : c.kind.declared live = c.annotated (spec :: past) (c.kind.inSpace wanted id.space)) :
    Shaped id (spec :: past) (some live)

variable {c} {id : Metadata} {specs : List ServerSpec} {o o' : Option c.kind.Object}

theorem Shaped.of_declared (h : c.Shaped id specs o) (e : o'.map c.kind.declared = o.map c.kind.declared) :
    c.Shaped id specs o' := by
  cases h with
  | missing =>
    rw [Option.map_eq_none_iff.mp e]
    exact .missing
  | made hw hshape =>
    obtain ⟨live, rfl, hlive⟩ := Option.map_eq_some_iff.mp e
    exact .made hw (hlive.trans hshape)

theorem Shaped.exists_made {spec : ServerSpec} {past : List ServerSpec} (h : c.Shaped id (spec :: past) o) :
    ∃ wanted live, c.wanted (spec.under id) = .ok wanted ∧ o = some live ∧
      c.kind.declared live = c.annotated (spec :: past) (c.kind.inSpace wanted id.space) := by
  cases h with
  | made hw hshape => exact ⟨_, _, hw, rfl, hshape⟩

theorem Shaped.fit (h : c.Shaped id specs o) {spec : ServerSpec} {w : c.kind.Object}
    (hw : c.wanted (spec.under id) = .ok w) (v : Option String) :
    c.Shaped id (spec :: specs) (some (c.kind.withVersion (c.fit id.space w o) v)) := by
  refine .made hw ?_
  rw [declared_withVersion]
  cases h with
  | missing => exact declared_inSpace hw id.space
  | made hv hshape =>
    rw [Child.fit, declared_merge, hshape]
    exact merge_annotated hw hv id.space _

end Child

/-! ## Histories -/

inductive Turn where
  | edit (spec : ServerSpec) (generation : Option Int64)
  | rollout
  | pass

def MemoryStore.edit (s : MemoryStore) (key : Key) (spec : ServerSpec) (generation : Option Int64) : MemoryStore :=
  match s.object? .server key with
  | none => s
  | some (srv : Server) => s.insertServer { srv with spec, metadata := { srv.metadata with generation } }

/-- A store, and the specs at the passes that were done before, the latest first. -/
structure Chronicle where
  store : MemoryStore
  settled : List ServerSpec := []

namespace Chronicle

def step (key : Key) (h : Chronicle) : Turn → Chronicle
  | .edit spec generation => { h with store := h.store.edit key spec generation }
  | .rollout => { h with store := h.store.markReady key }
  | .pass => {
      store := (Pass.inMemory key h.store).state
      settled :=
        match (Pass.inMemory key h.store).value, h.store.object? .server key with
        | .ok .done, some (srv : Server) => srv.spec :: h.settled
        | _, _ => h.settled }

def after (key : Key) (h : Chronicle) (turns : List Turn) : Chronicle := turns.foldl (step key) h

end Chronicle

structure Metadata.Identifies (id : Metadata) (key : Key) : Prop where
  name : id.name = some key.name
  space : id.space = key.space
  uid : id.uid.isSome = true

structure Tracks (key : Key) (id : Metadata) (h : Chronicle) : Prop where
  reliable : h.store.Reliable
  server : ∃ srv : Server, h.store.object? .server key = some srv ∧ srv.identity = id
  child : ∀ c : Child, c.Shaped id h.settled (h.store.object? c.kind key)

section
variable {key : Key} {id : Metadata} (hid : id.Identifies key)
include hid

theorem Metadata.Identifies.key_eq {srv : Server} (h : srv.identity = id) : srv.key = key := by
  subst h
  have hname : srv.name = key.name := by
    rw [Server.name, Metadata.anyName, show srv.metadata.name = some key.name from hid.name]
    rfl
  exact congrArg₂ Key.mk hid.space hname

/-! ## One turn -/

namespace MemoryStore

theorem object?_insertServer {srv : Server} (h : srv.identity = id) (s : MemoryStore) : ∃ stored : Server,
    (s.insertServer srv).object? .server key = some stored ∧ stored.identity = id := by
  subst h
  obtain ⟨uid, huid⟩ := Option.isSome_iff_exists.mp hid.uid
  have hplace : (⟨srv.metadata.ns.getD "", srv.metadata.name.getD ""⟩ : Key) = key := by
    rw [show srv.metadata.name = some key.name from hid.name]
    exact congrArg (Key.mk · key.name) hid.space
  refine ⟨_, (object?_put ..).trans (if_pos hplace), ?_⟩
  have huid' : srv.metadata.uid = some uid := huid
  show ({ srv.identity with uid := some (srv.metadata.uid.getD _) } : Metadata) = srv.identity
  rw [Server.identity, huid']
  rfl

end MemoryStore

namespace Tracks

variable {h : Chronicle}

theorem edit (ht : Tracks key id h) (spec : ServerSpec) (generation : Option Int64) :
    Tracks key id (h.step key (.edit spec generation)) := by
  obtain ⟨srv, hsrv, he⟩ := ht.server
  obtain ⟨edited, hedited⟩ : ∃ edited : Server,
      edited = { srv with spec, metadata := { srv.metadata with generation } } := ⟨_, rfl⟩
  have hedit : h.store.edit key spec generation = h.store.insertServer edited := by
    simp only [MemoryStore.edit, hsrv, hedited]
  have hidentity : edited.identity = id := by
    rw [hedited]
    exact he
  obtain ⟨stored, hstored, hsame⟩ := MemoryStore.object?_insertServer hid hidentity h.store
  refine ⟨?_, ⟨stored, ?_, hsame⟩, fun c => ?_⟩ <;> dsimp only [Chronicle.step] <;> rw [hedit]
  · exact ht.reliable
  · exact hstored
  · rw [(MemoryStore.stores_insertServer h.store _).frame _ _ (.inl c.kind_ne_server)]
    exact ht.child c

omit hid in
theorem rollout (ht : Tracks key id h) : Tracks key id (h.step key .rollout) := by
  have hmap (k : Kind) := Step.unreported_markReady h.store key k key
  obtain ⟨srv, hsrv, he⟩ := ht.server
  refine ⟨?_, ⟨srv, ?_, he⟩, fun c => (ht.child c).of_declared ?_⟩
  · show (h.store.markReady key).Reliable
    unfold MemoryStore.markReady
    split
    · exact ht.reliable
    · exact ht.reliable
  · have hserver := hmap .server
    rw [hsrv] at hserver
    obtain ⟨srv', hsrv', e⟩ := Option.map_eq_some_iff.mp hserver
    exact hsrv'.trans (congrArg some e)
  · have hdeclared := congrArg (Option.map c.kind.declared) (hmap c.kind)
    rw [Option.map_map, Option.map_map, c.declared_comp_unreported] at hdeclared
    exact hdeclared

theorem pass_of_done (ht : Tracks key id h) {srv : Server} (hsrv : h.store.object? .server key = some srv)
    (he : srv.identity = id) (hr : (Pass.inMemory key h.store).value = .ok .done) :
    Tracks key id (h.step key .pass) := by
  have hkey : srv.key = key := hid.key_eq he
  have hstep : h.step key .pass = ⟨(Pass.inMemory key h.store).state, srv.spec :: h.settled⟩ := by
    simp only [Chronicle.step, hr, hsrv]
  obtain ⟨hf, hd, hend⟩ := settled_of_done hsrv hr
  rw [hstep]
  refine ⟨ht.reliable.run _, ?_, fun c => ?_⟩
  · obtain ⟨stored, hstored, hb⟩ := Pass.bare_settled srv h.store hsrv
    exact ⟨stored, (hend.object? ..).trans hstored, (Server.identity_of_bare hb).trans he⟩
  · obtain ⟨w, hw⟩ := Pass.wanted_of_sound hf hd c
    obtain ⟨v, hv⟩ := Pass.child_settled srv h.store hw
    rw [← srv.core_wanted, Server.core, he] at hw
    have hspace : srv.space = id.space := (congrArg Key.space hkey).trans hid.space.symm
    rw [hkey, hspace] at hv
    dsimp only
    rw [hend.object?, hv]
    exact (ht.child c).fit hw v

theorem pass_of_not_done (ht : Tracks key id h) {srv : Server} (hsrv : h.store.object? .server key = some srv)
    (he : srv.identity = id) (hr : (Pass.inMemory key h.store).value ≠ .ok .done) :
    Tracks key id (h.step key .pass) := by
  have hkey : srv.key = key := hid.key_eq he
  have hstep : h.step key .pass = ⟨(Pass.inMemory key h.store).state, h.settled⟩ := by
    simp only [Chronicle.step]
    split
    · next heq _ => exact absurd heq hr
    · rfl
  obtain ⟨hserver, hchild⟩ : (∃ stored : Server, (Pass.inMemory key h.store).state.object? .server key = some stored ∧
      stored.identity = id) ∧ ∀ c : Child, (Pass.inMemory key h.store).state.object? c.kind key =
        h.store.object? c.kind key := by
    rcases pass_ended_of_stored hsrv with ⟨hp, _⟩ | ⟨_, u, hu, hend⟩
    · exact absurd (ht.reliable.permits _ _) hp
    simp only [hend.object?]
    -- Where nothing is refused, a pass that is not done has reported a fault or filled defaults in.
    generalize (Pass.inMemory key h.store).value = r at hu hr
    cases hu with
    | reported hf =>
      obtain ⟨stored, hstored, hb⟩ := MemoryStore.bare_reported srv.key .failed _ (h.store.seen srv.key) hsrv
      exact ⟨⟨stored, hstored, (Server.identity_of_bare hb).trans he⟩, fun c =>
        MemoryStore.object?_reported_ne _ _ _ _ (.inl c.kind_ne_server)⟩
    | filled =>
      exact ⟨⟨_, MemoryStore.object?_written .., he⟩, fun c =>
        MemoryStore.object?_written_ne _ _ _ _ _ (.inl c.kind_ne_server)⟩
    | settled => exact absurd rfl hr
    | unreported _ hn => exact absurd ht.reliable hn
    | unfilled _ _ hg | stopped _ _ hg => exact absurd ht.reliable hg.unreliable
  rw [hstep]
  refine ⟨ht.reliable.run _, hserver, fun c => ?_⟩
  dsimp only
  rw [hchild]
  exact ht.child c

theorem step (ht : Tracks key id h) (turn : Turn) : Tracks key id (h.step key turn) := by
  cases turn with
  | edit spec generation => exact ht.edit hid spec generation
  | rollout => exact ht.rollout
  | pass =>
    obtain ⟨srv, hsrv, he⟩ := ht.server
    by_cases hr : (Pass.inMemory key h.store).value = .ok .done
    · exact ht.pass_of_done hid hsrv he hr
    · exact ht.pass_of_not_done hid hsrv he hr

theorem after (ht : Tracks key id h) (turns : List Turn) : Tracks key id (h.after key turns) := by
  induction turns generalizing h with
  | nil => exact ht
  | cons turn turns ih => exact ih (ht.step hid turn)

end Tracks

end

/-! ## Starting afresh -/

structure Fresh (key : Key) (s : MemoryStore) (srv : Server) : Prop where
  reliable : s.Reliable
  stored : s.object? .server key = some srv
  identifies : srv.identity.Identifies key
  childless : ∀ c : Child, s.object? c.kind key = none

theorem Fresh.tracks {key : Key} {s : MemoryStore} {srv : Server} (h : Fresh key s srv) :
    Tracks key srv.identity ⟨s, []⟩ where
  reliable := h.reliable
  server := ⟨srv, h.stored, rfl⟩
  child := fun c => by
    dsimp only
    rw [h.childless]
    exact .missing

theorem Tracks.children_of_done {key : Key} {id : Metadata} (hid : id.Identifies key) {h : Chronicle}
    (ht : Tracks key id h) {srv : Server} (hsrv : h.store.object? .server key = some srv) (he : srv.identity = id)
    (hr : (Pass.inMemory key h.store).value = .ok .done) (c : Child) : ∃ wanted live,
      c.wanted (srv.spec.under id) = .ok wanted ∧
      (Pass.inMemory key h.store).state.object? c.kind key = some live ∧
      c.kind.declared live = c.annotated (srv.spec :: h.settled) (c.kind.inSpace wanted id.space) := by
  have hshaped := (ht.pass_of_done hid hsrv he hr).child c
  simp only [Chronicle.step, hr, hsrv] at hshaped
  exact hshaped.exists_made

/-- After any history of edits and passes on a store without children, a pass that is done leaves the children
that it would make on a store where the server is new, but for the annotations of the Ingress: there, what the
specs at earlier passes asked for is still in place, unless a later one gave it another value. -/
theorem children_follow_spec_but_annotations {key : Key} {s : MemoryStore} {srv : Server} (hfresh : Fresh key s srv)
    (turns : List Turn) (hr : (Pass.inMemory key ((⟨s, []⟩ : Chronicle).after key turns).store).value = .ok .done) :
    let h := (⟨s, []⟩ : Chronicle).after key turns
    ∃ now : Server, h.store.object? .server key = some now ∧
      ∀ (s' : MemoryStore) (srv' : Server), Fresh key s' srv' → srv'.core = now.core →
        (Pass.inMemory key s').value = .ok .done ∧
        (∀ c : Child, ∃ live fresh,
          (Pass.inMemory key h.store).state.object? c.kind key = some live ∧
          (Pass.inMemory key s').state.object? c.kind key = some fresh ∧
          c.kind.declared live = c.annotated (now.spec :: h.settled) (c.kind.declared fresh)) ∧
        ∀ fresh : Ingress, (Pass.inMemory key s').state.object? .ingress key = some fresh →
          fresh.metadata.annotations = some now.spec.annotations := by
  intro h
  have ht : Tracks key srv.identity h := hfresh.tracks.after hfresh.identifies turns
  obtain ⟨now, hnow, he⟩ := ht.server
  refine ⟨now, hnow, fun s' srv' hfresh' hcore => ?_⟩
  have hid : srv'.identity = srv.identity := (Server.identity_of_core hcore).trans he
  have hspec : srv'.spec = now.spec := Server.spec_of_core hcore
  obtain ⟨hf, hd, _⟩ := settled_of_done hnow hr
  have hr' : (Pass.inMemory key s').value = .ok .done := by
    refine (settled_of_reliable hfresh'.stored hfresh'.reliable ?_ ?_).1
    · rw [← srv'.core_fault?, hcore, now.core_fault?, hf]
    · rw [← srv'.core_closed, hcore, now.core_closed, hd]
  have ht' : Tracks key srv.identity ⟨s', []⟩ := hid ▸ hfresh'.tracks
  have hchildren' := ht'.children_of_done hfresh.identifies hfresh'.stored hid hr'
  rw [hspec] at hchildren'
  refine ⟨hr', fun c => ?_, fun fresh hobject => ?_⟩
  · obtain ⟨w, live, hw, hlive, hshape⟩ := ht.children_of_done hfresh.identifies hnow he hr c
    obtain ⟨w', fresh, hw', hobject, hshape'⟩ := hchildren' c
    cases hw.symm.trans hw'
    refine ⟨live, fresh, hlive, hobject, ?_⟩
    rw [hshape, hshape', c.annotated_annotated]
  · obtain ⟨_, fresh', _, hobject', hshape'⟩ := hchildren' .ingress
    cases hobject.symm.trans hobject'
    have hannotations : fresh.metadata.annotations = some (collected [now.spec]) :=
      congrArg (fun o : Ingress => o.metadata.annotations) hshape'
    rw [hannotations, collected_single]

/-! ## A removed annotation -/

def MemoryStore.holding (srv : Server) : MemoryStore := ({ version := 1 } : MemoryStore).put .server srv.key srv

theorem fresh_holding {srv : Server} (h : srv.identity.Identifies srv.key) : Fresh srv.key (.holding srv) srv where
  reliable := fun _ _ => rfl
  stored := (MemoryStore.object?_put ..).trans (if_pos rfl)
  identifies := h
  childless := fun c => by cases c <;> rfl

def annotatedServer : Server :=
  { sampleServer with
    spec := { sampleServer.spec with ingressAnnotations := (∅ : SortedMap String).insert "team" "search" } }

def removal : List Turn := [.pass, .edit sampleServer.spec (some 4), .rollout]

def annotationRemoved : Chronicle := (⟨.holding annotatedServer, []⟩ : Chronicle).after annotatedServer.key removal

theorem children_follow_spec_but_annotations_sample : ∃ live fresh : Ingress,
    (Pass.inMemory annotatedServer.key annotationRemoved.store).state.object? .ingress annotatedServer.key = some live ∧
      (Pass.inMemory annotatedServer.key (.holding sampleServer)).state.object? .ingress annotatedServer.key = some fresh ∧
      Kind.ingress.declared live =
        Child.ingress.annotated [sampleServer.spec, annotatedServer.spec] (Kind.ingress.declared fresh) := by
  have hid : annotatedServer.identity.Identifies annotatedServer.key := ⟨rfl, rfl, rfl⟩
  have hid' : sampleServer.identity.Identifies sampleServer.key := ⟨rfl, rfl, rfl⟩
  have hr : (Pass.inMemory annotatedServer.key annotationRemoved.store).value = .ok .done := rfl
  obtain ⟨now, hnow, hrest⟩ := children_follow_spec_but_annotations (fresh_holding hid) removal hr
  have hcore : (annotationRemoved.store.object? .server annotatedServer.key).map Server.core = some sampleServer.core := by
    decide
  rw [show annotationRemoved.store.object? .server annotatedServer.key = some now from hnow] at hcore
  have hsame : now.core = sampleServer.core := Option.some.inj hcore
  obtain ⟨_, hchildren, _⟩ := hrest (.holding sampleServer) sampleServer (fresh_holding hid') hsame.symm
  obtain ⟨live, fresh, hlive, hfresh, h⟩ := hchildren .ingress
  refine ⟨live, fresh, hlive, hfresh, h.trans ?_⟩
  rw [Server.spec_of_core hsame]
  rfl

/-- After the edit, a pass that is done leaves the annotation where no spec asks for it any more. -/
theorem removed_annotation_stays :
    (Pass.inMemory annotatedServer.key annotationRemoved.store).value = .ok .done ∧
      (annotationRemoved.store.object? .server annotatedServer.key).map Server.core = some sampleServer.core ∧
      sampleServer.spec.annotations.get? "team" = none ∧
      ((Pass.inMemory annotatedServer.key annotationRemoved.store).state.object? .ingress annotatedServer.key).bind
        (fun (o : Ingress) => o.metadata.annotations.bind (·.get? "team")) = some "search" ∧
      ((Pass.inMemory annotatedServer.key (.holding sampleServer)).state.object? .ingress annotatedServer.key).map
        (fun (o : Ingress) => o.metadata.annotations.bind (·.get? "team")) = some none := by
  exact ⟨rfl, by decide, by decide, by decide, by decide⟩

end ServerOperator
