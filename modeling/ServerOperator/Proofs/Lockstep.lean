import ServerOperator.Proofs.Endings

/-!
# Passes in step

What a pass does depends on the versions of objects in one way only: it gives back the version it has just
read. So the same pass makes the same calls, but for versions, on two stores that have the same objects at its
key, and both stay so. The relation between the two programs (`InStep`) remembers what the last call saw, for
a write is only made of what was seen.
-/

namespace ServerOperator

open MemoryStore (Alike handler)

/-! ## Objects but for versions -/

namespace Kind

theorem exists_withVersion {k : Kind} {o o' : k.Object} (h : k.unversioned o = k.unversioned o') :
    ∃ v, o' = k.withVersion o v := by
  refine ⟨(k.metadata o').resourceVersion, ?_⟩
  have hv : k.withVersion (k.unversioned o) (k.metadata o').resourceVersion =
      k.withVersion (k.unversioned o') (k.metadata o').resourceVersion := by rw [h]
  rw [unversioned, unversioned, withVersion_withVersion, withVersion_withVersion, withVersion_self] at hv
  exact hv.symm

theorem withVersion_inj {k : Kind} {o o' : k.Object}
    (h : (k.metadata o).resourceVersion = (k.metadata o').resourceVersion)
    {v : Option String} : k.withVersion o v = k.withVersion o' v ↔ o = o' := by
  refine ⟨fun e => ?_, fun e => by rw [e]⟩
  have hback : k.withVersion (k.withVersion o v) (k.metadata o).resourceVersion =
      k.withVersion (k.withVersion o' v) (k.metadata o).resourceVersion := by rw [e]
  rw [withVersion_withVersion, withVersion_withVersion, withVersion_self, h, withVersion_self] at hback
  exact hback

/-- The object may be stored at the key: a server has to name the key itself. -/
def AtHome (key : Key) : (k : Kind) → k.Object → Prop
  | server, o => Server.key o = key
  | deployment, _ | service, _ | ingress, _ => True

theorem atHome_withVersion {key : Key} {k : Kind} {o : k.Object} (v : Option String) :
    k.AtHome key (k.withVersion o v) ↔ k.AtHome key o := by
  cases k <;> exact Iff.rfl

inductive SameAt (key : Key) (k : Kind) : Option k.Object → Option k.Object → Prop
  | missing : SameAt key k none none
  | found {o : k.Object} (home : k.AtHome key o) (v : Option String) : SameAt key k (some o) (some (k.withVersion o v))

theorem SameAt.of_unversioned {key : Key} {k : Kind} {o o' : k.Object} (home : k.AtHome key o)
    (h : k.unversioned o = k.unversioned o') : k.SameAt key (some o) (some o') := by
  obtain ⟨v, rfl⟩ := exists_withVersion h
  exact .found home v

theorem SameAt.unversioned_eq {key : Key} {k : Kind} {x y : Option k.Object} (h : k.SameAt key x y) :
    x.map k.unversioned = y.map k.unversioned := by
  cases h with
  | missing => rfl
  | found _ v => rw [Option.map_some, Option.map_some, unversioned_withVersion]

end Kind

/-! ## The relation -/

/-- What the last call found of one kind, in one store and in the other. -/
structure Sight where
  kind : Kind
  left : Option kind.Object
  right : Option kind.Object

/-- The programs make the same calls at the key, but for versions, and end with the same value, as long as what
they read is the same but for versions; and each write is made of what was seen. -/
inductive Program.InStep (key : Key) {α : Type} : Option Sight → Program α → Program α → Prop
  | done {seen : Option Sight} (a : α) : InStep key seen (done a) (done a)
  | count {seen : Option Sight} (c : Counter) {p q : Program α} (rest : InStep key seen p q) :
    InStep key seen (count c p) (count c q)
  | get {seen : Option Sight} (k : Kind) {p q : Except StoreFailure (Option k.Object) → Program α}
    (rest : ∀ x y, k.SameAt key x y → InStep key (some ⟨k, x, y⟩) (p (.ok x)) (q (.ok y))) :
    InStep key seen (call (.get k key) p) (call (.get k key) q)
  | create {k : Kind} {o : k.Object} (name : (k.metadata o).name = some key.name) (home : k ≠ .server)
    {p q : Except StoreFailure k.Object → Program α} (rest : ∀ x y, InStep key none (p (.ok x)) (q (.ok y))) :
    InStep key (some ⟨k, none, none⟩) (call (.create k key.space o) p) (call (.create k key.space o) q)
  | replace {k : Kind} {live o : k.Object} (v : Option String) (home : k.AtHome key o)
    (version : (k.metadata o).resourceVersion = (k.metadata live).resourceVersion)
    {p q : Except StoreFailure k.Object → Program α} (rest : ∀ x y, InStep key none (p (.ok x)) (q (.ok y))) :
    InStep key (some ⟨k, some live, some (k.withVersion live v)⟩) (call (.replace k key o) p)
      (call (.replace k key (k.withVersion o v)) q)
  | patchStatus {live live' : Server} (status : ServerStatus) {p q : Except StoreFailure Unit → Program α}
    (rest : InStep key none (p (.ok ())) (q (.ok ()))) :
    InStep key (some ⟨.server, some live, some live'⟩) (call (.patchStatus key status) p)
      (call (.patchStatus key status) q)

namespace Program.InStep

variable {α β : Type} {key : Key} {seen : Option Sight}

theorem bind {p q : Program α} {f g : α → Program β} (h : InStep key seen p q)
    (hf : ∀ a seen, InStep key seen (f a) (g a)) : InStep key seen (p >>= f) (q >>= g) := by
  show InStep key seen (p.bind f) (q.bind g)
  induction h with
  | done a => exact hf a _
  | count c _ ih => exact .count c ih
  | get k _ ih => exact .get k ih
  | create name home _ ih => exact .create name home ih
  | replace v home version _ ih => exact .replace v home version ih
  | patchStatus status _ ih => exact .patchStatus status ih

theorem attempt_bind {x y : Attempt α} {f g : α → Attempt β} (h : InStep key seen x.run y.run)
    (hf : ∀ a seen, InStep key seen (f a).run (g a).run) : InStep key seen (x >>= f).run (y >>= g).run :=
  h.bind fun r seen => by
    cases r with
    | ok a => exact hf a seen
    | error e => exact .done _

theorem lift {p q : Program α} (h : InStep key seen p q) :
    InStep key seen (monadLift p : Attempt α).run (monadLift q : Attempt α).run :=
  h.bind fun a _ => .done (Except.ok a)

theorem get_bind {k : Kind} {place place' : Key} (hplace : place = key) (hplace' : place' = key)
    {error error' : StoreFailure → OperatorError} {f g : Option k.Object → Attempt β}
    (h : ∀ x y, k.SameAt key x y → InStep key (some ⟨k, x, y⟩) (f x).run (g y).run) :
    InStep key seen (Attempt.call (.get k place) error >>= f).run (Attempt.call (.get k place') error' >>= g).run := by
  subst hplace hplace'
  exact .get k h

theorem replace_bind {k : Kind} {live o : k.Object} (v : Option String) (home : k.AtHome key o)
    (version : (k.metadata o).resourceVersion = (k.metadata live).resourceVersion)
    {error error' : StoreFailure → OperatorError} {f g : k.Object → Attempt β}
    (h : ∀ x y, InStep key none (f x).run (g y).run) :
    InStep key (some ⟨k, some live, some (k.withVersion live v)⟩) (Attempt.call (.replace k key o) error >>= f).run
      (Attempt.call (.replace k key (k.withVersion o v)) error' >>= g).run :=
  .replace v home version h

end Program.InStep

/-! ## The parts of a pass -/

section
variable {key : Key} {srv srv' : Server} (hkey : srv.key = key) (hb : srv.bare = srv'.bare) {seen : Option Sight}
include hkey hb

theorem Child.create_inStep {c : Child} {w : c.kind.Object} (hw : c.wanted srv = .ok w) :
    Program.InStep key (some ⟨c.kind, none, none⟩) (c.create srv w).run (c.create srv' w).run := by
  have hname : (c.kind.metadata w).name = some key.name :=
    (c.metadata_of_wanted hw).trans (congrArg (fun key => some key.name) hkey)
  have hspace : srv.space = key.space := congrArg Key.space hkey
  have hspace' : srv'.space = key.space := congrArg Key.space ((Server.key_of_bare hb).symm.trans hkey)
  rw [create, create, hspace, hspace']
  exact .create hname c.kind_ne_server fun _ _ => .count _ (.done _)

theorem Child.update_inStep {c : Child} (live w : c.kind.Object) (v : Option String) :
    Program.InStep key (some ⟨c.kind, some live, some (c.kind.withVersion live v)⟩)
      (c.update srv (c.merge live w)).run (c.update srv' (c.merge (c.kind.withVersion live v) w)).run := by
  have hkey' : srv'.key = key := (Server.key_of_bare hb).symm.trans hkey
  rw [merge_withVersion, update, update, hkey, hkey']
  refine .replace_bind v ?_ ?_ fun _ _ => .count _ (.done _)
  · cases c <;> trivial
  · cases c <;> rfl

theorem Child.apply_inStep (c : Child) : Program.InStep key seen (c.apply srv).run (c.apply srv').run := by
  have hkey' : srv'.key = key := (Server.key_of_bare hb).symm.trans hkey
  cases hw : c.wanted srv with
  | error e =>
    rw [apply, apply, ← Server.wanted_of_bare hb, hw]
    exact .done _
  | ok w =>
    rw [apply, apply, ← Server.wanted_of_bare hb, hw]
    refine Program.InStep.get_bind hkey hkey' fun x y hxy => ?_
    cases hxy with
    | missing => exact create_inStep hkey hb hw
    | @found live _ v =>
      have hsame : c.merge (c.kind.withVersion live v) w = c.kind.withVersion live v ↔ c.merge live w = live := by
        rw [merge_withVersion, Kind.withVersion_inj]
        cases c <;> rfl
      dsimp only
      by_cases e : c.merge live w = live
      · rw [if_pos e, if_pos (hsame.mpr e)]
        exact .done _
      · rw [if_neg e, if_neg (mt hsame.mp e)]
        exact update_inStep hkey hb live w v

theorem forM_apply_inStep : ∀ (cs : List Child) {seen : Option Sight},
    Program.InStep key seen (cs.forM (·.apply srv)).run (cs.forM (·.apply srv')).run
  | [], _ => .done _
  | c :: cs, _ => (c.apply_inStep hkey hb).attempt_bind fun _ _ => forM_apply_inStep cs

theorem Child.readiness_inStep (c : Child) :
    Program.InStep key seen (c.readiness srv).run (c.readiness srv').run := by
  refine Program.InStep.get_bind hkey ((Server.key_of_bare hb).symm.trans hkey) fun x y hxy => ?_
  have hready : c.isReady x = c.isReady y := by
    rw [← c.isReady_unversioned, hxy.unversioned_eq, c.isReady_unversioned]
  show Program.InStep key _ (Program.done (Except.ok (c.isReady x))) (Program.done (Except.ok (c.isReady y)))
  rw [hready]
  exact .done _

theorem Server.readiness_inStep : Program.InStep key seen srv.readiness.run srv'.readiness.run :=
  (Child.deployment.readiness_inStep hkey hb).attempt_bind fun _ _ =>
    (Child.service.readiness_inStep hkey hb).attempt_bind fun _ _ =>
      (Child.ingress.readiness_inStep hkey hb).attempt_bind fun _ _ => .done _

theorem Server.writeStatus_inStep (phase : Phase) (message : String) (r : Readiness) :
    Program.InStep key seen (srv.writeStatus phase message r).run (srv'.writeStatus phase message r).run := by
  have hkey' : srv'.key = key := (Server.key_of_bare hb).symm.trans hkey
  rw [writeStatus, writeStatus, hkey, hkey']
  refine .get .server fun x y hxy => ?_
  cases hxy with
  | missing => exact .done _
  | @found latest _ v =>
    let status := ServerStatus.report phase message r latest.metadata.generation
    -- Neither the status nor the generation is touched by a version.
    let next (srv : Server) : Attempt Unit :=
      if latest.status = some status then Attempt.tally (.statusUpdates "skipped")
      else do
        srv.statusCall phase (.patchStatus key status)
        Attempt.tally (.statusUpdates "written")
    have hnext : Program.InStep key (some ⟨.server, some latest, some (Kind.server.withVersion latest v)⟩)
        (next srv).run (next srv').run := by
      unfold next
      split
      · exact .count _ (.done _)
      · exact .patchStatus status (.count _ (.done _))
    exact hnext

namespace Pass

theorem report_inStep (e : OperatorError) : Program.InStep key seen (report srv e) (report srv' e) :=
  .count _ ((Server.readiness_inStep hkey hb).bind fun _ _ =>
    (Server.writeStatus_inStep hkey hb .failed e.message _).bind fun _ _ => .done _)

theorem reject_inStep {α : Type} (e : OperatorError) :
    Program.InStep key seen (reject srv e : Attempt α).run (reject srv' e : Attempt α).run :=
  (report_inStep hkey hb e).bind fun _ _ => .done _

theorem converge_inStep : Program.InStep key seen (converge srv).run (converge srv').run := by
  refine (forM_apply_inStep hkey hb Child.all).lift.attempt_bind fun r _ => ?_
  cases r with
  | error e =>
    dsimp only
    split
    · exact reject_inStep hkey hb e
    · exact .done _
  | ok u =>
    exact (Server.readiness_inStep hkey hb).attempt_bind fun r _ =>
      (Server.writeStatus_inStep hkey hb r.phase r.message r).attempt_bind fun _ _ => .done _

end Pass

end

theorem Pass.ofServer_inStep {key : Key} {srv : Server} (hkey : srv.key = key) (v : Option String) :
    Program.InStep key (some ⟨.server, some srv, some (Kind.server.withVersion srv v)⟩)
      (ofServer key srv).run (ofServer key (Kind.server.withVersion srv v)).run := by
  obtain ⟨srv', hsrv', hb⟩ : ∃ srv' : Server, srv' = Kind.server.withVersion srv v ∧ srv.bare = srv'.bare :=
    ⟨_, rfl, rfl⟩
  have hvalidate : srv'.validate = srv.validate := by rw [hsrv']; rfl
  have hclosed : srv'.fillDefaults.2 = srv.fillDefaults.2 := (Server.fillDefaults_of_bare hb).2.symm
  rw [← hsrv']
  cases hv : srv.validate with
  | error e =>
    rw [ofServer_of_fault (Server.fault?_eq_some_iff.mpr (.inl hv)),
      ofServer_of_fault (Server.fault?_eq_some_iff.mpr (.inl (hvalidate.trans hv)))]
    exact reject_inStep hkey hb e
  | ok u =>
    cases hd : srv.fillDefaults.2 with
    | false =>
      rw [ofServer_of_complete hv hd, ofServer_of_complete (hvalidate.trans hv) (hclosed.trans hd)]
      exact converge_inStep hkey hb
    | true =>
      have hfilled : srv'.fillDefaults.1 = Kind.server.withVersion srv.fillDefaults.1 v := by rw [hsrv']; rfl
      rw [ofServer_of_open hv hd, ofServer_of_open (hvalidate.trans hv) (hclosed.trans hd), hfilled, hsrv']
      have hhome : Kind.server.AtHome key srv.fillDefaults.1 := hkey
      refine Program.InStep.replace_bind v hhome ?_ fun _ _ => .done _
      rfl

/-- A pass makes the same calls, but for versions, whatever is stored elsewhere. -/
theorem pass_inStep (key : Key) {seen : Option Sight} : Program.InStep key seen (pass key).run (pass key).run := by
  refine Program.InStep.get_bind rfl rfl fun x y hxy => ?_
  cases hxy with
  | missing => exact .done _
  | @found srv home v => exact Pass.ofServer_inStep home v

end ServerOperator
