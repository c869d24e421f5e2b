import ServerOperator.Config
import ServerOperator.Proofs.Synthesis

/-!
# Errors in the log

An error is shown as one line, in which message and causes are quoted while context entries stand as they are. So it
stays on one line exactly if its context entries do; and all of these are fixed words, names and namespaces but one, the
invalid quantity, which is what the user has written without the white space around it.
-/

namespace ServerOperator

open Text (trim quote)

/-! ## Single lines -/

namespace Text

def SingleLine (s : String) : Prop := '\n' ∉ s.toList ∧ '\r' ∉ s.toList

instance (s : String) : Decidable (SingleLine s) := inferInstanceAs (Decidable (_ ∧ _))

theorem singleLine_append {s t : String} : SingleLine (s ++ t) ↔ SingleLine s ∧ SingleLine t := by
  unfold SingleLine
  rw [String.toList_append, List.mem_append, List.mem_append, not_or, not_or]
  exact and_and_and_comm

theorem singleLine_intercalate {sep : String} (hsep : SingleLine sep) : ∀ {l : List String},
    SingleLine (String.intercalate sep l) ↔ ∀ s ∈ l, SingleLine s
  | [] => by simp [SingleLine]
  | [s] => by simp
  | s :: t :: l => by
    rw [String.intercalate_cons_cons, singleLine_append, singleLine_append, singleLine_intercalate hsep,
      and_iff_left hsep, List.forall_mem_cons (l := t :: l)]

theorem not_mem_toDigits {base : Nat} (hbase : 1 < base) {c : Char} (hc : ∀ d, Nat.digitChar d ≠ c) (n : Nat) :
    c ∉ Nat.toDigits base n := by
  induction n using Nat.strongRecOn with
  | ind n ih =>
    rw [Nat.toDigits_eq_if hbase]
    split
    · simpa using (hc n).symm
    · rw [List.mem_append, not_or]
      exact ⟨ih (n / base) (Nat.div_lt_self (by omega) hbase), by simpa using (hc _).symm⟩

theorem singleLine_quoteChar (c : Char) : '\n' ∉ quoteChar c ∧ '\r' ∉ quoteChar c := by
  have hfeed : '\n' ∉ Nat.toDigits 16 c.toNat :=
    not_mem_toDigits (by decide) (fun _ => Nat.digitChar_ne _ (by decide)) _
  have hreturn : '\r' ∉ Nat.toDigits 16 c.toNat :=
    not_mem_toDigits (by decide) (fun _ => Nat.digitChar_ne _ (by decide)) _
  unfold quoteChar
  split_ifs with _ _ hn hr
  iterate 6 · decide
  · simpa using And.intro hfeed hreturn
  · simpa [eq_comm] using And.intro hn hr

/-- Line breaks are written with a letter after a backslash. -/
theorem singleLine_quote (s : String) : SingleLine (quote s) := by
  unfold SingleLine quote
  rw [String.toList_ofList]
  simp [singleLine_quoteChar]

end Text

open Text (SingleLine singleLine_append singleLine_intercalate singleLine_quote)

theorem SortedMap.mem_of_find? {β : Type} {key : String} {value : β} : ∀ {l : List (String × β)},
    find? key l = some value → (key, value) ∈ l
  | (k, v) :: l, h => by
    unfold find? at h
    split at h
    · next hk =>
      cases h
      exact hk ▸ List.mem_cons_self ..
    · exact List.mem_cons_of_mem _ (mem_of_find? h)

structure Key.OneLine (key : Key) : Prop where
  space : SingleLine key.space
  name : SingleLine key.name

/-! ## Context entries -/

namespace OperatorError

def Plain (e : OperatorError) : Prop := ∀ x ∈ e.context.entries, SingleLine x.1 ∧ SingleLine x.2

section
variable {e : OperatorError}

theorem singleLine_contextText_iff : SingleLine e.contextText ↔ e.Plain := by
  have hopening : SingleLine "\x7b" := by decide
  have hclosing : SingleLine "\x7d" := by decide
  have hcomma : SingleLine ", " := by decide
  have hequals : SingleLine "=" := by decide
  rw [contextText, singleLine_append, singleLine_append, singleLine_intercalate hcomma, and_iff_left hclosing,
    and_iff_right hopening, List.forall_mem_map, Plain]
  simp only [singleLine_append, and_iff_left hequals]

theorem singleLine_describe_iff : SingleLine e.describe ↔ e.Plain := by
  have hcode : SingleLine e.code := by
    rw [code]
    cases e.category <;> decide
  have hhead : SingleLine ("code=" ++ e.code ++ " | description=" ++ quote e.category.description ++
      " | message=" ++ quote e.message) := by
    have hdescription : SingleLine " | description=" := by decide
    have hmessage : SingleLine " | message=" := by decide
    simp only [singleLine_append, singleLine_quote, hcode, hdescription, hmessage, and_true]
    decide
  have hcause : ∀ cause, SingleLine (" | cause=" ++ quote cause) := by
    intro cause
    exact singleLine_append.mpr ⟨by decide, singleLine_quote cause⟩
  have hcontext : SingleLine (if e.context.isEmpty then "" else " | context=" ++ e.contextText) ↔ e.Plain := by
    split
    · next h =>
      have hnil : e.context.entries = [] := List.isEmpty_iff.mp h
      simp [Plain, hnil, SingleLine]
    · rw [singleLine_append, singleLine_contextText_iff]
      exact and_iff_right (by decide)
  unfold describe
  rw [singleLine_append, singleLine_append, hcontext, and_iff_right hhead]
  refine and_iff_left ?_
  cases e.cause? with
  | none => decide
  | some cause => exact hcause cause

theorem Plain.withContext (h : e.Plain) {k v : String} (hk : SingleLine k) (hv : SingleLine v) :
    (e.withContext k v).Plain := by
  intro x hx
  rcases SortedMap.mem_place hx with rfl | hx
  · exact ⟨hk, hv⟩
  · exact h x hx

theorem Plain.of_get? (h : e.Plain) {k v : String} (hv : e.context.get? k = some v) : SingleLine v :=
  (h _ (SortedMap.mem_of_find? hv)).2

theorem plain_of_isEmpty (h : e.context = ∅) : e.Plain := by
  unfold Plain
  rw [h]
  exact List.forall_mem_nil _

theorem plain_serverContext {key : Key} (hkey : key.OneLine) (h : e.context = serverContext key.name key.space) :
    e.Plain := by
  obtain ⟨kind, message, context, causes⟩ := e
  cases h
  have hempty : Plain ⟨kind, message, ∅, causes⟩ := plain_of_isEmpty rfl
  exact (hempty.withContext (k := "mcpServer") (by decide) hkey.name).withContext (k := "namespace") (by decide)
    hkey.space

end

end OperatorError

theorem Config.plain_of_validate {c : Config} {e : OperatorError} (h : c.validate = .error e) : e.Plain := by
  have hinvalid : ∀ setting message, SingleLine setting → (invalid setting message).Plain := by
    intro setting message hsetting
    exact (OperatorError.plain_of_isEmpty rfl).withContext (by decide) hsetting
  unfold validate at h
  split_ifs at h
  all_goals
    cases h
    exact hinvalid _ _ (by decide)

/-! ## Faults of a spec -/

namespace Server

variable {s : Server} {e : OperatorError}

theorem plain_of_validate (hkey : s.key.OneLine) (h : s.validate = .error e) : e.Plain := by
  have hcontext : ∀ e : OperatorError, e.context = OperatorError.serverContext s.name s.space → e.Plain :=
    fun e he => OperatorError.plain_serverContext hkey he
  unfold validate at h
  split_ifs at h
  all_goals cases h
  · exact hcontext _ rfl
  · -- The error is made with the entry in place.
    let bare : OperatorError :=
      { kind := .missingIngressPath, message := "ingressPath is required when ingressHost is set"
        context := s.errorContext }
    have hbare : bare.Plain := hcontext bare rfl
    exact hbare.withContext (k := "resource") (v := "ingress") (by decide) (by decide)

theorem quantity_of_resolve {r : Option ResourceRequirements} (h : ResourceRequirements.resolve r = .error e) :
    ∃ f : QuantityField, f.quantity r = .error e := by
  rw [resolve_eq_bind] at h
  rcases Except.bind_eq_error h with h | ⟨_, _, h⟩
  · exact ⟨_, h⟩
  rcases Except.bind_eq_error h with h | ⟨_, _, h⟩
  · exact ⟨_, h⟩
  rcases Except.bind_eq_error h with h | ⟨_, _, h⟩
  · exact ⟨_, h⟩
  rcases Except.bind_eq_error h with h | ⟨_, _, h⟩
  · exact ⟨_, h⟩
  · cases h

/-- Of the two entries that are made for a quantity the field is a fixed word. -/
theorem plain_of_quantity {f : QuantityField} {r : Option ResourceRequirements} (h : f.quantity r = .error e)
    (hvalue : ∀ v, e.context.get? "value" = some v → SingleLine v) : e.Plain := by
  have hpath : SingleLine f.path := by cases f <;> decide
  unfold QuantityField.quantity quantityOr at h
  split at h
  · cases h
  · next q _ =>
    split at h
    · cases h
    · cases h
      have hq : SingleLine q := hvalue q (by rw [OperatorError.get?_withContext, if_pos rfl])
      exact ((OperatorError.plain_of_isEmpty rfl).withContext (by decide) hpath).withContext (by decide) hq

theorem plain_deployment_iff (hkey : s.key.OneLine) (hi : Text.isBlank s.spec.image = false) {f : QuantityField}
    {q : String} (hfirst : QuantityField.all.find? (QuantityField.isInvalid s.spec.resources) = some f)
    (hq : f.given s.spec.resources = some q) (he : s.deployment = .error e) : e.Plain ↔ SingleLine (trim q) := by
  obtain ⟨q', e', hq', he', hnames⟩ := deployment_of_invalid hi hfirst
  cases hq.symm.trans hq'
  cases he.symm.trans he'
  constructor
  · intro h
    exact h.of_get? hnames.value
  · intro h
    unfold deployment at he
    split at he
    · cases he
    next e' hcontainer =>
    cases he
    have hvalue : e'.context.get? "value" = some (trim q) := by
      simpa [OperatorError.get?_withContext] using hnames.value
    have hplain : e'.Plain := by
      rcases container?_eq_error hcontainer with himage | hresolve
      · rw [ServerSpec.resolveImage_eq_error himage]
        exact OperatorError.plain_of_isEmpty rfl
      · obtain ⟨g, hg⟩ := quantity_of_resolve hresolve
        refine plain_of_quantity hg fun v hv => ?_
        cases hvalue.symm.trans hv
        exact h
    exact ((hplain.withContext (by decide) hkey.name).withContext (by decide) hkey.space).withContext (by decide)
      (by decide)

/-- Nothing is wrong with the server but its quantities, and the first invalid one goes over several lines. -/
def SpansLines (s : Server) : Prop :=
  s.validate = .ok () ∧ s.fillDefaults.1 = s ∧
    ∃ f q, QuantityField.all.find? (QuantityField.isInvalid s.spec.resources) = some f ∧
      f.given s.spec.resources = some q ∧ ¬ SingleLine (trim q)

theorem plain_fault_iff (hkey : s.key.OneLine) (h : s.fault? = some e) : e.Plain ↔ ¬ s.SpansLines := by
  rcases fault?_eq_some_iff.mp h with hv | ⟨hv, hd, he⟩
  · refine iff_of_true (plain_of_validate hkey hv) fun hspans => ?_
    cases hv.symm.trans hspans.1
  · have hi : Text.isBlank s.spec.image = false := (validate_eq_ok_iff.mp hv).1
    rcases deployment_cases hi with ⟨_, d, hd'⟩ | ⟨f, q, e', hfirst, hq, he', _⟩
    · cases hd'.symm.trans he
    · rw [plain_deployment_iff hkey hi hfirst hq he]
      constructor
      · rintro hsingle ⟨-, -, g, p, hg, hp, hbreak⟩
        cases hfirst.symm.trans hg
        cases hq.symm.trans hp
        exact hbreak hsingle
      · intro hspans
        by_contra hbreak
        exact hspans ⟨hv, fillDefaults_of_unfilled hd, f, q, hfirst, hq, hbreak⟩

theorem SpansLines.exists_fault (h : s.SpansLines) : ∃ e, s.fault? = some e := by
  obtain ⟨hv, hfilled, f, q, hfirst, -⟩ := h
  obtain ⟨_, e, _, he, _⟩ := deployment_of_invalid (validate_eq_ok_iff.mp hv).1 hfirst
  exact ⟨e, fault?_eq_some_iff.mpr (.inr ⟨hv, fillDefaults_eq_self_iff.mp hfilled, he⟩)⟩

end Server

/-! ## Failed calls -/

namespace Attempt

variable {α β : Type}

def Plainly (x : Attempt α) : Prop :=
  x.FailsFast (fun _ _ => True) fun _ _ _ e => e.Plain ∧ e.isValidation = false

theorem plainly_pure (a : α) : (pure a : Attempt α).Plainly := failsFast_pure trivial

theorem plainly_tally (c : Counter) : (tally c).Plainly := failsFast_tally trivial

theorem plainly_call {c : Call} {error : StoreFailure → OperatorError}
    (h : ∀ f, (error f).Plain ∧ (error f).isValidation = false) : (call c error).Plainly :=
  failsFast_call (fun _ => trivial) h

theorem Plainly.bind {x : Attempt α} {f : α → Attempt β} (hx : x.Plainly) (hf : ∀ a, (f a).Plainly) :
    (x >>= f).Plainly :=
  failsFast_bind hx fun _ a _ => hf a

end Attempt

section
variable {srv : Server}

theorem Child.apply_plainly (c : Child) (hkey : srv.key.OneLine) {w : c.kind.Object} (hw : c.wanted srv = .ok w) :
    (c.apply srv).Plainly := by
  have hfailed : ∀ (operation : String) (f : StoreFailure), SingleLine operation →
      (c.callFailed srv operation f).Plain ∧ (c.callFailed srv operation f).isValidation = false := by
    intro operation f hoperation
    have hresource : SingleLine c.resource := by cases c <;> decide
    have hbase : (f.toError c.errorKind ("Failed to " ++ operation ++ " " ++ c.resource) srv.errorContext).Plain :=
      OperatorError.plain_serverContext hkey rfl
    exact ⟨(hbase.withContext (by decide) hresource).withContext (by decide) hoperation,
      c.isValidation_callFailed srv operation f⟩
  rw [apply, hw]
  show (Attempt.call (.get c.kind srv.key) (c.callFailed srv "get") >>= _).Plainly
  refine (Attempt.plainly_call fun f => hfailed "get" f (by decide)).bind fun live => ?_
  cases live with
  | none =>
    refine (Attempt.plainly_call fun f => hfailed "create" f (by decide)).bind fun _ => ?_
    exact Attempt.plainly_tally _
  | some live =>
    dsimp only
    split
    · exact Attempt.plainly_pure ()
    · refine (Attempt.plainly_call fun f => hfailed "update" f (by decide)).bind fun _ => ?_
      exact Attempt.plainly_tally _

theorem forM_apply_plainly (hkey : srv.key.OneLine) (hw : ∀ c : Child, ∃ w, c.wanted srv = .ok w) :
    ∀ cs : List Child, (cs.forM (·.apply srv)).Plainly
  | [] => Attempt.plainly_pure ()
  | c :: cs => by
    obtain ⟨w, hw'⟩ := hw c
    exact (c.apply_plainly hkey hw').bind fun _ => forM_apply_plainly hkey hw cs

theorem Server.readiness_plainly (hkey : srv.key.OneLine) : srv.readiness.Plainly := by
  have hchild : ∀ c : Child, (c.readiness srv).Plainly := by
    intro c
    have hresource : SingleLine c.resource := by cases c <;> decide
    refine (Attempt.plainly_call fun f => ⟨?_, c.isValidation_readFailed srv f⟩).bind fun _ => Attempt.plainly_pure _
    exact (OperatorError.plain_serverContext hkey rfl).withContext (by decide) hresource
  exact (hchild .deployment).bind fun _ => (hchild .service).bind fun _ => (hchild .ingress).bind fun _ =>
    Attempt.plainly_pure _

theorem Server.writeStatus_plainly (hkey : srv.key.OneLine) (phase : Phase) (message : String) (r : Readiness) :
    (srv.writeStatus phase message r).Plainly := by
  have hcall : ∀ c : Call, (srv.statusCall phase c).Plainly := by
    intro c
    have hphase : SingleLine phase.name := by cases phase <;> decide
    refine statusCall_failsFast (fun _ => trivial) fun f => ⟨?_, rfl⟩
    exact (OperatorError.plain_serverContext hkey rfl).withContext (by decide) hphase
  refine (hcall _).bind fun latest => ?_
  cases latest with
  | none => exact Attempt.plainly_pure ()
  | some latest =>
    dsimp only
    split
    · exact Attempt.plainly_tally _
    · exact (hcall _).bind fun _ => Attempt.plainly_tally _

namespace Pass

theorem converge_plainly (hkey : srv.key.OneLine) (hw : ∀ c : Child, ∃ w, c.wanted srv = .ok w) :
    (converge srv).Plainly := by
  rw [converge]
  refine Attempt.failsFast_caught (forM_apply_plainly hkey hw Child.all) (fun before c f e h => ?_) fun before _ _ => ?_
  · dsimp only
    rw [h.2]
    rfl
  · exact (srv.readiness_plainly hkey).bind fun r => (srv.writeStatus_plainly hkey _ _ r).bind fun _ =>
      Attempt.plainly_pure _

theorem ofServer_plainly {key : Key} (hkey : key.OneLine) (hsrv : srv.key.OneLine) (hf : srv.fault? = none) :
    (ofServer key srv).Plainly := by
  cases hd : srv.fillDefaults.2 with
  | false =>
    rw [ofServer_of_complete (Server.validate_of_fault hf) hd]
    exact converge_plainly hsrv (wanted_of_sound hf hd)
  | true =>
    rw [ofServer_of_open (Server.validate_of_fault hf) hd]
    refine (Attempt.plainly_call fun f => ⟨?_, rfl⟩).bind fun _ => Attempt.plainly_pure _
    exact OperatorError.plain_serverContext hkey rfl

end Pass

end

/-! ## The whole pass -/

theorem Pass.ofServer_lines {key : Key} {srv : Server} (hkey : key.OneLine) (hsrv : srv.key.OneLine) :
    (ofServer key srv).run.Traces fun _ r =>
      ∀ e, r = .error e → (SingleLine e.describe ↔ ¬ srv.SpansLines) := by
  cases hf : srv.fault? with
  | some e =>
    rw [ofServer_of_fault hf]
    refine (reject_traces srv e).imp fun _ r hr e' he => ?_
    cases hr.symm.trans he
    rw [OperatorError.singleLine_describe_iff, Server.plain_fault_iff hsrv hf]
  | none =>
    have hplainly := ofServer_plainly hkey hsrv hf
    have hwithin : ¬ srv.SpansLines := by
      intro h
      obtain ⟨e, he⟩ := h.exists_fault
      cases hf.symm.trans he
    rw [Attempt.Plainly, Attempt.FailsFast] at hplainly
    refine hplainly.imp fun calls r hr e he => ?_
    subst he
    obtain ⟨_, _, _, _, _, hplain, _⟩ := hr
    exact iff_of_true (OperatorError.singleLine_describe_iff.mpr hplain) hwithin

/-- What the text of an error is like depends on the server that was read first. -/
theorem pass_lines {key : Key} (hkey : key.OneLine) : (pass key).run.Traces fun calls r =>
    ∀ answer, calls.head? = some ⟨.get .server key, answer⟩ →
      (∀ srv, answer = .ok (some srv) → srv.key.OneLine) → ∀ e, r = .error e →
        (SingleLine e.describe ↔ ∀ srv, answer = .ok (some srv) → ¬ srv.SpansLines) := by
  rw [pass, ExceptT.run_bind, Program.traces_bind, Attempt.traces_call]
  refine ⟨fun found => ?_, fun f => Program.traces_done.mpr ?_⟩
  · cases found with
    | none =>
      refine Program.traces_done.mpr fun _ _ _ e he => ?_
      cases he
    | some srv =>
      by_cases hsrv : srv.key.OneLine
      · refine (Pass.ofServer_lines hkey hsrv).imp fun calls r hr answer hanswer _ e he => ?_
        cases hanswer
        rw [hr e he]
        simp
      · refine Program.traces_of_forall fun calls r answer hanswer hall => ?_
        cases hanswer
        exact absurd (hall srv rfl) hsrv
  · intro answer hanswer _ e he
    cases hanswer
    cases he
    refine iff_of_true (OperatorError.singleLine_describe_iff.mpr ?_) (by simp)
    exact OperatorError.plain_serverContext hkey rfl

/-- The text of an error is one line, with one exception: the pass of a valid server without open settings whose first
invalid quantity goes over several lines, whatever the store answers. -/
theorem error_is_one_line_iff {σ : Type} (handler : Program.Handler σ) (s : σ) {key : Key} (hkey : key.OneLine)
    (hsrv : ∀ srv, (handler s (.get .server key)).1 = .ok (some srv) → srv.key.OneLine) :
    (∀ (c : Config) (e : OperatorError), c.validate = .error e → SingleLine e.describe) ∧
    ∀ e, ((pass key).run.run handler s).value = .error e →
      (SingleLine e.describe ↔ ∀ srv, (handler s (.get .server key)).1 = .ok (some srv) → ¬ srv.SpansLines) := by
  constructor
  · intro c e he
    exact OperatorError.singleLine_describe_iff.mpr (Config.plain_of_validate he)
  · exact (pass_lines hkey).run s _ rfl hsrv

def lossy : Program.Handler Server := fun srv call =>
  match call with
  | .get .server _ => (.ok (some srv), srv)
  | _ => (.error ⟨"connection\nreset", []⟩, srv)

theorem error_is_one_line_iff_sample : sampleServer.key.OneLine ∧
    ((pass sampleServer.key).run.run lossy sampleServer).value =
      .error (Child.deployment.callFailed sampleServer "get" ⟨"connection\nreset", []⟩) ∧
    SingleLine (Child.deployment.callFailed sampleServer "get" ⟨"connection\nreset", []⟩).describe := by
  have hkey : sampleServer.key.OneLine := ⟨by decide, by decide⟩
  have hsrv : ∀ srv, (lossy sampleServer (.get .server sampleServer.key)).1 = .ok (some srv) →
      srv.key.OneLine ∧ ¬ srv.SpansLines := by
    intro srv h
    cases h
    refine ⟨hkey, fun ⟨_, _, f, q, hfirst, _⟩ => ?_⟩
    have hvalid : QuantityField.all.find? (QuantityField.isInvalid sampleServer.spec.resources) = none := by decide
    cases hvalid.symm.trans hfirst
  refine ⟨hkey, rfl, ?_⟩
  exact ((error_is_one_line_iff lossy sampleServer hkey fun srv h => (hsrv srv h).1).2 _ rfl).mpr
    fun srv h => (hsrv srv h).2

def forgingServer : Server :=
  { sampleServer with spec := { sampleServer.spec with
      resources := some { requests := some { cpu := some "1\nINFO all servers are ready" } } } }

theorem quantity_breaks_line : ∃ e,
    (Pass.inMemory forgingServer.key (sampleStore.put .server forgingServer.key forgingServer)).value = .error e ∧
    ¬ SingleLine e.describe := by
  refine ⟨_, rfl, fun h => ?_⟩
  have hvalue := (OperatorError.singleLine_describe_iff.mp h).of_get? (k := "value") rfl
  revert hvalue
  decide

end ServerOperator
