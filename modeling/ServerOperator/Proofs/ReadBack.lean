import ServerOperator.Kind
import ServerOperator.Proofs.Reading

/-!
# Objects are read back as they were written

Reading undoes writing for the objects of all kinds. In particular what the operator has no use for is still there
when an object that it has updated is read again.
-/

namespace ServerOperator

open Json

theorem TypeTag.check_ok {t : TypeTag} {o : Fields} (hversion : o.values "apiVersion" = [.string t.apiVersion])
    (hkind : o.values "kind" = [.string t.kind]) : t.check o = .ok () := by
  have hexact (s : String) : asExactly s (.string s) = .ok () := if_pos rfl
  refine bind_of_ok (Fields.member?_of_values hversion (hexact _)) ?_
  exact bind_of_ok (Fields.member?_of_values hkind (hexact _)) rfl

theorem Json.undoes_asReference : Undoes asReference reference := fun name => by
  refine bind_of_ok rfl ?_
  exact Fields.filled_of_value undoes_asText nofun (a := name) (by simp)

theorem Json.undoes_asQuantity : Undoes asQuantity .string := fun _ => rfl

-- With `nofun` in its place a record would be written out in full to see that it is not `null`.
theorem Json.object_ne_null {o : Fields} : object o ≠ .null := nofun

/-! ## Deployments -/

theorem ContainerPort.undoes : Undoes ofJson? toJson := fun p => by
  refine bind_of_ok rfl ?_
  refine bind_of_ok (Fields.optional_of_member undoes_asText nofun (a := p.name) (by simp)) ?_
  refine bind_of_ok (Fields.filled_of_value undoes_asInt32 nofun (a := p.containerPort) (by simp)) ?_
  refine bind_of_ok (Fields.optional_of_member undoes_asText nofun (a := p.hostIP) (by simp)) ?_
  refine bind_of_ok (Fields.optional_of_member undoes_asInt32 nofun (a := p.hostPort) (by simp)) ?_
  exact bind_of_ok (Fields.optional_of_member undoes_asText nofun (a := p.protocol) (by simp)) rfl

theorem KeySelector.undoes : Undoes ofJson? toJson := fun s => by
  refine bind_of_ok rfl ?_
  refine bind_of_ok (Fields.filled_of_value undoes_asText nofun (a := s.key) (by simp)) ?_
  refine bind_of_ok (Fields.filled_of_value undoes_asText nofun (a := s.name) (by simp)) ?_
  exact bind_of_ok (Fields.optional_of_member undoes_asBool nofun (a := s.isOptional) (by simp)) rfl

theorem FieldSelector.undoes : Undoes ofJson? toJson := fun s => by
  refine bind_of_ok rfl ?_
  refine bind_of_ok (Fields.optional_of_member undoes_asText nofun (a := s.apiVersion) (by simp)) ?_
  exact bind_of_ok (Fields.filled_of_value undoes_asText nofun (a := s.fieldPath) (by simp)) rfl

theorem ResourceSelector.undoes : Undoes ofJson? toJson := fun s => by
  refine bind_of_ok rfl ?_
  refine bind_of_ok (Fields.optional_of_member undoes_asText nofun (a := s.containerName) (by simp)) ?_
  refine bind_of_ok (Fields.optional_of_member undoes_asQuantity nofun (a := s.divisor) (by simp)) ?_
  exact bind_of_ok (Fields.filled_of_value undoes_asText nofun (a := s.resource) (by simp)) rfl

theorem EnvSource.undoes : Undoes ofJson? toJson := fun s => by
  refine bind_of_ok rfl ?_
  refine bind_of_ok (Fields.optional_of_member KeySelector.undoes (fun _ => object_ne_null) (a := s.configMapKey)
    (by simp)) ?_
  refine bind_of_ok (Fields.optional_of_member FieldSelector.undoes (fun _ => object_ne_null) (a := s.field)
    (by simp)) ?_
  refine bind_of_ok (Fields.optional_of_member ResourceSelector.undoes (fun _ => object_ne_null) (a := s.resourceField)
    (by simp)) ?_
  exact bind_of_ok (Fields.optional_of_member KeySelector.undoes (fun _ => object_ne_null) (a := s.secretKey)
    (by simp)) rfl

theorem ContainerEnv.undoes : Undoes ofJson? toJson := fun e => by
  refine bind_of_ok rfl ?_
  refine bind_of_ok (Fields.filled_of_value undoes_asText nofun (a := e.name) (by simp)) ?_
  refine bind_of_ok (Fields.optional_of_member undoes_asText nofun (a := e.value) (by simp)) ?_
  exact bind_of_ok (Fields.optional_of_member EnvSource.undoes (fun _ => object_ne_null) (a := e.valueFrom)
    (by simp)) rfl

theorem ContainerResources.undoes : Undoes ofJson? toJson := fun r => by
  refine bind_of_ok rfl ?_
  refine bind_of_ok (Fields.optional_of_member (undoes_asMap undoes_asQuantity) nofun (a := r.requests) (by simp)) ?_
  refine bind_of_ok (Fields.optional_of_member (undoes_asMap undoes_asQuantity) nofun (a := r.limits) (by simp)) ?_
  exact bind_of_ok (Fields.optional_of_member (undoes_asList undoes_asReference) nofun (a := r.claims) (by simp)) rfl

theorem Container.undoes : Undoes ofJson? toJson := fun c => by
  refine bind_of_ok rfl ?_
  refine bind_of_ok (Fields.filled_of_value undoes_asText nofun (a := c.name) (by simp)) ?_
  refine bind_of_ok (Fields.optional_of_member undoes_asText nofun (a := c.image) (by simp)) ?_
  refine bind_of_ok (Fields.optional_of_member (undoes_asList undoes_asText) nofun (a := c.command) (by simp)) ?_
  refine bind_of_ok (Fields.optional_of_member (undoes_asList undoes_asText) nofun (a := c.args) (by simp)) ?_
  refine bind_of_ok (Fields.optional_of_member undoes_asText nofun (a := c.terminationMessagePath) (by simp)) ?_
  refine bind_of_ok (Fields.optional_of_member (undoes_asList ContainerPort.undoes) nofun (a := c.ports) (by simp)) ?_
  refine bind_of_ok (Fields.optional_of_member (undoes_asList ContainerEnv.undoes) nofun (a := c.env) (by simp)) ?_
  refine bind_of_ok (Fields.optional_of_member ContainerResources.undoes (fun _ => object_ne_null) (a := c.resources)
    (by simp)) ?_
  refine congrArg (fun foreign => Except.ok { c with foreign }) (c.foreign.ofFields_append ?_)
  simp

theorem PodSpec.undoes : Undoes ofJson? toJson := fun p => by
  have containers := undoes_asList Container.undoes
  refine bind_of_ok rfl ?_
  refine bind_of_ok (Fields.optional_of_member undoes_asText nofun (a := p.serviceAccountName) (by simp)) ?_
  refine bind_of_ok (Fields.optional_of_member undoes_asText nofun (a := p.restartPolicy) (by simp)) ?_
  refine bind_of_ok (Fields.optional_of_member (undoes_asMap undoes_asText) nofun (a := p.nodeSelector) (by simp)) ?_
  refine bind_of_ok (Fields.optional_of_member (undoes_asList undoes_asReference) nofun (a := p.imagePullSecrets)
    (by simp)) ?_
  refine bind_of_ok (Fields.optional_of_member containers nofun (a := p.initContainers) (by simp)) ?_
  refine bind_of_ok (Fields.filled_of_value containers nofun (a := p.containers) (by simp)) ?_
  refine congrArg (fun foreign => Except.ok { p with foreign }) (p.foreign.ofFields_append ?_)
  simp

theorem PodTemplate.undoes : Undoes ofJson? toJson := fun t => by
  refine bind_of_ok rfl ?_
  refine bind_of_ok (Fields.optional_of_member Metadata.undoes (fun _ => object_ne_null) (a := t.metadata) (by simp)) ?_
  exact bind_of_ok (Fields.optional_of_member PodSpec.undoes (fun _ => object_ne_null) (a := t.spec) (by simp)) rfl

theorem LabelSelector.undoes : Undoes ofJson? toJson := fun s => by
  refine bind_of_ok rfl ?_
  refine bind_of_ok (Fields.optional_of_member (undoes_asMap undoes_asText) nofun (a := s.matchLabels) (by simp)) ?_
  refine congrArg (fun foreign => Except.ok { s with foreign }) (s.foreign.ofFields_append ?_)
  simp

theorem DeploymentStrategy.undoes : Undoes ofJson? toJson := fun s => by
  refine bind_of_ok rfl ?_
  refine bind_of_ok (Fields.optional_of_member undoes_asText nofun (a := s.type) (by simp)) ?_
  refine congrArg (fun foreign => Except.ok { s with foreign }) (s.foreign.ofFields_append ?_)
  simp

theorem DeploymentSpec.undoes : Undoes ofJson? toJson := fun s => by
  refine bind_of_ok rfl ?_
  refine bind_of_ok (Fields.optional_of_member undoes_asInt32 nofun (a := s.replicas) (by simp)) ?_
  refine bind_of_ok (Fields.filled_of_value LabelSelector.undoes (fun _ => object_ne_null) (a := s.selector)
    (by simp)) ?_
  refine bind_of_ok (Fields.optional_of_member undoes_asInt32 nofun (a := s.minReadySeconds) (by simp)) ?_
  refine bind_of_ok (Fields.optional_of_member undoes_asBool nofun (a := s.paused) (by simp)) ?_
  refine bind_of_ok (Fields.optional_of_member undoes_asInt32 nofun (a := s.progressDeadlineSeconds) (by simp)) ?_
  refine bind_of_ok (Fields.optional_of_member undoes_asInt32 nofun (a := s.revisionHistoryLimit) (by simp)) ?_
  refine bind_of_ok (Fields.optional_of_member DeploymentStrategy.undoes (fun _ => object_ne_null) (a := s.strategy)
    (by simp)) ?_
  exact bind_of_ok (Fields.filled_of_value PodTemplate.undoes (fun _ => object_ne_null) (a := s.template) (by simp)) rfl

theorem DeploymentStatus.undoes : Undoes ofJson? toJson := fun s => by
  refine bind_of_ok rfl ?_
  refine bind_of_ok (Fields.optional_of_member undoes_asInt32 nofun (a := s.replicas) (by simp)) ?_
  refine bind_of_ok (Fields.optional_of_member undoes_asInt32 nofun (a := s.readyReplicas) (by simp)) ?_
  refine bind_of_ok (Fields.optional_of_member undoes_asInt32 nofun (a := s.availableReplicas) (by simp)) ?_
  refine bind_of_ok (Fields.optional_of_member undoes_asInt32 nofun (a := s.unavailableReplicas) (by simp)) ?_
  refine bind_of_ok (Fields.optional_of_member undoes_asInt32 nofun (a := s.updatedReplicas) (by simp)) ?_
  refine bind_of_ok (Fields.optional_of_member undoes_asInt64 nofun (a := s.observedGeneration) (by simp)) ?_
  refine bind_of_ok (Fields.optional_of_member undoes_asInt32 nofun (a := s.collisionCount) (by simp)) ?_
  refine congrArg (fun foreign => Except.ok { s with foreign }) (s.foreign.ofFields_append ?_)
  simp

theorem Deployment.undoes : Undoes ofJson? toJson := fun d => by
  refine bind_of_ok rfl ?_
  refine bind_of_ok (TypeTag.check_ok (by simp) (by simp)) ?_
  refine bind_of_ok (Fields.filled_of_value Metadata.undoes (fun _ => object_ne_null) (a := d.metadata) (by simp)) ?_
  refine bind_of_ok (Fields.optional_of_member DeploymentSpec.undoes (fun _ => object_ne_null) (a := d.spec)
    (by simp)) ?_
  exact bind_of_ok (Fields.optional_of_member DeploymentStatus.undoes (fun _ => object_ne_null) (a := d.status)
    (by simp)) rfl

/-! ## Services -/

theorem TargetPort.undoes : Undoes ofJson? toJson := fun p => by
  cases p with
  | number n => exact congrArg (Except.map number) (undoes_asInt32 n)
  | name s => rfl

theorem ServicePort.undoes : Undoes ofJson? toJson := fun p => by
  have htarget (t : TargetPort) : t.toJson ≠ .null := by cases t <;> nofun
  refine bind_of_ok rfl ?_
  refine bind_of_ok (Fields.optional_of_member undoes_asText nofun (a := p.name) (by simp)) ?_
  refine bind_of_ok (Fields.filled_of_value undoes_asInt32 nofun (a := p.port) (by simp)) ?_
  refine bind_of_ok (Fields.optional_of_member TargetPort.undoes htarget (a := p.targetPort) (by simp)) ?_
  refine bind_of_ok (Fields.optional_of_member undoes_asInt32 nofun (a := p.nodePort) (by simp)) ?_
  refine bind_of_ok (Fields.optional_of_member undoes_asText nofun (a := p.protocol) (by simp)) ?_
  exact bind_of_ok (Fields.optional_of_member undoes_asText nofun (a := p.appProtocol) (by simp)) rfl

theorem ServiceSpec.undoes : Undoes ofJson? toJson := fun s => by
  refine bind_of_ok rfl ?_
  refine bind_of_ok (Fields.optional_of_member undoes_asText nofun (a := s.type) (by simp)) ?_
  refine bind_of_ok (Fields.optional_of_member undoes_asText nofun (a := s.clusterIP) (by simp)) ?_
  refine bind_of_ok (Fields.optional_of_member (undoes_asList undoes_asText) nofun (a := s.clusterIPs) (by simp)) ?_
  refine bind_of_ok (Fields.optional_of_member undoes_asText nofun (a := s.sessionAffinity) (by simp)) ?_
  refine bind_of_ok (Fields.optional_of_member undoes_asText nofun (a := s.externalName) (by simp)) ?_
  refine bind_of_ok (Fields.optional_of_member (undoes_asMap undoes_asText) nofun (a := s.selector) (by simp)) ?_
  refine bind_of_ok (Fields.optional_of_member (undoes_asList ServicePort.undoes) nofun (a := s.ports) (by simp)) ?_
  refine congrArg (fun foreign => Except.ok { s with foreign }) (s.foreign.ofFields_append ?_)
  simp

section
variable {names : List String} (hip : "ip" ∉ names) (hhostname : "hostname" ∉ names)
include hip hhostname

theorem LoadBalancerAddress.undoes : Undoes (@ofJson? names) toJson := fun a => by
  refine bind_of_ok rfl ?_
  refine bind_of_ok (Fields.optional_of_member undoes_asText nofun (a := a.ip) (by simp [hip])) ?_
  refine bind_of_ok (Fields.optional_of_member undoes_asText nofun (a := a.hostname) (by simp [hhostname])) ?_
  refine congrArg (fun foreign => Except.ok { a with foreign }) (a.foreign.ofFields_append fun key hkey => ?_)
  have hkey : "hostname" ≠ key ∧ "ip" ≠ key := ⟨fun e => hhostname (e ▸ hkey), fun e => hip (e ▸ hkey)⟩
  simp [hkey]

theorem LoadBalancer.undoes : Undoes (@ofJson? names) toJson := fun b => by
  refine bind_of_ok rfl ?_
  exact bind_of_ok (Fields.optional_of_member (undoes_asList (LoadBalancerAddress.undoes hip hhostname)) nofun
    (a := b.ingress) (by simp)) rfl

end

theorem ServiceStatus.undoes : Undoes ofJson? toJson := fun s => by
  refine bind_of_ok rfl ?_
  refine bind_of_ok (Fields.optional_of_member (LoadBalancer.undoes (by decide) (by decide)) nofun
    (a := s.loadBalancer) (by simp)) ?_
  refine congrArg (fun foreign => Except.ok { s with foreign }) (s.foreign.ofFields_append ?_)
  simp

theorem Service.undoes : Undoes ofJson? toJson := fun s => by
  refine bind_of_ok rfl ?_
  refine bind_of_ok (TypeTag.check_ok (by simp) (by simp)) ?_
  refine bind_of_ok (Fields.filled_of_value Metadata.undoes (fun _ => object_ne_null) (a := s.metadata) (by simp)) ?_
  refine bind_of_ok (Fields.optional_of_member ServiceSpec.undoes (fun _ => object_ne_null) (a := s.spec) (by simp)) ?_
  exact bind_of_ok (Fields.optional_of_member ServiceStatus.undoes (fun _ => object_ne_null) (a := s.status)
    (by simp)) rfl

/-! ## Ingresses -/

theorem ObjectReference.undoes : Undoes ofJson? toJson := fun r => by
  refine bind_of_ok rfl ?_
  refine bind_of_ok (Fields.optional_of_member undoes_asText nofun (a := r.apiGroup) (by simp)) ?_
  refine bind_of_ok (Fields.filled_of_value undoes_asText nofun (a := r.kind) (by simp)) ?_
  exact bind_of_ok (Fields.filled_of_value undoes_asText nofun (a := r.name) (by simp)) rfl

theorem BackendPort.undoes : Undoes Backend.portOf Backend.portToJson := fun p => by
  refine bind_of_ok rfl ?_
  refine bind_of_ok (Fields.optional_of_member undoes_asText nofun (a := p.name) (by simp)) ?_
  exact bind_of_ok (Fields.optional_of_member undoes_asInt32 nofun (a := p.number) (by simp)) rfl

theorem ServiceBackend.undoes : Undoes Backend.serviceOf Backend.serviceToJson := fun s => by
  refine bind_of_ok rfl ?_
  refine bind_of_ok (Fields.filled_of_value undoes_asText nofun (a := s.name) (by simp)) ?_
  exact bind_of_ok (Fields.optional_of_member BackendPort.undoes (fun _ => object_ne_null) (a := s.port) (by simp)) rfl

theorem Backend.undoes : Undoes ofJson? toJson := fun b => by
  refine bind_of_ok rfl ?_
  refine bind_of_ok (Fields.optional_of_member ServiceBackend.undoes (fun _ => object_ne_null) (a := b.service)
    (by simp)) ?_
  exact bind_of_ok (Fields.optional_of_member ObjectReference.undoes (fun _ => object_ne_null) (a := b.resource)
    (by simp)) rfl

theorem IngressPath.undoes : Undoes ofJson? toJson := fun p => by
  refine bind_of_ok rfl ?_
  refine bind_of_ok (Fields.optional_of_member undoes_asText nofun (a := p.path) (by simp)) ?_
  refine bind_of_ok (Fields.filled_of_value undoes_asText nofun (a := p.pathType) (by simp)) ?_
  exact bind_of_ok (Fields.filled_of_value Backend.undoes (fun _ => object_ne_null) (a := p.backend) (by simp)) rfl

theorem IngressRule.undoes_paths : Undoes pathsOf pathsToJson := fun paths => by
  refine bind_of_ok rfl ?_
  exact Fields.filled_of_value (undoes_asList IngressPath.undoes) nofun (a := paths) (by simp)

theorem IngressRule.undoes : Undoes ofJson? toJson := fun r => by
  refine bind_of_ok rfl ?_
  refine bind_of_ok (Fields.optional_of_member undoes_asText nofun (a := r.host) (by simp)) ?_
  exact bind_of_ok (Fields.optional_of_member undoes_paths (fun _ => object_ne_null) (a := r.http) (by simp)) rfl

theorem IngressTls.undoes : Undoes ofJson? toJson := fun t => by
  refine bind_of_ok rfl ?_
  refine bind_of_ok (Fields.optional_of_member (undoes_asList undoes_asText) nofun (a := t.hosts) (by simp)) ?_
  exact bind_of_ok (Fields.optional_of_member undoes_asText nofun (a := t.secretName) (by simp)) rfl

theorem IngressSpec.undoes : Undoes ofJson? toJson := fun s => by
  refine bind_of_ok rfl ?_
  refine bind_of_ok (Fields.optional_of_member undoes_asText nofun (a := s.ingressClassName) (by simp)) ?_
  refine bind_of_ok (Fields.optional_of_member (undoes_asList IngressTls.undoes) nofun (a := s.tls) (by simp)) ?_
  refine bind_of_ok (Fields.optional_of_member Backend.undoes (fun _ => object_ne_null) (a := s.defaultBackend)
    (by simp)) ?_
  exact bind_of_ok (Fields.optional_of_member (undoes_asList IngressRule.undoes) nofun (a := s.rules) (by simp)) rfl

theorem IngressStatus.undoes : Undoes ofJson? toJson := fun s => by
  refine bind_of_ok rfl ?_
  exact bind_of_ok (Fields.optional_of_member (LoadBalancer.undoes (by decide) (by decide)) nofun
    (a := s.loadBalancer) (by simp)) rfl

theorem Ingress.undoes : Undoes ofJson? toJson := fun i => by
  refine bind_of_ok rfl ?_
  refine bind_of_ok (TypeTag.check_ok (by simp) (by simp)) ?_
  refine bind_of_ok (Fields.filled_of_value Metadata.undoes (fun _ => object_ne_null) (a := i.metadata) (by simp)) ?_
  refine bind_of_ok (Fields.optional_of_member IngressSpec.undoes (fun _ => object_ne_null) (a := i.spec) (by simp)) ?_
  exact bind_of_ok (Fields.optional_of_member IngressStatus.undoes (fun _ => object_ne_null) (a := i.status)
    (by simp)) rfl

/-! ## All kinds -/

theorem Kind.undoes (k : Kind) : Undoes k.ofJson? k.toJson := by
  cases k with
  | server => exact Server.undoes
  | deployment => exact Deployment.undoes
  | service => exact Service.undoes
  | ingress => exact Ingress.undoes

end ServerOperator
