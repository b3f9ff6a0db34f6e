/-
External names across resources.  `Create` names the Orchard VM after the
resource's `metadata.name` and records that as the resource's external name;
every other call (`Observe` with its SSH sessions, `Update`, `Delete`) addresses
the VM by the external name.  Several resources reconciled against one Orchard
server form a state machine whose runs are any interleaving of their reconciles.
The server is modelled by what the controller relies on: one VM per name, and a
`POST` for a name it holds answered with 409.  Each VM also keeps, for the
statements only, the resource whose `Create` made it.
-/
import ProviderOrchard.ReadyCondition

namespace ProviderOrchard

def errCreateVM : Bytes := lit "cannot create VM"
def errUpdateVM : Bytes := lit "cannot update VM"
def errDeleteVM : Bytes := lit "cannot delete VM"

/-- `meta.SetExternalName`. -/
def VM.setExternalName (cr : VM) (name : Bytes) : VM :=
  { cr with metadata := { cr.metadata with externalName := name } }

/-- `external.Create`, with Orchard's answer to `POST /vms` for each VM name: the
external name is set before the request, and 409 counts as success. -/
def create (cr : VM) (post : Bytes → Except GoError Nat) : Reconciled (Option GoError) :=
  let vmName := cr.metadata.name
  let cr := cr.setExternalName vmName
  match post vmName with
  | .error err => ⟨some (err.wrap errCreateVM), cr, [.postVms vmName]⟩
  | .ok code =>
      if code ≠ 200 ∧ code ≠ 201 ∧ code ≠ 409 then
        ⟨some (.new (lit "unexpected status code creating VM: " ++ fmtInt code)), cr,
          [.postVms vmName]⟩
      else ⟨none, cr, [.postVms vmName]⟩

/-- `external.Update`, with Orchard's answer to `PUT /vms/{name}`. -/
def update (cr : VM) (put : Bytes → Except GoError Nat) : Reconciled (Option GoError) :=
  let vmName := cr.metadata.externalName
  if vmName = [] then ⟨some (.new (lit "external name not set")), cr, []⟩
  else
    match put vmName with
    | .error err => ⟨some (err.wrap errUpdateVM), cr, [.putVmsName vmName]⟩
    | .ok code =>
        if code ≠ 200 ∧ code ≠ 204 then
          ⟨some (.new (lit "unexpected status code updating VM: " ++ fmtInt code)), cr,
            [.putVmsName vmName]⟩
        else ⟨none, cr, [.putVmsName vmName]⟩

/-- `external.Delete`, with Orchard's answer to `DELETE /vms/{name}`; 404 counts
as success. -/
def delete (cr : VM) (del : Bytes → Except GoError Nat) : Reconciled (Option GoError) :=
  let vmName := cr.metadata.externalName
  if vmName = [] then ⟨none, cr, []⟩
  else
    match del vmName with
    | .error err => ⟨some (err.wrap errDeleteVM), cr, [.deleteVmsName vmName]⟩
    | .ok code =>
        if code ≠ 200 ∧ code ≠ 204 ∧ code ≠ 404 then
          ⟨some (.new (lit "unexpected status code deleting VM: " ++ fmtInt code)), cr,
            [.deleteVmsName vmName]⟩
        else ⟨none, cr, [.deleteVmsName vmName]⟩

theorem create_vm (cr : VM) (post : Bytes → Except GoError Nat) :
    (create cr post).vm = cr.setExternalName cr.metadata.name ∧
      (create cr post).calls = [.postVms cr.metadata.name] := by
  unfold create
  dsimp only
  split
  · exact ⟨rfl, rfl⟩
  · split <;> exact ⟨rfl, rfl⟩

/-- `update` and `delete` leave the resource alone and address its external name,
when it has one. -/
theorem update_vm (cr : VM) (put : Bytes → Except GoError Nat) :
    (update cr put).vm = cr ∧ ∀ call ∈ (update cr put).calls,
      call = .putVmsName cr.metadata.externalName ∧ cr.metadata.externalName ≠ [] := by
  unfold update
  dsimp only
  split
  · exact ⟨rfl, fun _ h => nomatch h⟩
  · rename_i hname
    split
    · exact ⟨rfl, by simpa using hname⟩
    · split <;> exact ⟨rfl, by simpa using hname⟩

theorem delete_vm (cr : VM) (del : Bytes → Except GoError Nat) :
    (delete cr del).vm = cr ∧ ∀ call ∈ (delete cr del).calls,
      call = .deleteVmsName cr.metadata.externalName ∧ cr.metadata.externalName ≠ [] := by
  unfold delete
  dsimp only
  split
  · exact ⟨rfl, fun _ h => nomatch h⟩
  · rename_i hname
    split
    · exact ⟨rfl, by simpa using hname⟩
    · split <;> exact ⟨rfl, by simpa using hname⟩

/-- The Orchard VM a call addresses. -/
def ExternalCall.target : ExternalCall → Bytes
  | .getVmsName name | .getVmsNameIp name | .postVms name | .putVmsName name
  | .deleteVmsName name => name
  | .sshProbe config | .uploadAndRunScript config _ _ => config.vmName

theorem executeCloudInit_targets (c : External) (env : ObserveEnv) (cr : VM)
    (script : VMStartupScript) :
    ∀ call ∈ (executeCloudInit c env cr script).calls, call.target = cr.metadata.externalName := by
  rcases executeCloudInit_cases c env cr script with ⟨-, hr⟩ | ⟨-, -, hcalls, -⟩
  · rw [hr]
    simp [ExternalCall.target, External.buildTunnelConfig]
  · rw [hcalls]
    simp [ExternalCall.target, External.buildTunnelConfig]

theorem handleCloudInit_targets (c : External) (env : ObserveEnv) (cr : VM) :
    ∀ call ∈ (handleCloudInit c env cr).calls, call.target = cr.metadata.externalName := by
  rcases handleCloudInit_cases c env cr with
    ⟨-, hr⟩ | ⟨-, hr⟩ | ⟨-, hr⟩ | ⟨-, hr⟩ | ⟨script, -, -, -, hr⟩ <;> rw [hr]
  all_goals first
    | exact fun _ h => absurd h (List.not_mem_nil _)
    | exact executeCloudInit_targets c env cr script

/-- `Observe` keeps the resource's metadata. -/
theorem observe_metadata (c : External) (env : ObserveEnv) (cr : VM) :
    (observe c env cr).vm.metadata = cr.metadata := by
  rcases observe_cases c env cr with ⟨-, hr⟩ | ⟨-, err, -, hr⟩ | ⟨-, resp, -, -, hvm, -⟩
  · rw [hr]
  · rw [hr]
  rw [hvm]
  rcases handleObserveResponse_cases c env resp cr cr.metadata.externalName with
    ⟨-, hr⟩ | ⟨-, err, -, hr⟩ | ⟨-, vm, -, -, hr⟩ | ⟨-, vm, -, -, hr⟩ | ⟨-, -, hr⟩ <;> rw [hr]
  · rcases observeRunning_cases c env (updateVMStatus cr vm) cr.metadata.externalName vm with
      ⟨-, hr'⟩ | ⟨-, -, -, hvm', -⟩
    · rw [hr']
      exact (updateVMStatus_frame cr vm).1
    · rw [hvm', (handleCloudInit_frame c env _).2.2.2]
      exact (updateVMStatus_frame cr vm).1
  · exact (updateVMStatus_frame cr vm).1

/-- Every call of an `Observe` addresses the resource's external name, and
`Observe` makes none while that name is empty. -/
theorem observe_targets (c : External) (env : ObserveEnv) (cr : VM) :
    ∀ call ∈ (observe c env cr).calls,
      call.target = cr.metadata.externalName ∧ cr.metadata.externalName ≠ [] := by
  rcases observe_cases c env cr with ⟨-, hr⟩ | ⟨hname, err, -, hr⟩ | ⟨hname, resp, -, -, -, hcalls⟩
  · rw [hr]
    exact fun _ h => absurd h (List.not_mem_nil _)
  · rw [hr]
    simp [ExternalCall.target, hname]
  rw [hcalls]
  intro call hcall
  refine ⟨?_, hname⟩
  rcases List.mem_cons.mp hcall with rfl | hcall
  · rfl
  rcases handleObserveResponse_cases c env resp cr cr.metadata.externalName with
    ⟨-, hr⟩ | ⟨-, err, -, hr⟩ | ⟨-, vm, -, -, hr⟩ | ⟨-, vm, -, -, hr⟩ | ⟨-, -, hr⟩ <;>
    rw [hr] at hcall <;> try exact absurd hcall (List.not_mem_nil _)
  rcases observeRunning_cases c env (updateVMStatus cr vm) cr.metadata.externalName vm with
    ⟨-, hr'⟩ | ⟨-, -, -, -, hcalls'⟩
  · rw [hr'] at hcall
    rcases List.mem_singleton.mp hcall with rfl
    rfl
  · rw [hcalls'] at hcall
    rcases List.mem_cons.mp hcall with rfl | hcall
    · rfl
    · rw [handleCloudInit_targets c env _ call hcall]
      exact congrArg ObjectMeta.externalName (updateVMStatus_frame cr vm).1

/-- A resource's key: its namespace and name. -/
structure ResourceKey where
  «namespace» : Bytes
  name : Bytes
  deriving DecidableEq, Repr

def VM.key (cr : VM) : ResourceKey := ⟨cr.metadata.«namespace», cr.metadata.name⟩

/-- A VM Orchard holds: its name, and the resource whose `Create` made it. -/
structure OrchardEntry where
  name : Bytes
  creator : ResourceKey
  deriving DecidableEq, Repr

/-- Whether Orchard holds a VM of this name. -/
def holds (vms : List OrchardEntry) (name : Bytes) : Bool := vms.any fun e => e.name = name

/-- Orchard's state after serving a call made for `creator`'s reconcile. -/
def serve (creator : ResourceKey) (vms : List OrchardEntry) : ExternalCall → List OrchardEntry
  | .postVms name => if holds vms name then vms else vms ++ [⟨name, creator⟩]
  | .deleteVmsName name => vms.filter fun e => e.name ≠ name
  | _ => vms

/-- The resources and the VMs of one Orchard controller. -/
structure Cluster where
  resources : List VM
  vms : List OrchardEntry
  deriving DecidableEq

/-- One reconcile of the resource at `index`: `Observe` (against any answers),
`Create`, `Update` or `Delete` (answered by the server). -/
inductive ClusterStep
  | observe (index : Nat) (env : ObserveEnv)
  | create (index : Nat)
  | update (index : Nat)
  | delete (index : Nat)

def ClusterStep.index : ClusterStep → Nat
  | .observe i _ | .create i | .update i | .delete i => i

/-- The reconcile a step runs, with the answers Orchard gives in state `vms`. -/
def ClusterStep.reconcile (c : External) (vms : List OrchardEntry) (cr : VM) :
    ClusterStep → Reconciled (Option GoError)
  | .observe _ env =>
      let r := ProviderOrchard.observe c env cr
      ⟨r.value.2, r.vm, r.calls⟩
  | .create _ => ProviderOrchard.create cr fun name => .ok (if holds vms name then 409 else 201)
  | .update _ => ProviderOrchard.update cr fun name => .ok (if holds vms name then 200 else 404)
  | .delete _ => ProviderOrchard.delete cr fun name => .ok (if holds vms name then 200 else 404)

/-- What a step leaves: the cluster, the calls it made and the reconcile's error. -/
structure ClusterOutcome where
  cluster : Cluster
  requests : List ExternalCall
  error : Option GoError

def ClusterStep.apply (c : External) (cl : Cluster) (s : ClusterStep) : ClusterOutcome :=
  match cl.resources[s.index]? with
  | none => ⟨cl, [], none⟩
  | some cr =>
      let r := s.reconcile c cl.vms cr
      ⟨⟨cl.resources.set s.index r.vm, r.calls.foldl (serve cr.key) cl.vms⟩, r.calls, r.value⟩

/-- A run of steps, in any interleaving of the resources. -/
def runCluster (c : External) (cl : Cluster) : List ClusterStep → Cluster
  | [] => cl
  | s :: steps => runCluster c (s.apply c cl).cluster steps

/-- A resource's external name is unset or its own name. -/
def NamedAfterItself (cr : VM) : Prop :=
  cr.metadata.externalName = [] ∨ cr.metadata.externalName = cr.metadata.name

/-- Every resource is named after itself, and every VM after the resource that made it. -/
def Cluster.Consistent (cl : Cluster) : Prop :=
  (∀ cr ∈ cl.resources, NamedAfterItself cr) ∧ ∀ e ∈ cl.vms, e.creator.name = e.name

instance (cl : Cluster) : Decidable cl.Consistent :=
  inferInstanceAs (Decidable ((∀ cr ∈ cl.resources, _ ∨ _) ∧ ∀ e ∈ cl.vms, _))

theorem ClusterStep.reconcile_named (c : External) (vms : List OrchardEntry) {cr : VM}
    (h : NamedAfterItself cr) (s : ClusterStep) :
    NamedAfterItself (s.reconcile c vms cr).vm ∧
      (s.reconcile c vms cr).vm.metadata.name = cr.metadata.name := by
  cases s with
  | observe _ env =>
      show NamedAfterItself (ProviderOrchard.observe c env cr).vm ∧
        (ProviderOrchard.observe c env cr).vm.metadata.name = cr.metadata.name
      unfold NamedAfterItself
      rw [observe_metadata]
      exact ⟨h, rfl⟩
  | create _ =>
      rw [ClusterStep.reconcile, (create_vm cr _).1]
      exact ⟨.inr rfl, rfl⟩
  | update _ =>
      rw [ClusterStep.reconcile, (update_vm cr _).1]
      exact ⟨h, rfl⟩
  | delete _ =>
      rw [ClusterStep.reconcile, (delete_vm cr _).1]
      exact ⟨h, rfl⟩

/-- Every call of a reconcile of a resource named after itself addresses its name. -/
theorem ClusterStep.reconcile_targets (c : External) (vms : List OrchardEntry) {cr : VM}
    (h : NamedAfterItself cr) (s : ClusterStep) :
    ∀ call ∈ (s.reconcile c vms cr).calls, call.target = cr.metadata.name := by
  have hnamed : cr.metadata.externalName ≠ [] → cr.metadata.externalName = cr.metadata.name :=
    h.resolve_left
  intro call hcall
  cases s with
  | observe _ env =>
      obtain ⟨htarget, hname⟩ := observe_targets c env cr call hcall
      exact htarget.trans (hnamed hname)
  | create _ =>
      rw [ClusterStep.reconcile, (create_vm cr _).2, List.mem_singleton] at hcall
      rw [hcall]
      rfl
  | update _ =>
      obtain ⟨rfl, hname⟩ := (update_vm cr _).2 call hcall
      exact hnamed hname
  | delete _ =>
      obtain ⟨rfl, hname⟩ := (delete_vm cr _).2 call hcall
      exact hnamed hname

theorem serve_creators {creator : ResourceKey} {vms : List OrchardEntry}
    (h : ∀ e ∈ vms, e.creator.name = e.name) {call : ExternalCall}
    (hcall : call.target = creator.name) :
    ∀ e ∈ serve creator vms call, e.creator.name = e.name := by
  cases call with
  | postVms name =>
      show ∀ e ∈ (if holds vms name then vms else vms ++ [⟨name, creator⟩]), _
      split
      · exact h
      · intro e he
        rcases List.mem_append.mp he with he | he
        · exact h e he
        · rw [List.mem_singleton.mp he]
          exact hcall.symm
  | deleteVmsName name => exact fun e he => h e (List.mem_filter.mp he).1
  | _ => exact h

theorem foldl_serve_creators {creator : ResourceKey} {calls : List ExternalCall}
    (hcalls : ∀ call ∈ calls, call.target = creator.name) {vms : List OrchardEntry}
    (h : ∀ e ∈ vms, e.creator.name = e.name) :
    ∀ e ∈ calls.foldl (serve creator) vms, e.creator.name = e.name := by
  induction calls generalizing vms with
  | nil => exact h
  | cons call calls ih =>
      exact ih (fun c hc => hcalls c (List.mem_cons_of_mem call hc))
        (serve_creators h (hcalls call (List.mem_cons_self call calls)))

/-- Every step keeps every resource named after itself and every VM named after
its creator. -/
theorem ClusterStep.apply_consistent (c : External) {cl : Cluster} (h : cl.Consistent)
    (s : ClusterStep) : (s.apply c cl).cluster.Consistent := by
  unfold ClusterStep.apply
  split
  · exact h
  · rename_i cr hcr
    have hnamed := h.1 cr (List.getElem?_mem hcr)
    refine ⟨fun cr' hcr' => ?_, foldl_serve_creators ?_ h.2⟩
    · rcases List.mem_or_eq_of_mem_set hcr' with hcr' | rfl
      · exact h.1 cr' hcr'
      · exact (s.reconcile_named c cl.vms hnamed).1
    · exact s.reconcile_targets c cl.vms hnamed

theorem runCluster_consistent (c : External) {cl : Cluster} (h : cl.Consistent)
    (steps : List ClusterStep) : (runCluster c cl steps).Consistent := by
  induction steps generalizing cl with
  | nil => exact h
  | cons s steps ih => exact ih (s.apply_consistent c h)

/-- Along every interleaving of reconciles from a cluster whose resources are
named after themselves (new resources have no external name): they stay so, and
every call a later reconcile of a resource makes addresses that resource's own
`metadata.name`, so the only VMs it can reach are those created by resources of
the same name, in whatever namespace. -/
theorem reconciles_reach_only_same_named_vms (c : External) (cl : Cluster)
    (hcl : cl.Consistent) (steps : List ClusterStep) :
    (runCluster c cl steps).Consistent ∧
      ∀ (s : ClusterStep) (cr : VM), (runCluster c cl steps).resources[s.index]? = some cr →
        ∀ call ∈ (s.apply c (runCluster c cl steps)).requests,
          call.target = cr.metadata.name ∧
            ∀ e ∈ (runCluster c cl steps).vms, e.name = call.target →
              e.creator.name = cr.metadata.name := by
  have hrun := runCluster_consistent c hcl steps
  refine ⟨hrun, fun s cr hcr call hcall => ?_⟩
  have hnamed := hrun.1 cr (List.getElem?_mem hcr)
  rw [ClusterStep.apply, hcr] at hcall
  have htarget := s.reconcile_targets c _ hnamed call hcall
  exact ⟨htarget, fun e he hname => (hrun.2 e he).trans (hname.trans htarget)⟩

/-- A resource named `vm` in namespace `ns`, not created yet. -/
def sameNameVM (ns : Bytes) : VM :=
  VM.new ⟨lit "vm", ns, [], none⟩ ⟨lit "image", none, none, none, none, none⟩

/-- Two resources of one name in two namespaces, and no VM yet. -/
def twoNamespaces : Cluster := ⟨[sameNameVM (lit "team-a"), sameNameVM (lit "team-b")], []⟩

theorem reconciles_reach_only_same_named_vms_two_namespaces :
    twoNamespaces.Consistent ∧
      ((runCluster exampleExternal twoNamespaces [.create 0]).Consistent ∧
        ∀ (s : ClusterStep) (cr : VM),
          (runCluster exampleExternal twoNamespaces [.create 0]).resources[s.index]? = some cr →
          ∀ call ∈ (s.apply exampleExternal (runCluster exampleExternal twoNamespaces [.create 0])).requests,
            call.target = cr.metadata.name ∧
              ∀ e ∈ (runCluster exampleExternal twoNamespaces [.create 0]).vms, e.name = call.target →
                e.creator.name = cr.metadata.name) :=
  ⟨by decide, reconciles_reach_only_same_named_vms exampleExternal twoNamespaces (by decide) [.create 0]⟩

/-- Team B's `Create` meets team A's VM: Orchard answers 409 and `Create`
succeeds, both resources now carry the external name `vm`, and team B's `Delete`
removes team A's VM. -/
theorem create_accepts_other_resources_vm :
    (runCluster exampleExternal twoNamespaces [.create 0]).vms =
        [⟨lit "vm", ⟨lit "team-a", lit "vm"⟩⟩] ∧
      ((ClusterStep.create 1).apply exampleExternal
        (runCluster exampleExternal twoNamespaces [.create 0])).error = none ∧
      (runCluster exampleExternal twoNamespaces [.create 0, .create 1]).resources.map
        (·.metadata.externalName) = [lit "vm", lit "vm"] ∧
      ((ClusterStep.delete 1).apply exampleExternal
        (runCluster exampleExternal twoNamespaces [.create 0, .create 1])).cluster.vms = [] := by
  decide

end ProviderOrchard
