import Ambassador.Handlers

set_option autoImplicit false

namespace Ambassador
open Value

section
-- `str.isdigit`, which also accepts non-ASCII digits
variable (isDigit : String → Bool)

/-- `for attr in ['targetPort', 'name', 'port']`: found key, fallback, and last lookup. -/
def scanAttrs (epPorts : PyDict Value) (port : Value) :
    List String → Bool → Value → Value → Except PyError (Bool × Value × Value)
  | [],foundKey,fallback,target => .ok (foundKey,fallback,target)
  | attr :: attrs,foundKey,fallback,target => do
    let portKey ← port.getD attr .none
    if !portKey.truthy then scanAttrs epPorts port attrs foundKey fallback target
    else
      let fallback :=
        if !fallback.truthy && !portKey.isStr "name" && isDigit portKey.pyStr then portKey
        else fallback
      let target := (epPorts.find? (.str portKey.pyStr)).getD .none
      if target.truthy then .ok (true,fallback,target)
      else scanAttrs epPorts port attrs true fallback target

/-- One pass of `for port in k8s_svc['ports']`, or nothing when it ends in `continue`. -/
def resolvePort (epPorts : PyDict Value) (port : Value) : Except PyError (Option (Value × Value)) := do
  let srcPort ← port.getD "port" .none
  if !srcPort.truthy then return none
  if epPorts.entries.length == 1 then
    return some (srcPort,(epPorts.values.head?).getD .none)
  let (foundKey,fallback,target) ← scanAttrs isDigit epPorts port ["targetPort","name","port"] false .none .none
  if !foundKey then return none
  return some (srcPort,if target.truthy then target else fallback.or srcPort)

def addTargetPort (epPorts targetPorts : PyDict Value) (port : Value) :
    Except PyError (PyDict Value) := do
  match ← resolvePort isDigit epPorts port with
  | Option.none => pure targetPorts
  | some (srcPort,target) => targetPorts.set srcPort target

/-- `target_ports` after the loop over the service's port specs. -/
def targetPortsOf (epPorts : PyDict Value) (ports : List Value) : Except PyError (PyDict Value) :=
  ports.foldlM (addTargetPort isDigit epPorts) PyDict.empty

def targetAddrsOf (ep : K8sEndpoint) : List Value :=
  ep.addresses.filterMap fun a => a.ip.filter Value.truthy

/-- The `Service` object `finalize` writes for the `k8s_services` entry `key`. -/
def resolvedService (ambassadorId : String) (k8sSvc : K8sService)
    (targetPorts : PyDict Value) (targetAddrs : List Value) : Value :=
  .dict [(.str "apiVersion",.str "ambassador/v1"),(.str "ambassador_id",.str ambassadorId),
    (.str "kind",.str "Service"),(.str "name",k8sSvc.name),(.str "namespace",k8sSvc.nspace),
    (.str "endpoints",.dict (targetPorts.entries.map fun (srcPort,targetPort) =>
      (srcPort,.list (targetAddrs.map fun addr => .dict [(.str "ip",addr),(.str "port",targetPort)]))))]

/-- `target_ports` and `target_addrs` as the endpoint block of `finalize` leaves them. -/
def serviceTargets (k8sSvc : K8sService) : Option K8sEndpoint →
    Except PyError (PyDict Value × List Value)
  | some ep =>
    if ep.ports.entries.isEmpty then .ok (PyDict.empty,[])
    else do pure (← targetPortsOf isDigit ep.ports (← k8sSvc.ports.iter),targetAddrsOf ep)
  | Option.none => .ok (PyDict.empty,[])

/-- The body of `finalize`'s loop over `self.k8s_services` for the entry `key`. -/
def resolveService (ambassadorId : String) (key : Value) (k8sSvc : K8sService)
    (k8sEp : Option K8sEndpoint) : Except PyError Value :=
  (serviceTargets isDigit k8sSvc k8sEp).map fun (targetPorts,targetAddrs) =>
    resolvedService ambassadorId k8sSvc targetPorts (if targetAddrs.isEmpty then [key] else targetAddrs)

end

def k8sServiceKey (name nspace : Value) : String := "k8s-" ++ name.pyStr ++ "-" ++ nspace.pyStr

variable (env : Env)

def resolveServices (eps : PyDict K8sEndpoint) (entries : List (Value × K8sService)) : Py Unit :=
  entries.forM fun (key,k8sSvc) => do
    let svc ← liftExcept (resolveService env.isDigit env.ambassadorId key k8sSvc (eps.find? key))
    setService (.str (k8sServiceKey k8sSvc.name k8sSvc.nspace)) svc

def appendServices (entries : List (Value × Value)) : Py Unit :=
  entries.forM fun (key,svc) =>
    match env.fromDictError key svc with
    | Option.none => appendElement ⟨key,key,svc⟩
    | some msg => throw (.exception msg)

/-- `finalize`. -/
def finalize : Py Unit := do
  let s ← get
  resolveServices env s.k8sEndpoints s.k8sServices.entries
  appendServices env (← get).services.entries

variable {env}

theorem resolveServices_frame (eps : PyDict K8sEndpoint) (entries : List (Value × K8sService))
    (t : Fetcher) : ∃ services, final (resolveServices env eps entries t) = { t with services } := by
  induction entries generalizing t with
  | nil => exact ⟨t.services,rfl⟩
  | cons e entries ih =>
    obtain ⟨key,k8sSvc⟩ := e
    simp only [resolveServices,List.forM_cons',run_bind,run_liftExcept] at ih ⊢
    cases resolveService env.isDigit env.ambassadorId key k8sSvc (eps.find? key) with
    | error e => exact ⟨t.services,rfl⟩
    | ok svc =>
      simp only [run_setService]
      cases t.services.set _ svc with
      | error e => exact ⟨t.services,rfl⟩
      | ok d =>
        obtain ⟨services,h⟩ := ih { t with services := d }
        exact ⟨services,by simpa using h⟩

theorem appendServices_ok {entries : List (Value × Value)} {t t' : Fetcher}
    (h : appendServices env entries t = .ok () t') :
    t' = { t with elements := t.elements ++ entries.map fun kv => ⟨kv.1,kv.1,kv.2⟩ } := by
  induction entries generalizing t with
  | nil => cases h; simp
  | cons e entries ih =>
    obtain ⟨key,svc⟩ := e
    simp only [appendServices,List.forM_cons',run_bind] at h ih
    cases hf : env.fromDictError key svc with
    | some msg => simp [hf] at h
    | none =>
      simp only [hf,run_appendElement] at h
      rw [ih h]
      simp

theorem resolveServices_keys {eps : PyDict K8sEndpoint} {entries : List (Value × K8sService)}
    {t t' : Fetcher} (h : resolveServices env eps entries t = .ok () t') :
    (∀ k ∈ t.services.keys, k ∈ t'.services.keys) ∧
    ∀ kv ∈ entries, Value.str (k8sServiceKey kv.2.name kv.2.nspace) ∈ t'.services.keys := by
  induction entries generalizing t with
  | nil => cases h; exact ⟨fun _ hk => hk,by simp⟩
  | cons e entries ih =>
    obtain ⟨key,k8sSvc⟩ := e
    simp only [resolveServices,List.forM_cons',run_bind,run_liftExcept] at h ih
    cases hr : resolveService env.isDigit env.ambassadorId key k8sSvc (eps.find? key) with
    | error e => simp [hr] at h
    | ok svc =>
      simp only [hr,run_setService] at h
      cases hset : t.services.set (.str (k8sServiceKey k8sSvc.name k8sSvc.nspace)) svc with
      | error e => simp [hset] at h
      | ok d =>
        obtain ⟨hk,rfl⟩ := PyDict.set_eq_ok hset
        simp only [hset] at h
        obtain ⟨hsub,hmem⟩ := ih h
        refine ⟨fun k hk' => hsub k (PyDict.keys_insert_subset _ _ hk _ k hk'),?_⟩
        intro kv hkv
        rcases List.mem_cons.1 hkv with rfl | hkv
        · exact hsub _ (PyDict.str_mem_keys_insert _ _ hk _)
        · exact hmem kv hkv

theorem finalize_run (s : Fetcher) : finalize env s =
    match resolveServices env s.k8sEndpoints s.k8sServices.entries s with
    | .ok _ t => appendServices env t.services.entries t
    | .error e t => .error e t := by
  simp only [finalize,run_bind,run_get]
  generalize resolveServices env s.k8sEndpoints s.k8sServices.entries s = r
  cases r <;> rfl

/-- When `finalize` returns, it has appended one resource per entry of the resolved `services`,
which holds the key of every stashed Kubernetes service. -/
theorem finalize_ok {s s' : Fetcher} (h : finalize env s = .ok () s') :
    s'.elements = s.elements ++ s'.services.entries.map (fun kv => ⟨kv.1,kv.1,kv.2⟩) ∧
    ∀ kv ∈ s.k8sServices.entries,
      Value.str (k8sServiceKey kv.2.name kv.2.nspace) ∈ s'.services.keys := by
  rw [finalize_run] at h
  obtain ⟨services,hr⟩ := @resolveServices_frame env s.k8sEndpoints s.k8sServices.entries s
  cases hres : resolveServices env s.k8sEndpoints s.k8sServices.entries s with
  | error e t => rw [hres] at h; cases h
  | ok u t =>
    rw [hres] at h hr
    simp only at h
    have hk := (resolveServices_keys hres).2
    obtain rfl := appendServices_ok h
    simp only [final_ok] at hr
    subst hr
    exact ⟨rfl,hk⟩

end Ambassador
