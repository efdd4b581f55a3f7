import Ambassador.Process

set_option autoImplicit false

namespace Ambassador

namespace Value

/-- `v.lower()` and `v.upper()`: only a string has them. -/
def lower : Value → Except PyError String
  | .str s => .ok (lowerStr s)
  | _ => .error .attributeError

def upper : Value → Except PyError String
  | .str s => .ok (upperStr s)
  | _ => .error .attributeError

def isNone : Value → Bool
  | .none => true
  | _ => false

/-- `x.get(key, None)` kept only when `is not None`. -/
def getNotNone (v : Value) (key : String) : Except PyError (Option Value) :=
  (v.get key).map fun r => r.filter fun x => !x.isNone

/-- `m.get(key, default) if m else None`, the way the handlers read `metadata`. -/
def getIf (m : Value) (key : String) (default : Value) : Except PyError Value :=
  if m.truthy then m.getD key default else .ok .none

end Value

/-- `Optional[Tuple[str, List[AnyDict]]]`: an identifier and the objects to parse. -/
abbrev HandlerResult := Option (String × List Value)

def EndpointAddress.isEmpty (a : EndpointAddress) : Bool :=
  a.ip.isNone && a.node.isNone && a.targetKind.isNone && a.targetName.isNone &&
    a.targetNamespace.isNone

/-- The dict `handle_k8s_endpoints` builds from one entry of `subset['addresses']`. -/
def endpointAddress (address : Value) : Except PyError EndpointAddress := do
  let ip ← address.getNotNone "ip"
  let node ← address.getNotNone "nodeName"
  match ← address.getNotNone "targetRef" with
  | Option.none => pure ⟨ip,node,none,none,none⟩
  | some targetRef =>
    pure ⟨ip,node,← targetRef.getNotNone "kind",← targetRef.getNotNone "name",
      ← targetRef.getNotNone "namespace"⟩

def subsetAddresses (subset : Value) : Except PyError (List EndpointAddress) := do
  let addresses ← (← subset.getD "addresses" (.list [])).iter
  let addrs ← addresses.mapM endpointAddress
  pure (addrs.filter fun a => !a.isEmpty)

/-- One port of a subset added to `port_dict`: a TCP port under `str(port)` and its name. -/
def addPort (portDict : PyDict Value) (port : Value) : Except PyError (PyDict Value) := do
  let portName ← port.getD "name" .none
  let portNumber ← port.getD "port" .none
  let portProto ← (← port.getD "protocol" (.str "TCP")).upper
  if portProto != "TCP" then return portDict
  if portNumber.isNone then return portDict
  let portDict ← portDict.set (.str portNumber.pyStr) portNumber
  if portName.truthy then portDict.set portName portNumber else pure portDict

def subsetPorts (ports : Value) : Except PyError (PyDict Value) := do
  (← ports.iter).foldlM addPort PyDict.empty

def setK8sEndpoint (key : String) (entry : K8sEndpoint) : Py Unit :=
  modify fun s => { s with k8sEndpoints := s.k8sEndpoints.insert (.str key) rfl entry }

def setK8sService (key : String) (entry : K8sService) : Py Unit :=
  modify fun s => { s with k8sServices := s.k8sServices.insert (.str key) rfl entry }

/-- The addresses and port map one subset stores, when neither is empty. -/
def subsetEntry (subset : Value) : Except PyError (Option (List EndpointAddress × PyDict Value)) := do
  let addresses ← subsetAddresses subset
  if addresses.isEmpty then return none
  let portDict ← subsetPorts (← subset.getD "ports" (.list []))
  if portDict.entries.isEmpty then return none
  return some (addresses,portDict)

/-- The loop over `resource_subsets`. -/
def storeSubsets (resourceIdentifier : String) (resourceName resourceNamespace : Value)
    (subsets : List Value) : Py Unit :=
  subsets.forM fun subset => do
    match ← liftExcept (subsetEntry subset) with
    | none => pure ()
    | some (addresses,portDict) =>
      setK8sEndpoint resourceIdentifier ⟨resourceName,resourceNamespace,addresses,portDict⟩

/-- When the subset loop returns, the identifier's entry holds the last subset with addresses
and ports, or is left as it was; every earlier subset is lost. -/
theorem storeSubsets_last (key : String) (name nspace : Value) (subsets : List Value)
    (t t' : Fetcher) (h : storeSubsets key name nspace subsets t = .ok () t') :
    ∃ stored : List (Option (List EndpointAddress × PyDict Value)),
      subsets.mapM subsetEntry = .ok stored ∧
      t' = { t with k8sEndpoints := match (stored.filterMap id).getLast? with
        | none => t.k8sEndpoints
        | some (addresses,ports) =>
          t.k8sEndpoints.insert (.str key) rfl ⟨name,nspace,addresses,ports⟩ } := by
  induction subsets generalizing t with
  | nil => cases h; exact ⟨[],rfl,rfl⟩
  | cons sub subs ih =>
    simp only [storeSubsets,List.forM_cons',run_bind,run_liftExcept] at h ih
    cases hse : subsetEntry sub with
    | error e => simp [hse] at h
    | ok r =>
      cases r with
      | none =>
        simp only [hse,run_pure] at h
        obtain ⟨stored,hm,rfl⟩ := ih t h
        exact ⟨none :: stored,by rw [List.mapM_cons,hse,hm]; rfl,by simp⟩
      | some e =>
        simp only [hse,setK8sEndpoint,run_modify] at h
        obtain ⟨stored,hm,rfl⟩ := ih _ h
        refine ⟨some e :: stored,by rw [List.mapM_cons,hse,hm]; rfl,?_⟩
        simp only [List.filterMap_cons,id,List.getLast?_cons]
        cases (stored.filterMap id).getLast? <;> simp [PyDict.insert_insert]

def twoSubsets : List Value :=
  [.dict [(.str "addresses",.list [.dict [(.str "ip",.str "10.0.0.1")]]),
    (.str "ports",.list [.dict [(.str "port",.int 8080)]])],
  .dict [(.str "addresses",.list [.dict [(.str "ip",.str "10.0.0.2")]]),
    (.str "ports",.list [.dict [(.str "port",.int 9090)]])]]

def twoSubsetsStored : Fetcher :=
  { Fetcher.init with k8sEndpoints := (PyDict.empty.insert (.str "web.default") rfl
      ⟨.str "web",.str "default",[⟨some (.str "10.0.0.2"),none,none,none,none⟩],
        PyDict.empty.insert (.str "9090") rfl (.int 9090)⟩) }

theorem storeSubsets_last_web :
    storeSubsets "web.default" (.str "web") (.str "default") twoSubsets Fetcher.init =
      .ok () twoSubsetsStored ∧
    ∃ stored : List (Option (List EndpointAddress × PyDict Value)),
      twoSubsets.mapM subsetEntry = .ok stored ∧
      twoSubsetsStored = { Fetcher.init with k8sEndpoints := match (stored.filterMap id).getLast? with
        | none => Fetcher.init.k8sEndpoints
        | some (addresses,ports) =>
          Fetcher.init.k8sEndpoints.insert (.str "web.default") rfl
            ⟨.str "web",.str "default",addresses,ports⟩ } :=
  ⟨rfl,storeSubsets_last "web.default" (.str "web") (.str "default") twoSubsets Fetcher.init
    twoSubsetsStored rfl⟩

variable (env : Env)

/-- `handle_k8s_endpoints`. -/
def handleK8sEndpoints (obj : Value) : Py HandlerResult := do
  if !env.enableEndpoints then return none
  let metadata ← liftExcept (obj.getD "metadata" .none)
  let resourceName ← liftExcept (metadata.getIf "name" .none)
  let resourceNamespace ← liftExcept (metadata.getIf "namespace" (.str "default"))
  let resourceSubsets ← liftExcept (obj.getD "subsets" .none)
  if !metadata.truthy || !resourceName.truthy || !resourceSubsets.truthy then return none
  let resourceIdentifier := resourceName.pyStr ++ "." ++ resourceNamespace.pyStr
  storeSubsets resourceIdentifier resourceName resourceNamespace (← liftExcept resourceSubsets.iter)
  return none

/-- `self.filename += ":annotation"` unless it is `None` or already ends so. -/
def annotateFilename : Py Unit := do
  let s ← get
  match s.filename with
  | .none => pure ()
  | .str f =>
    if ":annotation".data.isSuffixOf f.data then pure ()
    else set { s with filename := .str (f ++ ":annotation") }
  | _ => throw .attributeError

/-- `parse_yaml` from `utils`: the YAML library reads only a string. -/
def loadYamlValue (v : Value) : Except PyError (List Value) :=
  match v with
  | .str text => match env.loadYaml text with
    | .ok objects => .ok objects
    | .error msg => .error (.yamlError msg)
  | _ => .error .attributeError

/-- `handle_k8s_service`. -/
def handleK8sService (obj : Value) : Py HandlerResult := do
  let metadata ← liftExcept (obj.getD "metadata" .none)
  let resourceName ← liftExcept (metadata.getIf "name" .none)
  let resourceNamespace ← liftExcept (metadata.getIf "namespace" (.str "default"))
  let annotations ← liftExcept (metadata.getIf "annotations" .none)
  let annotations ← liftExcept (if annotations.truthy then
    annotations.getD "getambassador.io/config" .none else .ok annotations)
  if !metadata.truthy || !resourceName.truthy ||
      (env.singleNamespace && !resourceNamespace.isStr env.ambassadorNamespace) then
    return none
  let resourceIdentifier := resourceName.pyStr ++ "." ++ resourceNamespace.pyStr
  let spec ← liftExcept (obj.getD "spec" .none)
  let ports ← liftExcept (spec.getIf "ports" .none)
  if spec.truthy && ports.truthy then
    setK8sService resourceIdentifier ⟨resourceName,resourceNamespace,ports⟩
  if !annotations.truthy then return some (resourceIdentifier,[])
  annotateFilename
  let objects ← tryCatch (liftExcept (loadYamlValue env annotations)) fun
    | .yamlError _ => pure []
    | e => throw e
  return some (resourceIdentifier,objects)

/-- `handle_k8s_secret`. -/
def handleK8sSecret (obj : Value) : Py HandlerResult := liftExcept do
  let secretType ← obj.getD "type" .none
  let metadata ← obj.getD "metadata" .none
  let resourceName ← metadata.getIf "name" .none
  let resourceNamespace ← metadata.getIf "namespace" (.str "default")
  let data ← obj.getD "data" .none
  if (!secretType.isStr "kubernetes.io/tls" && !secretType.isStr "Opaque") || !data.truthy ||
      !metadata.truthy || !resourceName.truthy ||
      (env.singleNamespace && !resourceNamespace.isStr env.ambassadorNamespace) then
    return none
  let resourceIdentifier := resourceName.pyStr ++ "." ++ resourceNamespace.pyStr
  let tlsCrt ← data.getD "tls.crt" .none
  let tlsKey ← data.getD "tls.key" .none
  if !tlsCrt.truthy && !tlsKey.truthy then return none
  let secretInfo : List (Value × Value) :=
    [(.str "apiVersion",.str "ambassador/v1"),(.str "ambassador_id",.str env.ambassadorId),
      (.str "kind",.str "Secret"),(.str "name",resourceName),(.str "namespace",resourceNamespace)] ++
    (if tlsCrt.truthy then [(.str "tls_crt",tlsCrt)] else []) ++
    (if tlsKey.truthy then [(.str "tls_key",tlsKey)] else [])
  return some (resourceIdentifier,[.dict secretInfo])

/-- One Consul endpoint, or `None` for one missing its address or port. -/
def consulEndpoint (ep : Value) : Except PyError (Option Value) := do
  let epAddr ← ep.getD "Address" .none
  let epPort ← ep.getD "Port" .none
  if !epAddr.truthy || !epPort.truthy then
    let _ ← ep.getItem "ID"
    return none
  return some (.dict [(.str "ip",epAddr),(.str "port",epPort),(.str "target_kind",.str "Consul")])

def consulServiceKey (name datacenter : Value) : String :=
  "consul-" ++ name.pyStr ++ "-" ++ datacenter.pyStr

/-- `handle_consul_service`. -/
def handleConsulService (consulRkey consulObject : Value) : Py HandlerResult := do
  let endpoints ← liftExcept (consulObject.getD "Endpoints" (.list []))
  let name ← liftExcept (consulObject.getD "Service" consulRkey)
  if (← liftExcept endpoints.len) < 1 then return none
  let datacenter := (← liftExcept (consulObject.getD "Id" .none)).or (.str "dc1")
  let eps ← liftExcept (do ((← endpoints.iter).mapM consulEndpoint))
  let eps := eps.filterMap id
  let svc : Value := .dict [(.str "apiVersion",.str "ambassador/v1"),
    (.str "ambassador_id",.str env.ambassadorId),(.str "kind",.str "Service"),(.str "name",name),
    (.str "datacenter",datacenter),
    (.str "endpoints",.dict (if eps.isEmpty then [] else [(.str "*",.list eps)]))]
  setService (.str (consulServiceKey name datacenter)) svc
  return none

/-- `handle_k8s_crd`. -/
def handleK8sCrd (obj : Value) : Py HandlerResult := do
  let kind ← liftExcept (obj.getD "kind" .none)
  if !kind.truthy then return none
  let apiVersion ← liftExcept (obj.getD "apiVersion" .none)
  let metadata := (← liftExcept (obj.getD "metadata" .none)).or (.dict [])
  let name ← liftExcept (metadata.getD "name" .none)
  let nspace := (← liftExcept (metadata.getD "namespace" .none)).or (.str "default")
  let spec := (← liftExcept (obj.getD "spec" .none)).or (.dict [])
  if !name.truthy then return none
  if !apiVersion.truthy then return none
  let resourceIdentifier := name.pyStr ++ "." ++ nspace.pyStr
  let ambObject ← liftExcept (do
    let d ← PyDict.ofValue spec
    let d ← d.set (.str "apiVersion") apiVersion
    let d ← d.set (.str "name") name
    d.set (.str "kind") kind)
  parseObjectWith env ignoreK8s (.list [.dict ambObject.entries]) false (.str resourceIdentifier)
    (← get).filename
  return none

/-- The method `getattr(self, f'handle_k8s_{kind.lower()}', None)` finds. -/
def k8sHandler (kind : String) : Option (Value → Py HandlerResult) :=
  match kind with
  | "crd" => some (handleK8sCrd env)
  | "endpoints" => some (handleK8sEndpoints env)
  | "service" => some (handleK8sService env)
  | "secret" => some (handleK8sSecret env)
  | _ => none

/-- `handle_k8s`. -/
def handleK8s (obj : Value) : Py Unit := do
  let kind ← liftExcept (obj.getD "kind" .none)
  if !kind.truthy then return
  match k8sHandler env (← liftExcept kind.lower) with
  | none => return
  | some handler =>
    match ← handler obj with
    | none => return
    | some (rkey,parsedObjects) =>
      parseObjectWith env ignoreK8s (.list parsedObjects) false (.str rkey) (← get).filename

/-- `parse_object`. -/
def parseObject (objects : Value) (k8s : Bool) (rkey filename : Value) : Py Unit :=
  parseObjectWith env (handleK8s env) objects k8s rkey filename

end Ambassador
