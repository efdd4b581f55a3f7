import Ambassador.Finalize

set_option autoImplicit false

namespace Ambassador

def Value.items : Value → Except PyError (List (Value × Value))
  | .dict kvs => .ok kvs
  | _ => .error .attributeError

/-- What `open(filepath, "r").read()` gives: a text, an `IOError`, or bytes that do not decode. -/
inductive FileRead where
  | text (serialization : String)
  | ioError (msg : String)
  | undecodable (msg : String)

/-- One file the directory walk of `load_from_filesystem` found. -/
structure InputFile where
  filepath : String
  filename : String
  contents : FileRead

def crdKinds : List String :=
  ["AuthService","ConsulResolver","KubernetesEndpointResolver","KubernetesServiceResolver",
    "Mapping","Module","RateLimitService","TCPMapping","TLSContext","TracingService",
    "ClusterIngress"]

def crdsMissingMsg : String :=
  "Ambassador could not find core CRD definitions. Please visit " ++
  "https://www.getambassador.io/reference/core/crds/ for more information. You can continue " ++
  "using Ambassador via Kubernetes annotations, any configuration via CRDs will be ignored..."

def resolverCrdsMissingMsg : String :=
  "Ambassador could not find Resolver type CRD definitions. Please visit " ++
  "https://www.getambassador.io/reference/core/crds/ for more information. You can continue " ++
  "using Ambassador via Kubernetes annotations, any configuration via CRDs will be ignored..."

/-- A deployment with `ambassador_id` `default` that decodes every JSON text as `snapshot`. -/
def Env.ofSnapshot (snapshot : Value) : Env where
  ambassadorId := "default"
  singleNamespace := false
  ambassadorNamespace := "default"
  enableEndpoints := true
  goodAmbassadorId d := match d.getD "ambassador_id" (.str "default") with
    | .ok id => id.isStr "default"
    | .error _ => false
  fromDictError _ _ := none
  loadYaml _ := .ok []
  loadJson _ := .ok snapshot
  dumpJson _ := ""
  isDigit s := !s.data.isEmpty && s.data.all Char.isDigit
  crdsMissing := false
  resolverCrdsMissing := false

variable (env : Env)

def jsonLoads (serialization : String) : Except PyError Value :=
  match env.loadJson serialization with
  | .ok v => .ok v
  | .error msg => .error (.jsonDecodeError msg)

def wattObjects (wattK8s : Value) (key : String) : Except PyError (List Value) := do
  ((← wattK8s.getD key .none).or (.list [])).iter

/-- The `parse_yaml` method. -/
def parseYaml (serialization : String) (k8s : Bool) (rkey filename : Value)
    (finalize : Bool) : Py Unit := do
  tryCatch (do
      let objects ← liftExcept (loadYamlValue env (.str serialization))
      parseObject env (.list objects) k8s rkey filename)
    fun
    | .yamlError msg => do postError ((← location) ++ ": could not parse YAML: " ++ msg)
    | e => throw e
  if finalize then Ambassador.finalize env

/-- The `parse_json` method. -/
def parseJson (serialization : String) (k8s : Bool) (rkey filename : Value)
    (finalize : Bool) : Py Unit := do
  tryCatch (do
      let objects ← liftExcept (jsonLoads env serialization)
      parseObject env objects k8s rkey filename)
    fun
    | .jsonDecodeError msg => do postError ((← location) ++ ": could not parse YAML: " ++ msg)
    | e => throw e
  if finalize then Ambassador.finalize env

/-- The body of `parse_watt`'s `try`, once the snapshot is decoded. -/
def parseWattDict (wattDict : Value) : Py Unit := do
  let wattK8s ← liftExcept (wattDict.getD "Kubernetes" (.dict []))
  ["service","endpoints","secret"].forM fun key => do
    (← liftExcept (wattObjects wattK8s key)).forM (handleK8s env)
  crdKinds.forM fun key => do
    (← liftExcept (wattObjects wattK8s key)).forM fun obj => do
      let _ ← handleK8sCrd env obj
  let wattConsul ← liftExcept (wattDict.getD "Consul" (.dict []))
  let consulEndpoints ← liftExcept (wattConsul.getD "Endpoints" (.dict []))
  (← liftExcept consulEndpoints.items).forM fun (consulRkey,consulObject) => do
    match ← handleConsulService env consulRkey consulObject with
    | none => pure ()
    | some (rkey,parsedObjects) =>
      parseObject env (.list parsedObjects) false (.str rkey) (← get).filename

/-- The `parse_watt` method. -/
def parseWatt (serialization : String) (finalize : Bool) : Py Unit := do
  if env.crdsMissing then postError crdsMissingMsg
  if env.resolverCrdsMissing then postError resolverCrdsMissingMsg
  tryCatch (do parseWattDict env (← liftExcept (jsonLoads env serialization)))
    fun
    | .jsonDecodeError msg => do postError ((← location) ++ ": could not parse WATT: " ++ msg)
    | e => throw e
  if finalize then Ambassador.finalize env

/-- A Consul service whose one endpoint has a port but neither an address nor an `ID`:
the skip branch of `handle_consul_service` reads `ep['ID']`. -/
def addresslessConsul : Value :=
  .dict [(.str "Consul",.dict [(.str "Endpoints",.dict [(.str "web",.dict [(.str "Service",.str "web"),
    (.str "Endpoints",.list [.dict [(.str "Port",.int 80)]])])])])]

theorem addresslessConsul_raises :
    ∃ s, parseWatt (Env.ofSnapshot addresslessConsul) "" true Fetcher.init = .error (.keyError "ID") s :=
  ⟨_,rfl⟩

/-- A `Mapping` CRD in the namespace `other`, which `handle_k8s_crd` keeps under
`single_namespace`. -/
def otherNamespaceCrd : Value :=
  .dict [(.str "Kubernetes",.dict [(.str "Mapping",.list [.dict [(.str "kind",.str "Mapping"),
    (.str "apiVersion",.str "getambassador.io/v1"),
    (.str "metadata",.dict [(.str "name",.str "foo"),(.str "namespace",.str "other")]),
    (.str "spec",.dict [(.str "prefix",.str "/foo/"),(.str "service",.str "foo")])]])])]

theorem otherNamespaceCrd_kept :
    (final (parseWatt { Env.ofSnapshot otherNamespaceCrd with singleNamespace := true } "" true
      Fetcher.init)).elements.map (·.rkey) = [.str "foo.other.1"] := rfl

/-- The `load_from_filesystem` method, from the files its directory walk found. -/
def loadFromFilesystem (inputs : List InputFile) (k8s finalize : Bool) : Py Unit := do
  inputs.forM fun input =>
    match input.contents with
    | .text serialization => parseYaml env serialization k8s .none (.str input.filename) false
    | .ioError msg => postError ("could not read YAML from " ++ input.filepath ++ ": " ++ msg)
    | .undecodable msg => throw (.unicodeDecodeError msg)
  if finalize then Ambassador.finalize env

/-- A call a client makes on a `ResourceFetcher`. -/
inductive Call where
  | parseYaml (serialization : String) (k8s : Bool) (rkey filename : Value) (finalize : Bool)
  | parseJson (serialization : String) (k8s : Bool) (rkey filename : Value) (finalize : Bool)
  | parseWatt (serialization : String) (finalize : Bool)
  | loadFromFilesystem (inputs : List InputFile) (k8s finalize : Bool)
  | finalize

def Call.run : Call → Py Unit
  | .parseYaml serialization k8s rkey filename fin =>
    Ambassador.parseYaml env serialization k8s rkey filename fin
  | .parseJson serialization k8s rkey filename fin =>
    Ambassador.parseJson env serialization k8s rkey filename fin
  | .parseWatt serialization fin => Ambassador.parseWatt env serialization fin
  | .loadFromFilesystem inputs k8s fin => Ambassador.loadFromFilesystem env inputs k8s fin
  | .finalize => Ambassador.finalize env

/-- The fetcher after a sequence of calls, each starting where the last one stopped. -/
def runCalls (s : Fetcher) : List Call → Fetcher
  | [] => s
  | c :: cs => runCalls (final (c.run env s)) cs

end Ambassador
