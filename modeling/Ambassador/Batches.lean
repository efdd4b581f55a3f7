import Ambassador.Pipeline

/-! Batches of Ambassador objects end to end: the files `load_from_filesystem` reads, and the
objects of a Kubernetes `Service`'s `getambassador.io/config` annotation. -/

set_option autoImplicit false

namespace Ambassador

/-- An object `process_object` hands to `ACResource.from_dict`, which builds it. -/
def Plain (env : Env) (obj : Value) : Prop :=
  handsToFromDict env obj ∧ ∀ key, env.fromDictError key obj = Option.none

/-- A dict `process_object` accepts and then reports for want of a kind, which
`json.dumps` can write into the report. -/
def Kindless (env : Env) (obj : Value) : Prop :=
  ∃ kvs, obj = .dict kvs ∧ env.goodAmbassadorId obj ∧ Value.lookup kvs (.str "kind") = Option.none ∧
    obj.dumpable

def locationFile (filename : Value) : String := (filename.or (.str "anonymous YAML")).pyStr

/-- What a batch of plain and kindless objects leaves from ordinal `n` on. -/
def batchOutcome (env : Env) (label : Value) (loc : String) (n : Int) :
    List Value → List ACResource × List String
  | [] => ([],[])
  | obj :: objs =>
    let rest := batchOutcome env label loc (n + 1) objs
    if handsToFromDict env obj then (resourceAt label n obj :: rest.1,rest.2)
    else (rest.1,(loc ++ "." ++ toString n ++ " is missing 'kind'?? " ++ env.dumpJson obj) :: rest.2)

def numbered (label : Value) (n : Int) : List Value → List ACResource
  | [] => []
  | obj :: objs => resourceAt label n obj :: numbered label (n + 1) objs

variable {env : Env}

theorem batchOutcome_plain {objs : List Value} (h : ∀ obj ∈ objs, Plain env obj) (label : Value) (loc : String)
    (n : Int) : batchOutcome env label loc n objs = (numbered label n objs,[]) := by
  induction objs generalizing n with
  | nil => rfl
  | cons obj objs ih =>
    simp only [batchOutcome,(h obj (List.mem_cons_self _ _)).1,if_true,
      ih (fun o ho => h o (List.mem_cons_of_mem _ ho)),numbered]

theorem handsToFromDict_kindless {obj : Value} (h : Kindless env obj) : handsToFromDict env obj = false := by
  obtain ⟨kvs,rfl,-,hk,-⟩ := h
  simp [handsToFromDict,hk]

theorem processObject_kindless {obj : Value} (h : Kindless env obj) (rkey : Value) (t : Fetcher) :
    processObject env obj rkey t =
      .ok () { t with errors := t.errors ++ [t.location ++ " is missing 'kind'?? " ++ env.dumpJson obj] } := by
  obtain ⟨kvs,rfl,hg,hk,hd⟩ := h
  simp only [processObject,hg,hk,Bool.not_true,Bool.false_eq_true,if_false,run_bind,run_location,run_liftExcept,
    Env.jsonDumps,hd,if_true,run_postError]

/-- The loop of `parse_object` over plain and kindless objects. -/
theorem processObjects_mixed {objs : List Value} (h : ∀ obj ∈ objs, Plain env obj ∨ Kindless env obj)
    (rkey : Value) (t : Fetcher) :
    processObjects env objs rkey t = .ok () { t with
      elements := t.elements ++
        (batchOutcome env (rkey.or t.filename) (locationFile t.filename) t.ocount objs).1
      errors := t.errors ++
        (batchOutcome env (rkey.or t.filename) (locationFile t.filename) t.ocount objs).2
      ocount := t.ocount + objs.length } := by
  induction objs generalizing t with
  | nil => simp [processObjects,batchOutcome]
  | cons obj objs ih =>
    have ih' := ih fun o ho => h o (List.mem_cons_of_mem _ ho)
    have hn : t.ocount + ((objs.length + 1 : Nat) : Int) = t.ocount + 1 + objs.length := by omega
    rw [run_processObjects_cons]
    rcases h obj (List.mem_cons_self _ _) with ⟨hobj,hfd⟩ | hk
    · rw [processObject_fromDict env hobj,fromDictCall,hfd]
      simp only [run_appendElement,ih',batchOutcome,hobj,if_true,List.append_assoc,List.singleton_append,
        List.length_cons,hn]
    · simp only [processObject_kindless hk,ih',batchOutcome,handsToFromDict_kindless hk,Bool.false_eq_true,
        if_false,List.append_assoc,List.singleton_append,List.length_cons,hn]
      rfl

theorem parseObjectWith_mixed (handleK8s : Value → Py Unit) {objs : List Value}
    (h : ∀ obj ∈ objs, Plain env obj ∨ Kindless env obj) (rkey filename : Value) (s : Fetcher) :
    parseObjectWith env handleK8s (.list objs) false rkey filename s = .ok () { s with
      elements := s.elements ++ (batchOutcome env (rkey.or filename) (locationFile filename) 1 objs).1
      errors := s.errors ++ (batchOutcome env (rkey.or filename) (locationFile filename) 1 objs).2 } := by
  simp only [parseObjectWith_false,run_bind,pushLocation,run_modify,run_liftExcept,Value.iter,
    processObjects_mixed h,popLocation,run_get,run_set]

/-! ### Configuration files -/

theorem parseYaml_mixed {text : String} {objs : List Value} (hy : env.loadYaml text = .ok objs)
    (h : ∀ obj ∈ objs, Plain env obj ∨ Kindless env obj) (rkey filename : Value) (s : Fetcher) :
    parseYaml env text false rkey filename false s = .ok () { s with
      elements := s.elements ++ (batchOutcome env (rkey.or filename) (locationFile filename) 1 objs).1
      errors := s.errors ++ (batchOutcome env (rkey.or filename) (locationFile filename) 1 objs).2 } := by
  simp only [parseYaml,run_bind,run_tryCatch,run_liftExcept,loadYamlValue,hy,parseObject,parseObjectWith_mixed _ h]
  rfl

theorem parseYaml_plain {text : String} {objs : List Value} (hy : env.loadYaml text = .ok objs)
    (h : ∀ obj ∈ objs, Plain env obj) (rkey filename : Value) (s : Fetcher) :
    parseYaml env text false rkey filename false s =
      .ok () { s with elements := s.elements ++ numbered (rkey.or filename) 1 objs } := by
  rw [parseYaml_mixed hy (fun o ho => .inl (h o ho)),batchOutcome_plain h]
  simp only [List.append_nil]

theorem parseYaml_not_yaml {text msg : String} (hy : env.loadYaml text = .error msg) (k8s : Bool)
    (rkey filename : Value) (s : Fetcher) :
    parseYaml env text k8s rkey filename false s =
      .ok () { s with errors := s.errors ++ [s.location ++ ": could not parse YAML: " ++ msg] } := by
  simp only [parseYaml,run_bind,run_tryCatch,run_liftExcept,loadYamlValue,hy]
  rfl

def textOutcome (env : Env) (loc filename text : String) : List ACResource × List String :=
  match env.loadYaml text with
  | .ok objs => batchOutcome env (.str filename) (locationFile (.str filename)) 1 objs
  | .error msg => ([],[loc ++ ": could not parse YAML: " ++ msg])

/-- What the files leave when the caller's location is `loc`, up to the first that does not
decode, and that file's decoding error. -/
def filesOutcome (env : Env) (loc : String) : List InputFile → List ACResource × List String × Option String
  | [] => ([],[],Option.none)
  | input :: inputs =>
    let rest := filesOutcome env loc inputs
    match input.contents with
    | .text text => ((textOutcome env loc input.filename text).1 ++ rest.1,
        (textOutcome env loc input.filename text).2 ++ rest.2.1,rest.2.2)
    | .ioError msg => (rest.1,("could not read YAML from " ++ input.filepath ++ ": " ++ msg) :: rest.2.1,rest.2.2)
    | .undecodable msg => ([],[],some msg)

theorem loadFromFilesystem_cons_unread {input : InputFile} {msg : String} (hc : input.contents = .ioError msg)
    (inputs : List InputFile) (k8s fin : Bool) (s : Fetcher) :
    loadFromFilesystem env (input :: inputs) k8s fin s = loadFromFilesystem env inputs k8s fin
      { s with errors := s.errors ++ ["could not read YAML from " ++ input.filepath ++ ": " ++ msg] } := by
  simp only [loadFromFilesystem,List.forM_cons',run_bind,hc,run_postError]

theorem loadFromFilesystem_cons_read {input : InputFile} {text : String} (hc : input.contents = .text text)
    {k8s : Bool} {s t : Fetcher} (hp : parseYaml env text k8s .none (.str input.filename) false s = .ok () t)
    (inputs : List InputFile) (fin : Bool) :
    loadFromFilesystem env (input :: inputs) k8s fin s = loadFromFilesystem env inputs k8s fin t := by
  simp only [loadFromFilesystem,List.forM_cons',run_bind,hc,hp]

theorem loadFromFilesystem_cons_text {input : InputFile} {text : String} (hc : input.contents = .text text)
    (h : ∀ objs, env.loadYaml text = .ok objs → ∀ obj ∈ objs, Plain env obj ∨ Kindless env obj)
    (inputs : List InputFile) (fin : Bool) (s : Fetcher) :
    loadFromFilesystem env (input :: inputs) false fin s = loadFromFilesystem env inputs false fin { s with
      elements := s.elements ++ (textOutcome env s.location input.filename text).1
      errors := s.errors ++ (textOutcome env s.location input.filename text).2 } := by
  cases hy : env.loadYaml text with
  | error msg =>
    rw [loadFromFilesystem_cons_read hc (parseYaml_not_yaml hy false .none _ s)]
    simp only [textOutcome,hy,List.append_nil]
  | ok objs =>
    rw [loadFromFilesystem_cons_read hc (parseYaml_mixed hy (h objs hy) .none _ s)]
    simp only [textOutcome,hy]
    rfl

/-- `load_from_filesystem` with `k8s=False` over files whose objects are plain or lack a
kind, file after file, until a file whose bytes do not decode: its `UnicodeDecodeError`
escapes `except IOError` and ends the call before `finalize`. -/
theorem loadFromFilesystem_files {inputs : List InputFile}
    (h : ∀ input ∈ inputs, ∀ text objs, input.contents = .text text → env.loadYaml text = .ok objs →
      ∀ obj ∈ objs, Plain env obj ∨ Kindless env obj) (fin : Bool) (s : Fetcher) :
    loadFromFilesystem env inputs false fin s =
      match (filesOutcome env s.location inputs).2.2 with
      | some msg => .error (.unicodeDecodeError msg) { s with
          elements := s.elements ++ (filesOutcome env s.location inputs).1
          errors := s.errors ++ (filesOutcome env s.location inputs).2.1 }
      | Option.none => (if fin then finalize env else pure ()) { s with
          elements := s.elements ++ (filesOutcome env s.location inputs).1
          errors := s.errors ++ (filesOutcome env s.location inputs).2.1 } := by
  induction inputs generalizing s with
  | nil => simp only [loadFromFilesystem,filesOutcome,List.forM_nil',run_bind,run_pure,List.append_nil]
  | cons input inputs ih =>
    have ih' := ih fun i hi => h i (List.mem_cons_of_mem input hi)
    cases hc : input.contents with
    | text text =>
      rw [loadFromFilesystem_cons_text hc (h input (List.mem_cons_self _ _) text · hc),ih']
      simp only [filesOutcome,hc,List.append_assoc]
      rfl
    | ioError msg =>
      rw [loadFromFilesystem_cons_unread hc,ih']
      simp only [filesOutcome,hc,List.append_assoc,List.singleton_append]
      rfl
    | undecodable msg =>
      simp only [loadFromFilesystem,List.forM_cons',run_bind,hc,run_throw,filesOutcome,List.append_nil]

def qotmFileMapping : Value :=
  .dict [(.str "apiVersion",.str "ambassador/v1"),(.str "kind",.str "Mapping"),(.str "name",.str "qotm_mapping"),
    (.str "prefix",.str "/qotm/"),(.str "service",.str "qotm")]

def authFileService : Value :=
  .dict [(.str "apiVersion",.str "ambassador/v1"),(.str "kind",.str "AuthService"),(.str "name",.str "authentication"),
    (.str "auth_service",.str "example-auth:3000")]

def kindlessMapping : Value :=
  .dict [(.str "apiVersion",.str "ambassador/v1"),(.str "name",.str "qotm_mapping"),(.str "prefix",.str "/qotm/"),
    (.str "service",.str "qotm")]

def configFilesEnv : Env :=
  { Env.ofSnapshot .none with
    loadYaml := fun text =>
      if text == "mappings" then .ok [qotmFileMapping,authFileService]
      else if text == "typo" then .ok [kindlessMapping,qotmFileMapping]
      else .error "mapping values are not allowed here" }

def configFiles : List InputFile :=
  [⟨"/ambassador/mappings.yaml","mappings.yaml",.text "mappings"⟩,
    ⟨"/ambassador/secret.yaml","secret.yaml",.ioError "[Errno 13] Permission denied"⟩,
    ⟨"/ambassador/broken.yaml","broken.yaml",.text "a: b: c"⟩,
    ⟨"/ambassador/typo.yaml","typo.yaml",.text "typo"⟩,
    ⟨"/ambassador/latin1.yaml","latin1.yaml",.undecodable "invalid continuation byte"⟩,
    ⟨"/ambassador/later.yaml","later.yaml",.text "mappings"⟩]

theorem mappingsYaml_plain : ∀ obj ∈ [qotmFileMapping,authFileService], Plain configFilesEnv obj := by
  intro obj ho
  simp only [List.mem_cons,List.mem_singleton,List.not_mem_nil,or_false] at ho
  rcases ho with rfl | rfl <;> exact ⟨rfl,fun _ => rfl⟩

theorem configFiles_mixed : ∀ input ∈ configFiles, ∀ text objs, input.contents = .text text →
    configFilesEnv.loadYaml text = .ok objs →
      ∀ obj ∈ objs, Plain configFilesEnv obj ∨ Kindless configFilesEnv obj := by
  intro input hi text objs hc hy
  simp only [configFiles,List.mem_cons,List.mem_singleton,List.not_mem_nil,or_false] at hi
  rcases hi with rfl | rfl | rfl | rfl | rfl | rfl <;> cases hc <;> cases hy
  · exact fun o ho => .inl (mappingsYaml_plain o ho)
  · intro o ho
    simp only [List.mem_cons,List.mem_singleton,List.not_mem_nil,or_false] at ho
    rcases ho with rfl | rfl
    · exact .inr ⟨_,rfl,rfl,rfl,rfl⟩
    · exact .inl ⟨rfl,fun _ => rfl⟩
  · exact fun o ho => .inl (mappingsYaml_plain o ho)

theorem loadFromFilesystem_files_config :
    loadFromFilesystem configFilesEnv configFiles false true Fetcher.init =
      .error (.unicodeDecodeError "invalid continuation byte") { Fetcher.init with
        elements := [resourceAt (.str "mappings.yaml") 1 qotmFileMapping,
          resourceAt (.str "mappings.yaml") 2 authFileService,resourceAt (.str "typo.yaml") 2 qotmFileMapping]
        errors := ["could not read YAML from /ambassador/secret.yaml: [Errno 13] Permission denied",
          "anonymous YAML.1: could not parse YAML: mapping values are not allowed here",
          "typo.yaml.1 is missing 'kind'?? "] } :=
  loadFromFilesystem_files configFiles_mixed true Fetcher.init

/-! ### Service annotations -/

section
variable {obj metadata name nspace spec ports : Value} {k : String}

/-- A Kubernetes `Service` whose annotation holds plain and kindless objects: the service is
stashed and the objects go through `parse_object` under `<name>.<namespace>`. -/
theorem handleK8s_service_annotated {akvs : List (Value × Value)} {text : String} {objs : List Value}
    (hkind : obj.getD "kind" .none = .ok (.str k)) (hk : Value.lowerStr k = "service")
    (hmeta : obj.getD "metadata" .none = .ok metadata) (hm : metadata.truthy)
    (hname : metadata.getD "name" .none = .ok name) (hn : name.truthy)
    (hns : metadata.getD "namespace" (.str "default") = .ok nspace)
    (hsn : env.singleNamespace = true → nspace.isStr env.ambassadorNamespace = true)
    (hann : metadata.getD "annotations" .none = .ok (.dict akvs)) (ha : (Value.dict akvs).truthy)
    (hcfg : (Value.dict akvs).getD "getambassador.io/config" .none = .ok (.str text)) (ht : (Value.str text).truthy)
    (hy : env.loadYaml text = .ok objs) (hobjs : ∀ o ∈ objs, Plain env o ∨ Kindless env o)
    (hspec : obj.getD "spec" .none = .ok spec) (hsp : spec.truthy)
    (hports : spec.getD "ports" .none = .ok ports) (hp : ports.truthy)
    (s : Fetcher) (hf : s.filename = .none ∨ ∃ f, s.filename = .str f) :
    handleK8s env obj s = .ok () { s with
      filename := annotatedFilename s.filename
      k8sServices := s.k8sServices.insert (.str (name.pyStr ++ "." ++ nspace.pyStr)) rfl ⟨name,nspace,ports⟩
      elements := s.elements ++ (batchOutcome env (.str (name.pyStr ++ "." ++ nspace.pyStr))
        (locationFile (annotatedFilename s.filename)) 1 objs).1
      errors := s.errors ++ (batchOutcome env (.str (name.pyStr ++ "." ++ nspace.pyStr))
        (locationFile (annotatedFilename s.filename)) 1 objs).2 } := by
  have hl : loadYamlValue env (.str text) = .ok objs := by simp only [loadYamlValue,hy]
  have hsvc : handleK8sService env obj s = .ok (some (name.pyStr ++ "." ++ nspace.pyStr,objs)) { s with
      filename := annotatedFilename s.filename
      k8sServices := s.k8sServices.insert (.str (name.pyStr ++ "." ++ nspace.pyStr)) rfl ⟨name,nspace,ports⟩ } := by
    simp only [handleK8sService,run_bind,run_liftExcept,hmeta,Value.getIf,hm,if_true,hname,hns,hann,ha,hcfg,ht,
      hspec,hsp,hports,hp,Bool.and_true,hn,singleNamespace_passes hsn,Bool.or_false,Bool.not_true,
      Bool.false_eq_true,if_false,run_pure,setK8sService,run_modify,run_annotateFilename,hf,run_tryCatch,hl]
  rw [handleK8s_parses_result hkind hk (by decide) rfl hsvc,parseObjectWith_mixed _ hobjs,
    or_of_truthy (truthy_dotted _ _)]

end

def webAnnotation : String :=
  "apiVersion: ambassador/v1\nname: qotm_mapping\nprefix: /qotm/\nservice: qotm\n---\n" ++
    "apiVersion: ambassador/v1\nkind: Mapping\nname: qotm_mapping\nprefix: /qotm/\nservice: qotm\n"

def mappedWebService : Value :=
  .dict [(.str "kind",.str "Service"),
    (.str "metadata",.dict [(.str "name",.str "web"),
      (.str "annotations",.dict [(.str "getambassador.io/config",.str webAnnotation)])]),
    (.str "spec",.dict [(.str "ports",.list [.dict [(.str "port",.int 80)]])])]

def mappingYamlEnv : Env := { Env.ofSnapshot .none with loadYaml := fun _ => .ok [kindlessMapping,qotmFileMapping] }

theorem handleK8s_service_annotated_web :
    handleK8s mappingYamlEnv mappedWebService Fetcher.init =
      .ok () { Fetcher.init with
        k8sServices := PyDict.empty.insert (.str "web.default") rfl
          ⟨.str "web",.str "default",.list [.dict [(.str "port",.int 80)]]⟩
        elements := [resourceAt (.str "web.default") 2 qotmFileMapping]
        errors := ["anonymous YAML.1 is missing 'kind'?? "] } :=
  @handleK8s_service_annotated mappingYamlEnv mappedWebService _ (.str "web") (.str "default") _ _ "Service" _ _
    [kindlessMapping,qotmFileMapping] rfl rfl rfl rfl rfl rfl rfl (fun h => by cases h) rfl rfl rfl rfl rfl
    (List.forall_mem_cons.2 ⟨.inr ⟨_,rfl,rfl,rfl,rfl⟩,List.forall_mem_singleton.2 (.inl ⟨rfl,fun _ => rfl⟩)⟩)
    rfl rfl rfl rfl _ (.inl rfl)

/-! ### An annotated Service end to end -/

def annotatedServiceObject (name nspace : String) (ps : List (List (Value × Value))) (text : String) : Value :=
  .dict [(.str "kind",.str "Service"),
    (.str "metadata",.dict [(.str "name",.str name),(.str "namespace",.str nspace),
      (.str "annotations",.dict [(.str "getambassador.io/config",.str text)])]),
    (.str "spec",.dict [(.str "ports",.list (ps.map .dict))])]

theorem handleK8s_annotatedServiceObject {name nspace text : String} {ps : List (List (Value × Value))}
    {objs : List Value} (hn : name ≠ "") (hps : ps ≠ []) (ht : text ≠ "")
    (hsn : env.singleNamespace = true → (Value.str nspace).isStr env.ambassadorNamespace = true)
    (hy : env.loadYaml text = .ok objs) (hobjs : ∀ o ∈ objs, Plain env o ∨ Kindless env o)
    (s : Fetcher) (hf : s.filename = .none) :
    handleK8s env (annotatedServiceObject name nspace ps text) s = .ok () { s with
      k8sServices := s.k8sServices.insert (.str (name ++ "." ++ nspace)) rfl
        ⟨.str name,.str nspace,.list (ps.map .dict)⟩
      elements := s.elements ++ (batchOutcome env (.str (name ++ "." ++ nspace)) "anonymous YAML" 1 objs).1
      errors := s.errors ++ (batchOutcome env (.str (name ++ "." ++ nspace)) "anonymous YAML" 1 objs).2 } := by
  have hp : (Value.list (ps.map .dict)).truthy := by
    cases ps with
    | nil => exact absurd rfl hps
    | cons p ps => rfl
  have hl : loadYamlValue env (.str text) = .ok objs := by simp only [loadYamlValue,hy]
  have hr : handleK8sService env (annotatedServiceObject name nspace ps text) s =
      .ok (some (name ++ "." ++ nspace,objs)) { s with
        k8sServices := s.k8sServices.insert (.str (name ++ "." ++ nspace)) rfl
          ⟨.str name,.str nspace,.list (ps.map .dict)⟩ } := by
    simp only [handleK8sService,run_bind,run_liftExcept,annotatedServiceObject,getD_dict_lookup,lookup_str_cons,
      lookup_nil,String.reduceEq,if_true,if_false,Option.getD_some,Option.getD_none,Value.getIf,truthy_dict_cons,
      truthy_str_of_ne hn,truthy_str_of_ne ht,hp,singleNamespace_passes hsn,Bool.not_true,Bool.not_false,
      Bool.false_or,Bool.or_false,Bool.false_eq_true,Bool.and_self,run_pure,setK8sService,run_modify,
      Value.pyStr_str,run_annotateFilename (.inl hf),run_tryCatch,hl]
    simp only [hf]
    rfl
  rw [handleK8s_parses_result (rfl : (annotatedServiceObject name nspace ps text).getD "kind" .none =
    .ok (.str "Service")) rfl (by decide) rfl hr,parseObjectWith_mixed _ hobjs,or_of_truthy (truthy_dotted _ _),hf]
  rfl

/-- An annotated Kubernetes `Service` through `parse_watt` and `finalize`: the annotation's
resources, then the `Service` resource with no endpoints. -/
theorem parseWatt_annotated_service {serialization name nspace text : String} {ps : List (List (Value × Value))}
    {objs : List Value} (hn : name ≠ "") (hps : ps ≠ []) (ht : text ≠ "")
    (hsn : env.singleNamespace = true → (Value.str nspace).isStr env.ambassadorNamespace = true)
    (hy : env.loadYaml text = .ok objs) (hobjs : ∀ o ∈ objs, Plain env o ∨ Kindless env o)
    (hcrds : env.crdsMissing = false) (hres : env.resolverCrdsMissing = false)
    (hjson : env.loadJson serialization = .ok (kubernetesSnapshot [annotatedServiceObject name nspace ps text] []))
    (hfd : env.fromDictError (.str (k8sServiceKey (.str name) (.str nspace)))
      (serviceResource env.ambassadorId name nspace []) = Option.none) :
    parseWatt env serialization true Fetcher.init = .ok () { Fetcher.init with
      k8sServices := PyDict.empty.insert (.str (name ++ "." ++ nspace)) rfl
        ⟨.str name,.str nspace,.list (ps.map .dict)⟩
      services := PyDict.empty.insert (.str (k8sServiceKey (.str name) (.str nspace))) rfl
        (serviceResource env.ambassadorId name nspace [])
      elements := (batchOutcome env (.str (name ++ "." ++ nspace)) "anonymous YAML" 1 objs).1 ++
        [⟨.str (k8sServiceKey (.str name) (.str nspace)),.str (k8sServiceKey (.str name) (.str nspace)),
          serviceResource env.ambassadorId name nspace []⟩]
      errors := (batchOutcome env (.str (name ++ "." ++ nspace)) "anonymous YAML" 1 objs).2 } := by
  have hw := parseWattDict_kubernetesSnapshot
    (forM_singleton_ok (handleK8s_annotatedServiceObject hn hps ht hsn hy hobjs Fetcher.init rfl))
    (rfl : ([] : List Value).forM (handleK8s env) _ = .ok () _)
  have hi : (Fetcher.init.k8sEndpoints,Fetcher.init.k8sServices,Fetcher.init.services) =
      (PyDict.empty,PyDict.empty,PyDict.empty) := rfl
  simp only [Prod.mk.injEq] at hi
  simp only [parseWatt,hcrds,hres,Bool.false_eq_true,if_false,if_true,run_bind,run_pure,run_tryCatch,
    run_liftExcept,jsonLoads,hjson,hw,finalize,run_get,hi,resolveServices,entries_insert_empty,List.forM_cons',
    List.forM_nil',run_setService,set_str]
  have hr : resolveService env.isDigit env.ambassadorId (.str (name ++ "." ++ nspace))
      ⟨.str name,.str nspace,.list (ps.map .dict)⟩ (PyDict.empty.find? (.str (name ++ "." ++ nspace))) =
      .ok (serviceResource env.ambassadorId name nspace []) := rfl
  simp only [hr,appendServices,entries_insert_empty,List.forM_cons',List.forM_nil',run_bind,hfd,run_appendElement,
    run_pure]
  rfl

def annotatedWebEnv : Env :=
  { mappingYamlEnv with
    loadJson := fun _ => .ok (kubernetesSnapshot
      [annotatedServiceObject "web" "default" [[(.str "port",.int 80)]] webAnnotation] []) }

theorem parseWatt_annotated_service_web :
    parseWatt annotatedWebEnv "" true Fetcher.init = .ok () { Fetcher.init with
      k8sServices := PyDict.empty.insert (.str "web.default") rfl
        ⟨.str "web",.str "default",.list [.dict [(.str "port",.int 80)]]⟩
      services := PyDict.empty.insert (.str "k8s-web-default") rfl (serviceResource "default" "web" "default" [])
      elements := [resourceAt (.str "web.default") 2 qotmFileMapping,
        ⟨.str "k8s-web-default",.str "k8s-web-default",serviceResource "default" "web" "default" []⟩]
      errors := ["anonymous YAML.1 is missing 'kind'?? "] } :=
  @parseWatt_annotated_service annotatedWebEnv "" "web" "default" webAnnotation [[(.str "port",.int 80)]]
    [kindlessMapping,qotmFileMapping] (by decide) (List.cons_ne_nil _ _) (by decide) (fun h => by cases h) rfl
    (List.forall_mem_cons.2 ⟨.inr ⟨_,rfl,rfl,rfl,rfl⟩,List.forall_mem_singleton.2 (.inl ⟨rfl,fun _ => rfl⟩)⟩)
    rfl rfl rfl rfl

end Ambassador
