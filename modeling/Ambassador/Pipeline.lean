import Ambassador.Decoders

/-! A Kubernetes `Service` and its `Endpoints` through `parse_watt` and `finalize`. -/

set_option autoImplicit false

namespace Ambassador

variable {env : Env}

def serviceObject (name nspace : String) (ps : List (List (Value × Value))) : Value :=
  .dict [(.str "kind",.str "Service"),
    (.str "metadata",.dict [(.str "name",.str name),(.str "namespace",.str nspace)]),
    (.str "spec",.dict [(.str "ports",.list (ps.map .dict))])]

def endpointsObject (name nspace : String) (subsets : List Value) : Value :=
  .dict [(.str "kind",.str "Endpoints"),
    (.str "metadata",.dict [(.str "name",.str name),(.str "namespace",.str nspace)]),
    (.str "subsets",.list subsets)]

theorem lookup_str_cons (a b : String) (v : Value) (kvs : List (Value × Value)) :
    Value.lookup ((.str a,v) :: kvs) (.str b) = if a = b then some v else Value.lookup kvs (.str b) := by
  by_cases h : a = b <;> simp [Value.lookup,List.find?_cons,h]

theorem lookup_nil (k : Value) : Value.lookup [] k = Option.none := rfl

theorem getD_dict_lookup (kvs : List (Value × Value)) (key : String) (d : Value) :
    (Value.dict kvs).getD key d = .ok ((Value.lookup kvs (.str key)).getD d) := rfl

theorem truthy_dict_cons (kv : Value × Value) (kvs : List (Value × Value)) : (Value.dict (kv :: kvs)).truthy := rfl

theorem truthy_list_cons (x : Value) (xs : List Value) : (Value.list (x :: xs)).truthy := rfl

def kubernetesSnapshot (services endpoints : List Value) : Value :=
  .dict [(.str "Kubernetes",.dict [(.str "service",.list services),(.str "endpoints",.list endpoints)])]

theorem handleK8s_of_none {obj : Value} {k kind : String} {handler : Value → Py HandlerResult} {s t : Fetcher}
    (hkind : obj.getD "kind" .none = .ok (.str k)) (hk : Value.lowerStr k = kind) (hne : kind ≠ "")
    (hh : k8sHandler env kind = some handler) (hr : handler obj s = .ok Option.none t) :
    handleK8s env obj s = .ok () t := by
  simp only [handleK8s,run_bind,run_liftExcept,hkind,truthy_of_lowerStr hk hne,Bool.not_true,Bool.false_eq_true,
    if_false,Value.lower,hk,hh,run_pure,hr]

theorem truthy_str_of_ne {name : String} (hn : name ≠ "") : (Value.str name).truthy := by
  simp [hn]

theorem handleK8s_serviceObject {name nspace : String} {ps : List (List (Value × Value))} (hn : name ≠ "")
    (hps : ps ≠ []) (hsn : env.singleNamespace = true → (Value.str nspace).isStr env.ambassadorNamespace = true)
    (s : Fetcher) :
    handleK8s env (serviceObject name nspace ps) s = .ok () { s with
      k8sServices := s.k8sServices.insert (.str (name ++ "." ++ nspace)) rfl
        ⟨.str name,.str nspace,.list (ps.map .dict)⟩ } := by
  have hp : (Value.list (ps.map .dict)).truthy := by
    cases ps with
    | nil => exact absurd rfl hps
    | cons p ps => rfl
  have hr : handleK8sService env (serviceObject name nspace ps) s = .ok (some (name ++ "." ++ nspace,[])) { s with
      k8sServices := s.k8sServices.insert (.str (name ++ "." ++ nspace)) rfl
        ⟨.str name,.str nspace,.list (ps.map .dict)⟩ } := by
    simp only [handleK8sService,run_bind,run_liftExcept,serviceObject,getD_dict_lookup,lookup_str_cons,
      lookup_nil,String.reduceEq,if_true,if_false,Option.getD_some,Option.getD_none,Value.getIf,truthy_dict_cons,
      truthy_str_of_ne hn,hp,Value.truthy_none,singleNamespace_passes hsn,Bool.not_true,Bool.not_false,Bool.false_or,
      Bool.or_false,Bool.false_eq_true,Bool.and_self,run_pure,setK8sService,run_modify,Value.pyStr_str]
  rw [handleK8s_parses_result (rfl : (serviceObject name nspace ps).getD "kind" .none = .ok (.str "Service")) rfl
    (by decide) rfl hr,parseObjectWith_nil]

theorem run_setK8sEndpoint (key : String) (entry : K8sEndpoint) (s : Fetcher) :
    setK8sEndpoint key entry s = .ok () { s with k8sEndpoints := s.k8sEndpoints.insert (.str key) rfl entry } := rfl

theorem mapM_cons_ok {α β : Type} {f : α → Except PyError β} {x : α} {xs : List α} {ys : List β}
    (h : (x :: xs).mapM f = .ok ys) : ∃ y ys', f x = .ok y ∧ xs.mapM f = .ok ys' ∧ ys = y :: ys' := by
  rw [List.mapM_cons] at h
  cases hx : f x with
  | error e => rw [hx] at h; cases h
  | ok y =>
    cases hm : xs.mapM f with
    | error e => rw [hx,hm] at h; cases h
    | ok ys' => rw [hx,hm] at h; cases h; exact ⟨y,ys',rfl,rfl,rfl⟩

theorem storeSubsets_stores {key : String} {name nspace : Value} {subsets : List Value}
    {stored : List (Option (List EndpointAddress × PyDict Value))} (h : subsets.mapM subsetEntry = .ok stored)
    (t : Fetcher) :
    storeSubsets key name nspace subsets t = .ok () { t with k8sEndpoints :=
      match (stored.filterMap id).getLast? with
      | Option.none => t.k8sEndpoints
      | some (addresses,ports) => t.k8sEndpoints.insert (.str key) rfl ⟨name,nspace,addresses,ports⟩ } := by
  induction subsets generalizing stored t with
  | nil => cases h; rfl
  | cons sub subs ih =>
    obtain ⟨r,rest,hse,hm,rfl⟩ := mapM_cons_ok h
    simp only [storeSubsets,List.forM_cons',run_bind,run_liftExcept,hse] at ih ⊢
    cases r with
    | none => simpa using ih hm t
    | some e =>
      simp only [run_setK8sEndpoint,ih hm,List.filterMap_cons,id,List.getLast?_cons]
      cases (rest.filterMap id).getLast? <;> simp [PyDict.insert_insert]

theorem handleK8s_endpointsObject {name nspace : String} {subsets : List Value}
    {stored : List (Option (List EndpointAddress × PyDict Value))} (hen : env.enableEndpoints = true)
    (hn : name ≠ "") (h : subsets.mapM subsetEntry = .ok stored) (s : Fetcher) :
    handleK8s env (endpointsObject name nspace subsets) s = .ok () { s with k8sEndpoints :=
      match (stored.filterMap id).getLast? with
      | Option.none => s.k8sEndpoints
      | some (addresses,ports) => s.k8sEndpoints.insert (.str (name ++ "." ++ nspace)) rfl
        ⟨.str name,.str nspace,addresses,ports⟩ } := by
  refine handleK8s_of_none (rfl : (endpointsObject name nspace subsets).getD "kind" .none = .ok (.str "Endpoints"))
    rfl (by decide) rfl ?_
  cases subsets with
  | nil =>
    cases h
    simp only [handleK8sEndpoints,hen,Bool.not_true,Bool.false_eq_true,if_false,run_bind,run_pure,run_liftExcept,
      endpointsObject,getD_dict_lookup,lookup_str_cons,lookup_nil,String.reduceEq,if_true,Option.getD_some,
      Value.getIf,truthy_dict_cons,truthy_str_of_ne hn,Bool.false_or,List.reverse_nil,List.filterMap_nil,
      List.getLast?_nil]
    rfl
  | cons sub subs =>
    simp only [handleK8sEndpoints,hen,Bool.not_true,Bool.false_eq_true,if_false,run_bind,run_pure,run_liftExcept,
      endpointsObject,getD_dict_lookup,lookup_str_cons,lookup_nil,String.reduceEq,if_true,Option.getD_some,
      Value.getIf,truthy_dict_cons,truthy_str_of_ne hn,truthy_list_cons,Bool.false_or,Bool.or_false,Value.pyStr_str,
      Value.iter,storeSubsets_stores h]

theorem or_list_nil (xs : List Value) : (Value.list xs).or (.list []) = .list xs := by
  cases xs <;> rfl

theorem none_or (w : Value) : Value.none.or w = w := rfl

theorem parseWattDict_kubernetesSnapshot {services endpoints : List Value} {s t u : Fetcher}
    (h1 : services.forM (handleK8s env) s = .ok () t) (h2 : endpoints.forM (handleK8s env) t = .ok () u) :
    parseWattDict env (kubernetesSnapshot services endpoints) s = .ok () u := by
  simp only [parseWattDict,kubernetesSnapshot,crdKinds,wattObjects,run_bind,run_liftExcept,getD_dict_lookup,
    lookup_str_cons,lookup_nil,String.reduceEq,if_true,if_false,Option.getD_some,Option.getD_none,except_ok_bind,
    or_list_nil,none_or,Value.iter,List.forM_cons',List.forM_nil',run_pure,h1,h2,Value.items]

theorem forM_singleton_ok {obj : Value} {f : Value → Py PUnit} {s t : Fetcher} (h : f obj s = .ok () t) :
    [obj].forM f s = .ok () t := by
  simp only [List.forM_cons',List.forM_nil',run_bind,h,run_pure]

theorem mem_of_mapM_ok {α β : Type} {f : α → Except PyError β} {xs : List α} {ys : List β}
    (h : xs.mapM f = .ok ys) {y : β} (hy : y ∈ ys) : ∃ x ∈ xs, f x = .ok y := by
  induction xs generalizing ys with
  | nil => cases h; cases hy
  | cons x xs ih =>
    obtain ⟨b,bs,hx,hm,rfl⟩ := mapM_cons_ok h
    rcases List.mem_cons.1 hy with rfl | hy
    · exact ⟨x,List.mem_cons_self _ _,hx⟩
    · obtain ⟨x',hx',hf⟩ := ih hm hy
      exact ⟨x',List.mem_cons_of_mem _ hx',hf⟩

theorem subsetEntry_ports {sub : Value} {a : List EndpointAddress} {p : PyDict Value}
    (h : subsetEntry sub = .ok (some (a,p))) : p.entries.isEmpty = false := by
  simp only [subsetEntry] at h
  cases ha : subsetAddresses sub with
  | error e => rw [ha] at h; cases h
  | ok addrs =>
    cases hg : sub.getD "ports" (.list []) with
    | error e => simp only [ha,hg,except_ok_bind,pure_bind] at h; split at h <;> cases h
    | ok pv =>
      cases hp : subsetPorts pv with
      | error e => simp only [ha,hg,hp,except_ok_bind,pure_bind] at h; split at h <;> cases h
      | ok pd =>
        simp only [ha,hg,hp,except_ok_bind,pure_bind] at h
        split at h
        · cases h
        · split at h
          · cases h
          · rename_i hne
            cases h
            exact Bool.eq_false_iff.2 hne

def serviceResource (ambassadorId name nspace : String) (M : List (Value × Value)) : Value :=
  .dict [(.str "apiVersion",.str "ambassador/v1"),(.str "ambassador_id",.str ambassadorId),
    (.str "kind",.str "Service"),(.str "name",.str name),(.str "namespace",.str nspace),(.str "endpoints",.dict M)]

theorem entries_insert_empty {β : Type} (k : Value) (hk : k.hashable) (v : β) :
    (PyDict.empty.insert k hk v).entries = [(k,v)] := rfl

theorem find?_insert_self {β : Type} {k : Value} (hk : k.hashable) (v : β) :
    (PyDict.empty.insert k hk v).find? k = some v := by
  simp [PyDict.find?,PyDict.insert,PyDict.empty,PyDict.insertEntry,Value.sameKey_refl hk]

/-- A Kubernetes `Service` and its `Endpoints` through `parse_watt` and `finalize`: one `Service`
resource, whose endpoints are those `resolveService_reference` describes. -/
theorem parseWatt_service_resolved {serialization name nspace : String} {ps : List (List (Value × Value))}
    {subsets : List Value} {stored : List (Option (List EndpointAddress × PyDict Value))}
    {addresses : List EndpointAddress} {ports : PyDict Value}
    (hn : name ≠ "") (hps : ps ≠ [])
    (hh : ∀ kvs ∈ ps, (attrValue kvs "port").truthy → (attrValue kvs "port").hashable)
    (hsn : env.singleNamespace = true → (Value.str nspace).isStr env.ambassadorNamespace = true)
    (hen : env.enableEndpoints = true) (hsub : subsets.mapM subsetEntry = .ok stored)
    (hlast : (stored.filterMap id).getLast? = some (addresses,ports))
    (hcrds : env.crdsMissing = false) (hres : env.resolverCrdsMissing = false)
    (hjson : env.loadJson serialization =
      .ok (kubernetesSnapshot [serviceObject name nspace ps] [endpointsObject name nspace subsets]))
    (hfd : ∀ svc, env.fromDictError (.str (k8sServiceKey (.str name) (.str nspace))) svc = Option.none) :
    ∃ M : List (Value × Value),
      parseWatt env serialization true Fetcher.init = .ok () { Fetcher.init with
        k8sEndpoints := PyDict.empty.insert (.str (name ++ "." ++ nspace)) rfl
          ⟨.str name,.str nspace,addresses,ports⟩
        k8sServices := PyDict.empty.insert (.str (name ++ "." ++ nspace)) rfl
          ⟨.str name,.str nspace,.list (ps.map .dict)⟩
        services := PyDict.empty.insert (.str (k8sServiceKey (.str name) (.str nspace))) rfl
          (serviceResource env.ambassadorId name nspace M)
        elements := [⟨.str (k8sServiceKey (.str name) (.str nspace)),.str (k8sServiceKey (.str name) (.str nspace)),
          serviceResource env.ambassadorId name nspace M⟩] } ∧
      PyDict.Assigned [] ((referencePairs env.isDigit ports ps).map fun st =>
        (st.1,referenceEndpoint (referenceAddrs (.str (name ++ "." ++ nspace))
          ⟨.str name,.str nspace,addresses,ports⟩) st.2)) M := by
  have hpne : ports.entries.isEmpty = false := by
    obtain ⟨o,ho,hoid⟩ := List.mem_filterMap.1 (List.mem_of_getLast?_eq_some hlast)
    obtain ⟨sub,-,hs⟩ := mem_of_mapM_ok hsub ho
    rw [show o = some (addresses,ports) from hoid] at hs
    exact subsetEntry_ports hs
  have he := @handleK8s_endpointsObject env name nspace subsets stored hen hn hsub
  simp only [hlast] at he
  have hw := parseWattDict_kubernetesSnapshot (forM_singleton_ok (handleK8s_serviceObject hn hps hsn Fetcher.init))
    (forM_singleton_ok (he _))
  obtain ⟨M,hr,hM⟩ := resolveService_reference env.isDigit env.ambassadorId (.str (name ++ "." ++ nspace))
    ⟨.str name,.str nspace,.list (ps.map .dict)⟩
    (PyDict.empty.insert (.str (name ++ "." ++ nspace)) rfl ⟨.str name,.str nspace,addresses,ports⟩) ps rfl hh
  rw [find?_insert_self] at hr hM
  simp only [hpne,Bool.false_eq_true,if_false] at hM
  refine ⟨M,?_,hM⟩
  simp only [parseWatt,hcrds,hres,Bool.false_eq_true,if_false,if_true,run_bind,run_pure,run_tryCatch,
    run_liftExcept,jsonLoads,hjson,hw,finalize,run_get]
  have hi : (Fetcher.init.k8sEndpoints,Fetcher.init.k8sServices,Fetcher.init.services) =
      (PyDict.empty,PyDict.empty,PyDict.empty) := rfl
  simp only [Prod.mk.injEq] at hi
  simp only [hi,resolveServices,entries_insert_empty,find?_insert_self,List.forM_cons',List.forM_nil',
    run_bind,run_liftExcept,hr,run_setService,set_str,run_pure,appendServices,hfd,run_appendElement]
  rfl

def httpPortSpec : List (Value × Value) := [(.str "port",.int 80),(.str "targetPort",.str "http")]

def httpSubset : Value :=
  .dict [(.str "addresses",.list [.dict [(.str "ip",.str "10.0.0.1")]]),
    (.str "ports",.list [.dict [(.str "name",.str "http"),(.str "port",.int 8080)]])]

def httpAddresses : List EndpointAddress :=
  [⟨some (.str "10.0.0.1"),Option.none,Option.none,Option.none,Option.none⟩]

def httpPorts : PyDict Value := (PyDict.empty.insert (.str "8080") rfl (.int 8080)).insert (.str "http") rfl (.int 8080)

def httpServiceEnv : Env :=
  Env.ofSnapshot
    (kubernetesSnapshot [serviceObject "web" "default" [httpPortSpec]] [endpointsObject "web" "default" [httpSubset]])

theorem parseWatt_service_resolved_http :
    ∃ M : List (Value × Value),
      parseWatt httpServiceEnv "" true Fetcher.init = .ok () { Fetcher.init with
        k8sEndpoints := PyDict.empty.insert (.str "web.default") rfl
          ⟨.str "web",.str "default",httpAddresses,httpPorts⟩
        k8sServices := PyDict.empty.insert (.str "web.default") rfl
          ⟨.str "web",.str "default",.list ([httpPortSpec].map .dict)⟩
        services := PyDict.empty.insert (.str (k8sServiceKey (.str "web") (.str "default"))) rfl
          (serviceResource "default" "web" "default" M)
        elements := [⟨.str (k8sServiceKey (.str "web") (.str "default")),
          .str (k8sServiceKey (.str "web") (.str "default")),serviceResource "default" "web" "default" M⟩] } ∧
      PyDict.Assigned [] ((referencePairs httpServiceEnv.isDigit httpPorts [httpPortSpec]).map fun st =>
        (st.1,referenceEndpoint
          (referenceAddrs (.str "web.default") ⟨.str "web",.str "default",httpAddresses,httpPorts⟩) st.2)) M :=
  @parseWatt_service_resolved httpServiceEnv "" "web" "default" [httpPortSpec] [httpSubset]
    [some (httpAddresses,httpPorts)] httpAddresses httpPorts (by decide) (List.cons_ne_nil _ _) (by decide)
    (fun h => by cases h) rfl rfl rfl rfl rfl rfl (fun _ => rfl)

/-- A Kubernetes `Service` without annotations whose `Endpoints` have no subset with addresses
and ports: one `Service` resource with no endpoints. -/
theorem parseWatt_service_unrouted {serialization name nspace : String} {ps : List (List (Value × Value))}
    {subsets : List Value} {stored : List (Option (List EndpointAddress × PyDict Value))}
    (hn : name ≠ "") (hps : ps ≠ [])
    (hsn : env.singleNamespace = true → (Value.str nspace).isStr env.ambassadorNamespace = true)
    (hen : env.enableEndpoints = true) (hsub : subsets.mapM subsetEntry = .ok stored)
    (hnone : stored.filterMap id = [])
    (hcrds : env.crdsMissing = false) (hres : env.resolverCrdsMissing = false)
    (hjson : env.loadJson serialization =
      .ok (kubernetesSnapshot [serviceObject name nspace ps] [endpointsObject name nspace subsets]))
    (hfd : env.fromDictError (.str (k8sServiceKey (.str name) (.str nspace)))
      (serviceResource env.ambassadorId name nspace []) = Option.none) :
    parseWatt env serialization true Fetcher.init = .ok () { Fetcher.init with
      k8sServices := PyDict.empty.insert (.str (name ++ "." ++ nspace)) rfl
        ⟨.str name,.str nspace,.list (ps.map .dict)⟩
      services := PyDict.empty.insert (.str (k8sServiceKey (.str name) (.str nspace))) rfl
        (serviceResource env.ambassadorId name nspace [])
      elements := [⟨.str (k8sServiceKey (.str name) (.str nspace)),.str (k8sServiceKey (.str name) (.str nspace)),
        serviceResource env.ambassadorId name nspace []⟩] } := by
  have he := @handleK8s_endpointsObject env name nspace subsets stored hen hn hsub
  simp only [hnone,List.getLast?_nil] at he
  have hw := parseWattDict_kubernetesSnapshot (forM_singleton_ok (handleK8s_serviceObject hn hps hsn Fetcher.init))
    (forM_singleton_ok (he _))
  have hi : (Fetcher.init.k8sEndpoints,Fetcher.init.k8sServices,Fetcher.init.services) =
      (PyDict.empty,PyDict.empty,PyDict.empty) := rfl
  simp only [Prod.mk.injEq] at hi
  simp only [parseWatt,hcrds,hres,Bool.false_eq_true,if_false,if_true,run_bind,run_pure,run_tryCatch,
    run_liftExcept,jsonLoads,hjson,hw,finalize,run_get,hi,resolveServices,entries_insert_empty,List.forM_cons',
    List.forM_nil',run_setService,set_str]
  have hr : resolveService env.isDigit env.ambassadorId (.str (name ++ "." ++ nspace))
      ⟨.str name,.str nspace,.list (ps.map .dict)⟩ (PyDict.empty.find? (.str (name ++ "." ++ nspace))) =
      .ok (serviceResource env.ambassadorId name nspace []) := rfl
  simp only [hr,appendServices,entries_insert_empty,List.forM_cons',List.forM_nil',run_bind,hfd,run_appendElement,
    run_pure]
  rfl

def addresslessSubset : Value :=
  .dict [(.str "addresses",.list []),(.str "ports",.list [.dict [(.str "port",.int 8080)]])]

def addresslessEnv : Env :=
  Env.ofSnapshot (kubernetesSnapshot [serviceObject "web" "default" [[(.str "port",.int 80)]]]
    [endpointsObject "web" "default" [addresslessSubset]])

theorem parseWatt_service_unrouted_addressless :
    parseWatt addresslessEnv "" true Fetcher.init = .ok () { Fetcher.init with
      k8sServices := PyDict.empty.insert (.str "web.default") rfl
        ⟨.str "web",.str "default",.list [.dict [(.str "port",.int 80)]]⟩
      services := PyDict.empty.insert (.str "k8s-web-default") rfl (serviceResource "default" "web" "default" [])
      elements :=
        [⟨.str "k8s-web-default",.str "k8s-web-default",serviceResource "default" "web" "default" []⟩] } :=
  @parseWatt_service_unrouted addresslessEnv "" "web" "default" [[(.str "port",.int 80)]] [addresslessSubset]
    [Option.none] (by decide) (List.cons_ne_nil _ _) (fun h => by cases h) rfl rfl rfl rfl rfl rfl rfl

end Ambassador
