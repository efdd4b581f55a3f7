import Ambassador.Sources

/-! How `finalize` resolves a Kubernetes service against its endpoints, against the
description in the spec. -/

set_option autoImplicit false

namespace Ambassador
open Value

/-- `port.get(attr)` on a port spec. -/
def attrValue (kvs : List (Value × Value)) (attr : String) : Value := (lookup kvs (.str attr)).getD .none

/-- The truthy values of `targetPort`, `name` and `port` of a port spec, in that order. -/
def portKeyValues (kvs : List (Value × Value)) : List Value :=
  [attrValue kvs "targetPort",attrValue kvs "name",attrValue kvs "port"].filter truthy

def endpointHit (epPorts : PyDict Value) (v : Value) : Option Value :=
  (epPorts.find? (.str v.pyStr)).filter truthy

section
-- `str.isdigit`
variable (isDigit : String → Bool)

def isDigitKey (v : Value) : Bool := !v.isStr "name" && isDigit v.pyStr

/-- The target port of a port spec with a truthy source port, as the spec describes it. -/
def referenceTarget (epPorts : PyDict Value) (kvs : List (Value × Value)) : Value :=
  if epPorts.entries.length = 1 then (epPorts.values.head?).getD .none
  else ((portKeyValues kvs).findSome? (endpointHit epPorts)).getD
    (((portKeyValues kvs).find? (isDigitKey isDigit)).getD (attrValue kvs "port"))

/-- Source port and target port of every port spec with a truthy source port, in order. -/
def referencePairs (epPorts : PyDict Value) (ps : List (List (Value × Value))) : List (Value × Value) :=
  ps.filterMap fun kvs =>
    if (attrValue kvs "port").truthy then some (attrValue kvs "port",referenceTarget isDigit epPorts kvs)
    else none

end

/-- The truthy endpoint IPs in order, or the service identifier when there are none. -/
def referenceAddrs (key : Value) (ep : K8sEndpoint) : List Value :=
  match ep.addresses.filterMap fun a => a.ip.filter truthy with
  | [] => [key]
  | addrs => addrs

def referenceEndpoint (addrs : List Value) (target : Value) : Value :=
  .list (addrs.map fun a => .dict [(.str "ip",a),(.str "port",target)])

def scanTarget (r : Bool × Value × Value) (srcPort : Value) : Value :=
  if r.2.2.truthy then r.2.2 else r.2.1.or srcPort

theorem or_of_truthy {v : Value} (h : v.truthy) (w : Value) : v.or w = v := by simp [Value.or,h]

theorem or_of_not_truthy {v : Value} (h : v.truthy = false) (w : Value) : v.or w = w := by
  simp [Value.or,h]

theorem getD_dict (kvs : List (Value × Value)) (attr : String) :
    (Value.dict kvs).getD attr .none = .ok (attrValue kvs attr) := rfl

theorem endpointHit_eq (epPorts : PyDict Value) (v : Value) :
    endpointHit epPorts v = if ((epPorts.find? (.str v.pyStr)).getD .none).truthy
      then some ((epPorts.find? (.str v.pyStr)).getD .none) else Option.none := by
  unfold endpointHit
  cases epPorts.find? (.str v.pyStr) <;> simp [Option.filter]

/-- The attribute loop, from a falsy target: whether some attribute was truthy, and the target. -/
theorem scanAttrs_spec (isDigit : String → Bool) (epPorts : PyDict Value) (kvs : List (Value × Value)) (srcPort : Value)
    (attrs : List String) (found : Bool) (fallback target : Value) (ht : target.truthy = false) :
    ∃ r, scanAttrs isDigit epPorts (.dict kvs) attrs found fallback target = .ok r ∧
      r.1 = (found || !((attrs.map (attrValue kvs)).filter truthy).isEmpty) ∧
      scanTarget r srcPort = ((((attrs.map (attrValue kvs)).filter truthy).findSome?
        (endpointHit epPorts)).getD (fallback.or ((((attrs.map (attrValue kvs)).filter truthy).find?
          (isDigitKey isDigit)).getD srcPort))) := by
  induction attrs generalizing found fallback target with
  | nil => exact ⟨_,rfl,by simp,by simp [scanTarget,ht]⟩
  | cons a attrs ih =>
    simp only [scanAttrs,getD_dict,bind,Except.bind,List.map_cons]
    by_cases hv : (attrValue kvs a).truthy
    · simp only [hv,Bool.not_true,Bool.false_eq_true,↓reduceIte,List.filter_cons_of_pos hv,
        List.findSome?_cons,endpointHit_eq]
      by_cases htg : ((epPorts.find? (.str (attrValue kvs a).pyStr)).getD .none).truthy
      · exact ⟨_,by simp only [htg,↓reduceIte]; rfl,by simp,by simp [scanTarget,htg]⟩
      · simp only [htg,Bool.false_eq_true,↓reduceIte]
        obtain ⟨r,hr,h1,h2⟩ := ih true (if (!fallback.truthy && !(attrValue kvs a).isStr "name" &&
          isDigit (attrValue kvs a).pyStr) = true then attrValue kvs a else fallback) _
          (Bool.eq_false_iff.2 htg)
        refine ⟨r,hr,by simp [h1],?_⟩
        rw [h2,List.find?_cons]
        by_cases hf : fallback.truthy
        · simp [hf,or_of_truthy hf]
        · have hcond : (!fallback.truthy && !(attrValue kvs a).isStr "name" &&
              isDigit (attrValue kvs a).pyStr) = isDigitKey isDigit (attrValue kvs a) := by
            simp [isDigitKey,hf,Bool.and_assoc]
          rw [hcond,or_of_not_truthy (Bool.eq_false_iff.2 hf)]
          cases hd : isDigitKey isDigit (attrValue kvs a) <;>
            simp [hd,or_of_truthy hv,or_of_not_truthy (Bool.eq_false_iff.2 hf)]
    · simp only [Bool.eq_false_iff.2 hv,Bool.not_false,↓reduceIte,
        List.filter_cons_of_neg (by simpa using hv)]
      exact ih found fallback target ht

theorem portKeyValues_ne_nil {kvs : List (Value × Value)} (hs : (attrValue kvs "port").truthy) :
    (portKeyValues kvs).isEmpty = false := by
  simp only [portKeyValues,List.filter_cons,hs]
  split <;> split <;> rfl

theorem resolvePort_dict (isDigit : String → Bool) (epPorts : PyDict Value) (kvs : List (Value × Value)) :
    resolvePort isDigit epPorts (.dict kvs) = .ok (if (attrValue kvs "port").truthy
      then some (attrValue kvs "port",referenceTarget isDigit epPorts kvs) else Option.none) := by
  by_cases hs : (attrValue kvs "port").truthy
  · obtain ⟨⟨found,fb,tg⟩,hr,h1,h2⟩ :=
      scanAttrs_spec isDigit epPorts kvs (attrValue kvs "port") ["targetPort","name","port"] false .none .none rfl
    change found = (false || !(portKeyValues kvs).isEmpty) at h1
    change scanTarget _ _ = ((portKeyValues kvs).findSome? _).getD
      (Value.none.or (((portKeyValues kvs).find? _).getD _)) at h2
    rw [portKeyValues_ne_nil hs] at h1
    rw [or_of_not_truthy (rfl : Value.none.truthy = false)] at h2
    simp only [resolvePort,getD_dict,bind,Except.bind,pure,Except.pure,hs,Bool.not_true,
      Bool.false_eq_true,↓reduceIte,referenceTarget,beq_iff_eq]
    split
    · rfl
    · simp only [hr,h1,Bool.not_true,Bool.false_eq_true,↓reduceIte,Bool.false_or]
      rw [← h2]
      rfl
  · simp [resolvePort,getD_dict,hs,bind,Except.bind,pure,Except.pure]

theorem foldlM_addTargetPort (isDigit : String → Bool) (epPorts : PyDict Value) (ps : List (List (Value × Value)))
    (hh : ∀ kvs ∈ ps, (attrValue kvs "port").truthy → (attrValue kvs "port").hashable) (acc : PyDict Value) :
    ∃ d : PyDict Value, (ps.map Value.dict).foldlM (addTargetPort isDigit epPorts) acc = .ok d ∧
      PyDict.Assigned acc.entries (referencePairs isDigit epPorts ps) d.entries := by
  induction ps generalizing acc with
  | nil => exact ⟨acc,rfl,PyDict.Assigned.nil acc.distinct⟩
  | cons kvs ps ih =>
    have hrest : ∀ k ∈ ps, (attrValue k "port").truthy → (attrValue k "port").hashable :=
      fun k hk => hh k (List.mem_cons_of_mem _ hk)
    simp only [List.map_cons,List.foldlM_cons,addTargetPort,resolvePort_dict,bind,Except.bind]
    by_cases hs : (attrValue kvs "port").truthy
    · have hk := hh kvs (List.mem_cons_self _ _) hs
      simp only [hs,↓reduceIte,PyDict.set,hk,dite_true]
      obtain ⟨d,hd,ha⟩ := ih hrest (acc.insert _ hk _)
      refine ⟨d,hd,?_⟩
      simp only [referencePairs,List.filterMap_cons,hs,↓reduceIte]
      exact PyDict.Assigned.cons hk acc.distinct ha
    · obtain ⟨d,hd,ha⟩ := ih hrest acc
      refine ⟨d,by simpa [hs,pure,Except.pure] using hd,?_⟩
      simpa [referencePairs,hs] using ha

theorem referenceAddrs_eq (key : Value) (ep : K8sEndpoint) :
    referenceAddrs key ep = if (targetAddrsOf ep).isEmpty then [key] else targetAddrsOf ep := by
  unfold referenceAddrs targetAddrsOf
  cases ep.addresses.filterMap fun a => a.ip.filter truthy <;> rfl

/-- The `Service` `finalize` assigns for the entry `key` of `k8s_services` whose `ports` are
port specs: its `endpoints` assign each truthy source port, spec by spec, its targets. -/
theorem resolveService_reference (isDigit : String → Bool) (ambassadorId : String) (key : Value) (k8sSvc : K8sService)
    (eps : PyDict K8sEndpoint) (ps : List (List (Value × Value)))
    (hps : k8sSvc.ports = .list (ps.map .dict))
    (hh : ∀ kvs ∈ ps, (attrValue kvs "port").truthy → (attrValue kvs "port").hashable) :
    ∃ M : List (Value × Value),
      resolveService isDigit ambassadorId key k8sSvc (eps.find? key) = .ok (.dict [
        (.str "apiVersion",.str "ambassador/v1"),(.str "ambassador_id",.str ambassadorId),
        (.str "kind",.str "Service"),(.str "name",k8sSvc.name),(.str "namespace",k8sSvc.nspace),
        (.str "endpoints",.dict M)]) ∧
      match eps.find? key with
      | some ep => if ep.ports.entries.isEmpty then M = [] else
          PyDict.Assigned [] ((referencePairs isDigit ep.ports ps).map fun st =>
            (st.1,referenceEndpoint (referenceAddrs key ep) st.2)) M
      | Option.none => M = [] := by
  cases hep : eps.find? key with
  | none => exact ⟨[],rfl,rfl⟩
  | some ep =>
    by_cases he : ep.ports.entries.isEmpty
    · exact ⟨[],by simp [resolveService,serviceTargets,he,Except.map]; rfl,by simp [he]⟩
    · obtain ⟨d,hd,ha⟩ := foldlM_addTargetPort isDigit ep.ports ps hh PyDict.empty
      refine ⟨d.entries.map fun st => (st.1,referenceEndpoint (referenceAddrs key ep) st.2),?_,?_⟩
      · simp only [resolveService,serviceTargets,he,Bool.false_eq_true,↓reduceIte,hps,Value.iter,
          targetPortsOf,bind,Except.bind,hd,pure,Except.pure,Except.map,referenceAddrs_eq]
        rfl
      · simpa [he] using ha.map (referenceEndpoint (referenceAddrs key ep))

def webEndpointTable : PyDict K8sEndpoint :=
  PyDict.empty.insert (.str "web.default") rfl
    ⟨.str "web",.str "default",[⟨some (.str "10.0.0.1"),Option.none,Option.none,Option.none,Option.none⟩],
      PyDict.empty.insert (.str "8080") rfl (.int 8080)⟩

def webService : K8sService := ⟨.str "web",.str "default",.list ([[(.str "port",.int 80)]].map .dict)⟩

def webSnapshot (ports subsets : List Value) : Value :=
  .dict [(.str "Kubernetes",.dict [
    (.str "service",.list [.dict [(.str "kind",.str "Service"),(.str "metadata",.dict [(.str "name",.str "web")]),
      (.str "spec",.dict [(.str "ports",.list ports)])]]),
    (.str "endpoints",.list [.dict [(.str "kind",.str "Endpoints"),
      (.str "metadata",.dict [(.str "name",.str "web")]),(.str "subsets",.list subsets)]])])]

/-- An address known only by its node: the service-name fallback gets the endpoint's port. -/
theorem nodeOnly_address_target :
    (final (parseWatt (Env.ofSnapshot (webSnapshot [.dict [(.str "port",.int 80)]]
        [.dict [(.str "addresses",.list [.dict [(.str "nodeName",.str "node-1")]]),
          (.str "ports",.list [.dict [(.str "port",.int 8080)]])]])) "" true Fetcher.init)).services.find?
        (.str "k8s-web-default") =
      some (.dict [(.str "apiVersion",.str "ambassador/v1"),(.str "ambassador_id",.str "default"),
        (.str "kind",.str "Service"),(.str "name",.str "web"),(.str "namespace",.str "default"),
        (.str "endpoints",.dict [(.int 80,.list [.dict [(.str "ip",.str "web.default"),(.str "port",.int 8080)]])])]) :=
  rfl

/-- One named endpoint port fills two members of the port map, so the single-port rule is
skipped. -/
theorem named_single_port_target :
    (final (parseWatt (Env.ofSnapshot (webSnapshot [.dict [(.str "port",.int 80)]]
        [.dict [(.str "addresses",.list [.dict [(.str "ip",.str "10.0.0.1")]]),
          (.str "ports",.list [.dict [(.str "name",.str "http"),(.str "port",.int 8080)]])]])) "" true
          Fetcher.init)).services.find? (.str "k8s-web-default") =
      some (.dict [(.str "apiVersion",.str "ambassador/v1"),(.str "ambassador_id",.str "default"),
        (.str "kind",.str "Service"),(.str "name",.str "web"),(.str "namespace",.str "default"),
        (.str "endpoints",.dict [(.int 80,.list [.dict [(.str "ip",.str "10.0.0.1"),(.str "port",.int 80)]])])]) :=
  rfl

/-- Two subsets of `web`: the entry left holds the second only. -/
theorem later_subset_replaces_earlier :
    ((final (parseWatt (Env.ofSnapshot (webSnapshot []
        [.dict [(.str "addresses",.list [.dict [(.str "ip",.str "10.0.0.1")]]),
          (.str "ports",.list [.dict [(.str "port",.int 8080)]])],
        .dict [(.str "addresses",.list [.dict [(.str "ip",.str "10.0.0.2")]]),
          (.str "ports",.list [.dict [(.str "port",.int 9090)]])]])) "" false
          Fetcher.init)).k8sEndpoints.find? (.str "web.default")).map
      (fun ep => (ep.addresses.map (·.ip),ep.ports.entries)) =
      some ([some (.str "10.0.0.2")],[(.str "9090",.int 9090)]) := rfl

end Ambassador
