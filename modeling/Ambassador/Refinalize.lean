import Ambassador.Resolve

/-! `finalize` run a second time leaves `services` as it was and appends every `Service`
resource again. -/

set_option autoImplicit false

namespace Ambassador

variable {env : Env}

theorem resolveServices_replay {eps : PyDict K8sEndpoint} {entries : List (Value × K8sService)}
    {t t' : Fetcher} (h : resolveServices env eps entries t = .ok () t') :
    ∃ pairs : List (Value × Value), (∀ p ∈ pairs, p.1.hashable) ∧
      t'.services.entries = PyDict.insertAll pairs t.services.entries ∧
      ∀ u : Fetcher, ∃ services : PyDict Value, resolveServices env eps entries u = .ok () { u with services } ∧
        services.entries = PyDict.insertAll pairs u.services.entries := by
  induction entries generalizing t with
  | nil =>
    cases h
    exact ⟨[],by simp,rfl,fun u => ⟨u.services,rfl,rfl⟩⟩
  | cons e entries ih =>
    obtain ⟨key,k8sSvc⟩ := e
    simp only [resolveServices,List.forM_cons',run_bind,run_liftExcept] at h ih ⊢
    cases hr : resolveService env.isDigit env.ambassadorId key k8sSvc (eps.find? key) with
    | error e => simp [hr] at h
    | ok svc =>
      simp only [hr,run_setService] at h ⊢
      cases hset : t.services.set (.str (k8sServiceKey k8sSvc.name k8sSvc.nspace)) svc with
      | error e => simp [hset] at h
      | ok d =>
        obtain ⟨hk,rfl⟩ := PyDict.set_eq_ok hset
        simp only [hset] at h
        obtain ⟨pairs,hkp,ht',hall⟩ := ih h
        refine ⟨(.str (k8sServiceKey k8sSvc.name k8sSvc.nspace),svc) :: pairs,List.forall_mem_cons.2 ⟨hk,hkp⟩,
          ht',fun u => ?_⟩
        obtain ⟨services,hu,he⟩ := hall { u with services := u.services.insert _ hk svc }
        refine ⟨services,?_,he⟩
        simp only [PyDict.set,hk,dif_pos]
        exact hu

theorem appendServices_replay {entries : List (Value × Value)} {t t' : Fetcher}
    (h : appendServices env entries t = .ok () t') (u : Fetcher) :
    appendServices env entries u =
      .ok () { u with elements := u.elements ++ entries.map fun kv => ⟨kv.1,kv.1,kv.2⟩ } := by
  induction entries generalizing t u with
  | nil => simp only [List.map_nil,List.append_nil]; rfl
  | cons e entries ih =>
    obtain ⟨key,svc⟩ := e
    simp only [appendServices,List.forM_cons',run_bind] at h ih ⊢
    cases hf : env.fromDictError key svc with
    | some msg => simp [hf] at h
    | none =>
      simp only [hf,run_appendElement] at h ⊢
      rw [ih h]
      simp

/-- A second `finalize` leaves `services` as it was and appends every `Service` resource again. -/
theorem finalize_again {s s' : Fetcher} (h : finalize env s = .ok () s') :
    finalize env s' =
      .ok () { s' with elements := s'.elements ++ s'.services.entries.map fun kv => ⟨kv.1,kv.1,kv.2⟩ } := by
  rw [finalize_run] at h
  obtain ⟨services,hfr⟩ := @resolveServices_frame env s.k8sEndpoints s.k8sServices.entries s
  cases hres : resolveServices env s.k8sEndpoints s.k8sServices.entries s with
  | error e t => rw [hres] at h; cases h
  | ok u t =>
    rw [hres] at h hfr
    simp only [final_ok] at hfr
    subst hfr
    obtain ⟨pairs,hkp,hts,hall⟩ := resolveServices_replay hres
    obtain rfl := appendServices_ok h
    obtain ⟨services',hu,he⟩ := hall
      { s with
        services,
        elements := s.elements ++ services.entries.map fun kv => ⟨kv.1,kv.1,kv.2⟩ }
    have hsv : services' = services := by
      refine PyDict.ext_entries ?_
      rw [he]
      simp only at hts ⊢
      rw [hts,PyDict.insertAll_insertAll s.services.distinct hkp]
    subst hsv
    rw [finalize_run]
    simp only at hu ⊢
    rw [hu]
    exact appendServices_replay h _

def webFetcher : Fetcher :=
  { Fetcher.init with
    k8sEndpoints := webEndpointTable,
    k8sServices := PyDict.empty.insert (.str "web.default") rfl webService }

def webResolved : Value :=
  .dict [(.str "apiVersion",.str "ambassador/v1"),(.str "ambassador_id",.str "default"),
    (.str "kind",.str "Service"),(.str "name",.str "web"),(.str "namespace",.str "default"),
    (.str "endpoints",.dict [(.int 80,.list [.dict [(.str "ip",.str "10.0.0.1"),(.str "port",.int 8080)]])])]

def webFinalized : Fetcher :=
  { webFetcher with
    services := PyDict.empty.insert (.str "k8s-web-default") rfl webResolved,
    elements := [⟨.str "k8s-web-default",.str "k8s-web-default",webResolved⟩] }

theorem finalize_again_web :
    finalize (Env.ofSnapshot .none) webFetcher = .ok () webFinalized ∧
    finalize (Env.ofSnapshot .none) webFinalized =
      .ok () { webFinalized with
        elements := webFinalized.elements ++ webFinalized.services.entries.map fun kv => ⟨kv.1,kv.1,kv.2⟩ } :=
  ⟨rfl,@finalize_again (Env.ofSnapshot .none) webFetcher webFinalized rfl⟩

end Ambassador
