import Ambassador.Sources

/-! The `ambassador_id` filter: along any calls, everything emitted was built from a dict
`Config.good_ambassador_id` accepts. -/

set_option autoImplicit false

namespace Ambassador

/-- Every resource and every `services` value was built from a dict the filter accepts. -/
structure Filtered (env : Env) (s : Fetcher) : Prop where
  elements : ∀ r ∈ s.elements, env.goodAmbassadorId r.attrs
  services : ∀ kv ∈ s.services.entries, env.goodAmbassadorId kv.2

theorem Filtered.init {env : Env} : Filtered env Fetcher.init :=
  ⟨by simp [Fetcher.init],by simp [Fetcher.init,PyDict.empty]⟩

theorem resolveService_ambassadorId {isDigit : String → Bool} {ambassadorId : String} {key : Value}
    {k8sSvc : K8sService} {k8sEp : Option K8sEndpoint} {v : Value}
    (h : resolveService isDigit ambassadorId key k8sSvc k8sEp = .ok v) :
    v.getItem "ambassador_id" = .ok (.str ambassadorId) := by
  cases hs : serviceTargets isDigit k8sSvc k8sEp with
  | error e => simp [resolveService,hs,Except.map] at h
  | ok r => simp only [resolveService,hs,Except.map,Except.ok.injEq] at h; subst h; rfl

section
variable {env : Env}

theorem good_of_handsToFromDict {obj : Value} (h : handsToFromDict env obj) :
    env.goodAmbassadorId obj := by
  cases obj <;> simp only [handsToFromDict,Bool.and_eq_true,Bool.false_eq_true] at h
  exact h.1

theorem keeps_processObject (obj rkey : Value) : Keeps (Filtered env) (processObject env obj rkey) := by
  intro t h
  have hs := processObject_step env obj rkey t
  refine ⟨fun r hr => ?_,fun kv hkv => ?_⟩
  · rw [hs.elements] at hr
    rcases List.mem_append.1 hr with hr | hr
    · exact h.1 r hr
    · simp only [madeResource] at hr
      split at hr
      · rename_i hc
        simp only [List.mem_singleton] at hr
        subst hr
        exact good_of_handsToFromDict (Bool.and_eq_true _ _ ▸ hc).1
      · simp at hr
  · rcases hs.services with he | ⟨hg,name,hk,he⟩
    · exact h.2 kv (he ▸ hkv)
    · rw [he] at hkv
      rcases PyDict.mem_insert hkv with hv | hv
      · exact hv ▸ hg
      · exact h.2 kv hv

theorem keeps_setService {key v : Value} (hv : env.goodAmbassadorId v) :
    Keeps (Filtered env) (setService key v) := by
  intro s h
  rw [run_setService]
  cases hset : s.services.set key v with
  | error e => exact h
  | ok d =>
    obtain ⟨hk,rfl⟩ := PyDict.set_eq_ok hset
    refine ⟨h.1,fun kv hkv => ?_⟩
    simp only [final_ok] at hkv
    rcases PyDict.mem_insert hkv with hv' | hv'
    · exact hv' ▸ hv
    · exact h.2 kv hv'

theorem keeps_of_frame (f : Fetcher → Fetcher) (he : ∀ s, (f s).elements = s.elements)
    (hs : ∀ s, (f s).services = s.services) : Keeps (Filtered env) (modify f) :=
  Keeps.modify' fun s h => ⟨he s ▸ h.1,hs s ▸ h.2⟩

theorem keeps_postError (msg : String) : Keeps (Filtered env) (postError msg) :=
  keeps_of_frame _ (fun _ => rfl) (fun _ => rfl)

theorem keeps_pushLocation (filename : Value) (ocount : Int) :
    Keeps (Filtered env) (pushLocation filename ocount) :=
  keeps_of_frame _ (fun _ => rfl) (fun _ => rfl)

theorem keeps_bumpOcount : Keeps (Filtered env) bumpOcount :=
  keeps_of_frame _ (fun _ => rfl) (fun _ => rfl)

theorem keeps_setK8sEndpoint (key : String) (entry : K8sEndpoint) :
    Keeps (Filtered env) (setK8sEndpoint key entry) :=
  keeps_of_frame _ (fun _ => rfl) (fun _ => rfl)

theorem keeps_setK8sService (key : String) (entry : K8sService) :
    Keeps (Filtered env) (setK8sService key entry) :=
  keeps_of_frame _ (fun _ => rfl) (fun _ => rfl)

theorem keeps_storeSubsets (key : String) (name nspace : Value) (subsets : List Value) :
    Keeps (Filtered env) (storeSubsets key name nspace subsets) := by
  unfold storeSubsets
  repeat' with_reducible first
    | exact Keeps.pure' _
    | exact Keeps.liftExcept' _
    | exact keeps_setK8sEndpoint _ _
    | refine Keeps.bind' ?_ fun _ => ?_
    | refine Keeps.forM' fun _ _ => ?_
    | split

theorem keeps_popLocation : Keeps (Filtered env) popLocation := by
  refine Keeps.getBind' fun s h => ?_
  split
  · exact Keeps.throw' _
  · exact fun _ _ => ⟨h.1,h.2⟩

theorem keeps_annotateFilename : Keeps (Filtered env) annotateFilename := by
  refine Keeps.getBind' fun s h => ?_
  repeat' first
    | exact Keeps.pure' _
    | exact Keeps.throw' _
    | exact fun _ _ => ⟨h.1,h.2⟩
    | split

theorem keeps_parseObjectWith {handleK8s : Value → Py Unit}
    (hh : ∀ obj, Keeps (Filtered env) (handleK8s obj)) (objects : Value) (k8s : Bool)
    (rkey filename : Value) : Keeps (Filtered env) (parseObjectWith env handleK8s objects k8s rkey filename) := by
  unfold parseObjectWith
  repeat' with_reducible first
    | exact Keeps.liftExcept' _
    | exact keeps_pushLocation _ _
    | exact keeps_bumpOcount
    | exact keeps_popLocation
    | exact keeps_processObject _ _
    | exact hh _
    | refine Keeps.bind' ?_ fun _ => ?_
    | refine Keeps.forM' fun _ _ => ?_
    | split

theorem keeps_ignoreK8s (obj : Value) : Keeps (Filtered env) (ignoreK8s obj) := Keeps.pure' _

theorem keeps_k8sHandler {kind : String} {handler : Value → Py HandlerResult}
    (hk : k8sHandler env kind = some handler) (obj : Value) : Keeps (Filtered env) (handler obj) := by
  unfold k8sHandler at hk
  split at hk <;> cases hk
  all_goals
    simp only [handleK8sCrd,handleK8sEndpoints,handleK8sService,handleK8sSecret]
    repeat' with_reducible first
      | exact Keeps.pure' _
      | exact Keeps.throw' _
      | exact Keeps.liftExcept' _
      | exact Keeps.get'
      | exact keeps_annotateFilename
      | exact keeps_storeSubsets _ _ _ _
      | exact keeps_setK8sService _ _
      | exact keeps_parseObjectWith keeps_ignoreK8s _ _ _ _
      | refine Keeps.tryCatch' ?_ fun _ => ?_
      | refine Keeps.bind' ?_ fun _ => ?_
      | refine Keeps.forM' fun _ _ => ?_
      | split

theorem keeps_handleK8sCrd (obj : Value) : Keeps (Filtered env) (handleK8sCrd env obj) :=
  keeps_k8sHandler (show k8sHandler env "crd" = some (handleK8sCrd env) from rfl) obj

theorem keeps_handleK8s (obj : Value) : Keeps (Filtered env) (handleK8s env obj) := by
  unfold handleK8s
  repeat' with_reducible first
    | exact Keeps.pure' _
    | exact Keeps.liftExcept' _
    | exact Keeps.get'
    | exact keeps_k8sHandler ‹_› _
    | exact keeps_parseObjectWith keeps_ignoreK8s _ _ _ _
    | refine Keeps.bind' ?_ fun _ => ?_
    | split

theorem keeps_parseObject (objects : Value) (k8s : Bool) (rkey filename : Value) :
    Keeps (Filtered env) (parseObject env objects k8s rkey filename) :=
  keeps_parseObjectWith keeps_handleK8s objects k8s rkey filename

theorem keeps_appendServices {entries : List (Value × Value)}
    (h : ∀ kv ∈ entries, env.goodAmbassadorId kv.2) : Keeps (Filtered env) (appendServices env entries) := by
  refine Keeps.forM' fun kv hkv s hs => ?_
  obtain ⟨key,svc⟩ := kv
  cases hf : env.fromDictError key svc with
  | some msg => simpa [hf] using hs
  | none =>
    simp only [hf,run_appendElement,final_ok]
    refine ⟨fun r hr => (List.mem_append.1 hr).elim (hs.1 r) fun hr => ?_,hs.2⟩
    simp only [List.mem_singleton] at hr
    exact hr ▸ h _ hkv

-- The dicts the fetcher builds itself are accepted once the filter accepts every dict
-- carrying `Config.ambassador_id`.
variable (hgood : ∀ d, d.getItem "ambassador_id" = .ok (.str env.ambassadorId) → env.goodAmbassadorId d)
include hgood

theorem keeps_finalize : Keeps (Filtered env) (finalize env) := by
  unfold finalize
  refine Keeps.bind' Keeps.get' fun _ => Keeps.bind' ?_ fun _ => Keeps.getBind' fun s h => ?_
  · refine Keeps.forM' fun _ _ => Keeps.liftExceptBind' fun v hv => ?_
    exact keeps_setService (hgood v (resolveService_ambassadorId hv))
  · exact keeps_appendServices h.2

theorem keeps_handleConsulService (consulRkey consulObject : Value) :
    Keeps (Filtered env) (handleConsulService env consulRkey consulObject) := by
  unfold handleConsulService
  repeat' with_reducible first
    | exact Keeps.pure' _
    | exact Keeps.liftExcept' _
    | exact keeps_setService (hgood _ (by with_unfolding_all rfl))
    | refine Keeps.bind' ?_ fun _ => ?_
    | split

theorem keeps_parseYaml (serialization : String) (k8s : Bool) (rkey filename : Value) (fin : Bool) :
    Keeps (Filtered env) (parseYaml env serialization k8s rkey filename fin) := by
  unfold parseYaml
  repeat' with_reducible first
    | exact Keeps.pure' _
    | exact Keeps.throw' _
    | exact Keeps.liftExcept' _
    | exact Keeps.location
    | exact keeps_postError _
    | exact keeps_finalize hgood
    | exact keeps_parseObject _ _ _ _
    | refine Keeps.tryCatch' ?_ fun _ => ?_
    | refine Keeps.bind' ?_ fun _ => ?_
    | split

theorem keeps_parseJson (serialization : String) (k8s : Bool) (rkey filename : Value) (fin : Bool) :
    Keeps (Filtered env) (parseJson env serialization k8s rkey filename fin) := by
  unfold parseJson
  repeat' with_reducible first
    | exact Keeps.pure' _
    | exact Keeps.throw' _
    | exact Keeps.liftExcept' _
    | exact Keeps.location
    | exact keeps_postError _
    | exact keeps_finalize hgood
    | exact keeps_parseObject _ _ _ _
    | refine Keeps.tryCatch' ?_ fun _ => ?_
    | refine Keeps.bind' ?_ fun _ => ?_
    | split

theorem keeps_parseWattDict (wattDict : Value) : Keeps (Filtered env) (parseWattDict env wattDict) := by
  unfold parseWattDict
  repeat' with_reducible first
    | exact Keeps.pure' _
    | exact Keeps.liftExcept' _
    | exact Keeps.get'
    | exact keeps_parseObject _ _ _ _
    | exact keeps_handleK8s _
    | exact keeps_handleK8sCrd _
    | exact keeps_handleConsulService hgood _ _
    | refine Keeps.bind' ?_ fun _ => ?_
    | refine Keeps.forM' fun _ _ => ?_
    | split

theorem keeps_parseWatt (serialization : String) (fin : Bool) :
    Keeps (Filtered env) (parseWatt env serialization fin) := by
  unfold parseWatt
  repeat' with_reducible first
    | exact Keeps.pure' _
    | exact Keeps.throw' _
    | exact Keeps.liftExcept' _
    | exact Keeps.location
    | exact keeps_postError _
    | exact keeps_finalize hgood
    | exact keeps_parseWattDict hgood _
    | refine Keeps.tryCatch' ?_ fun _ => ?_
    | refine Keeps.bind' ?_ fun _ => ?_
    | split

theorem keeps_loadFromFilesystem (inputs : List InputFile) (k8s fin : Bool) :
    Keeps (Filtered env) (loadFromFilesystem env inputs k8s fin) := by
  unfold loadFromFilesystem
  repeat' with_reducible first
    | exact Keeps.pure' _
    | exact Keeps.throw' _
    | exact keeps_postError _
    | exact keeps_finalize hgood
    | exact keeps_parseYaml hgood _ _ _ _ _
    | refine Keeps.bind' ?_ fun _ => ?_
    | refine Keeps.forM' fun _ _ => ?_
    | split

theorem keeps_run (c : Call) : Keeps (Filtered env) (c.run env) := by
  cases c with
  | parseYaml => exact keeps_parseYaml hgood _ _ _ _ _
  | parseJson => exact keeps_parseJson hgood _ _ _ _ _
  | parseWatt => exact keeps_parseWatt hgood _ _
  | loadFromFilesystem => exact keeps_loadFromFilesystem hgood _ _ _
  | finalize => exact keeps_finalize hgood

theorem runCalls_keeps (calls : List Call) (s : Fetcher) (h : Filtered env s) :
    Filtered env (runCalls env s calls) := by
  induction calls generalizing s with
  | nil => exact h
  | cons c cs ih => exact ih _ (keeps_run hgood c s h)

end

/-- Along any calls from a fresh fetcher, everything emitted was built from an accepted dict. -/
theorem runCalls_filtered (env : Env)
    (hgood : ∀ d, d.getItem "ambassador_id" = .ok (.str env.ambassadorId) → env.goodAmbassadorId d)
    (calls : List Call) :
    (∀ r ∈ (runCalls env Fetcher.init calls).elements, env.goodAmbassadorId r.attrs) ∧
    ∀ kv ∈ (runCalls env Fetcher.init calls).services.entries, env.goodAmbassadorId kv.2 :=
  let h := runCalls_keeps hgood calls Fetcher.init Filtered.init
  ⟨h.1,h.2⟩

theorem ofSnapshot_accepts_own_id (snapshot : Value) (d : Value)
    (h : d.getItem "ambassador_id" = .ok (.str (Env.ofSnapshot snapshot).ambassadorId)) :
    (Env.ofSnapshot snapshot).goodAmbassadorId d := by
  cases d with
  | dict kvs =>
    simp only [Value.getItem] at h
    split at h
    · rename_i v hv
      cases h
      simp [Env.ofSnapshot,Value.getD,hv,Value.isStr,Except.map]
    · cases h
  | _ => cases h

theorem runCalls_filtered_ofSnapshot :
    (∀ d, d.getItem "ambassador_id" = .ok (.str (Env.ofSnapshot (.dict [])).ambassadorId) →
      (Env.ofSnapshot (.dict [])).goodAmbassadorId d) ∧
    ((∀ r ∈ (runCalls (Env.ofSnapshot (.dict [])) Fetcher.init [.parseWatt "" true,.finalize]).elements,
        (Env.ofSnapshot (.dict [])).goodAmbassadorId r.attrs) ∧
      ∀ kv ∈ (runCalls (Env.ofSnapshot (.dict [])) Fetcher.init [.parseWatt "" true,.finalize]).services.entries,
        (Env.ofSnapshot (.dict [])).goodAmbassadorId kv.2) :=
  ⟨ofSnapshot_accepts_own_id _,runCalls_filtered _ (ofSnapshot_accepts_own_id _) _⟩

end Ambassador
