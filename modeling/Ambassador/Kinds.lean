import Ambassador.Sources

/-! Every resource carries a `kind` member, along any calls; `process_object` checks its
presence only, so an empty or `None` kind passes. -/

set_option autoImplicit false

namespace Ambassador

/-- `'kind' in d`, for a dict `d`. -/
def hasKind : Value → Bool
  | .dict kvs => (Value.lookup kvs (.str "kind")).isSome
  | _ => false

/-- Every resource, and every value in `services` waiting to become one, carries a kind. -/
structure KindsPresent (s : Fetcher) : Prop where
  elements : ∀ r ∈ s.elements, hasKind r.attrs
  services : ∀ kv ∈ s.services.entries, hasKind kv.2

theorem KindsPresent.init : KindsPresent Fetcher.init :=
  ⟨by simp [Fetcher.init],by simp [Fetcher.init,PyDict.empty]⟩

theorem hasKind_of_handsToFromDict {env : Env} {obj : Value} (h : handsToFromDict env obj) : hasKind obj := by
  cases obj <;> simp only [handsToFromDict,Bool.false_eq_true] at h
  simp only [Bool.and_eq_true] at h
  split at h
  · simp [*,hasKind]
  · simp at h

theorem attrs_of_mem_madeResource {env : Env} {label : Value} {n : Int} {obj : Value} {r : ACResource}
    (hr : r ∈ madeResource env label n obj) : handsToFromDict env obj ∧ r.attrs = obj := by
  unfold madeResource at hr
  split at hr
  · rename_i hc
    rw [List.mem_singleton.1 hr]
    exact ⟨(Bool.and_eq_true _ _ ▸ hc).1,rfl⟩
  · cases hr

theorem hasKind_resolveService {isDigit : String → Bool} {ambassadorId : String} {key : Value}
    {k8sSvc : K8sService} {k8sEp : Option K8sEndpoint} {v : Value}
    (h : resolveService isDigit ambassadorId key k8sSvc k8sEp = .ok v) :
    hasKind v := by
  cases hs : serviceTargets isDigit k8sSvc k8sEp with
  | error e => simp [resolveService,hs,Except.map] at h
  | ok r => simp only [resolveService,hs,Except.map,Except.ok.injEq] at h; subst h; with_unfolding_all rfl

theorem kinds_of_frame {f : Fetcher → Fetcher}
    (hf : ∀ s, ((f s).elements,(f s).services) = (s.elements,s.services)) : Keeps KindsPresent (modify f) :=
  Keeps.modify' fun s h => by
    obtain ⟨he,hs⟩ := Prod.mk.inj (hf s)
    exact ⟨he ▸ h.1,hs ▸ h.2⟩

theorem kinds_postError (msg : String) : Keeps KindsPresent (postError msg) := kinds_of_frame fun _ => rfl

theorem kinds_pushLocation (filename : Value) (ocount : Int) : Keeps KindsPresent (pushLocation filename ocount) :=
  kinds_of_frame fun _ => rfl

theorem kinds_bumpOcount : Keeps KindsPresent bumpOcount := kinds_of_frame fun _ => rfl

theorem kinds_setK8sEndpoint (key : String) (entry : K8sEndpoint) : Keeps KindsPresent (setK8sEndpoint key entry) :=
  kinds_of_frame fun _ => rfl

theorem kinds_setK8sService (key : String) (entry : K8sService) : Keeps KindsPresent (setK8sService key entry) :=
  kinds_of_frame fun _ => rfl

theorem kinds_popLocation : Keeps KindsPresent popLocation := by
  refine Keeps.getBind' fun s h => ?_
  split
  · exact Keeps.throw' _
  · exact fun _ _ => ⟨h.1,h.2⟩

theorem kinds_annotateFilename : Keeps KindsPresent annotateFilename := by
  refine Keeps.getBind' fun s h => ?_
  repeat' first
    | exact Keeps.pure' _
    | exact Keeps.throw' _
    | exact fun _ _ => ⟨h.1,h.2⟩
    | split

theorem kinds_storeSubsets (key : String) (name nspace : Value) (subsets : List Value) :
    Keeps KindsPresent (storeSubsets key name nspace subsets) := by
  unfold storeSubsets
  repeat' with_reducible first
    | refine Keeps.bind' ?_ fun _ => ?_
    | split
    | exact Keeps.pure' _
    | exact Keeps.liftExcept' _
    | exact kinds_setK8sEndpoint _ _
    | refine Keeps.forM' fun _ _ => ?_

theorem kinds_setService {key v : Value} (hv : hasKind v) : Keeps KindsPresent (setService key v) := by
  intro s h
  rw [run_setService]
  cases hset : s.services.set key v with
  | error e => exact h
  | ok d =>
    obtain ⟨hk,rfl⟩ := PyDict.set_eq_ok hset
    refine ⟨h.1,fun kv hkv => ?_⟩
    simp only [final_ok] at hkv
    rcases PyDict.mem_insert hkv with hv' | hv'
    · exact hv' ▸ hv
    · exact h.2 kv hv'

variable (env : Env)

theorem hasKind_or_services_kept (obj rkey : Value) (t : Fetcher) :
    hasKind obj ∨ (final (processObject env obj rkey t)).services = t.services := by
  cases obj
  case dict kvs =>
    cases hl : Value.lookup kvs (.str "kind") with
    | some kind => exact .inl (by simp [hasKind,hl])
    | none =>
      refine .inr ?_
      simp only [processObject,hl]
      split
      · rfl
      · simp only [run_bind,run_location,run_liftExcept]
        cases env.jsonDumps _ <;> rfl
  all_goals
    refine .inr ?_
    simp only [processObject]
    split
    · rfl
    · simp only [run_bind,run_location,run_liftExcept]
      cases env.jsonDumps _ <;> rfl

theorem kinds_processObject (obj rkey : Value) : Keeps KindsPresent (processObject env obj rkey) := by
  intro t h
  have hs := processObject_step env obj rkey t
  refine ⟨fun r hr => ?_,fun kv hkv => ?_⟩
  · rw [hs.elements] at hr
    rcases List.mem_append.1 hr with hr | hr
    · exact h.1 r hr
    · obtain ⟨hc,rfl⟩ := attrs_of_mem_madeResource hr
      exact hasKind_of_handsToFromDict hc
  · rcases hasKind_or_services_kept env obj rkey t with hk | hsame
    · rcases hs.services with he | ⟨-,name,hn,he⟩
      · exact h.2 kv (he ▸ hkv)
      · rw [he] at hkv
        rcases PyDict.mem_insert hkv with hv | hv
        · exact hv ▸ hk
        · exact h.2 kv hv
    · exact h.2 kv (hsame ▸ hkv)

theorem kinds_parseObjectWith {handleK8s : Value → Py Unit} (hh : ∀ obj, Keeps KindsPresent (handleK8s obj))
    (objects : Value) (k8s : Bool) (rkey filename : Value) :
    Keeps KindsPresent (parseObjectWith env handleK8s objects k8s rkey filename) := by
  unfold parseObjectWith
  repeat' with_reducible first
    | refine Keeps.bind' ?_ fun _ => ?_
    | split
    | exact Keeps.liftExcept' _
    | exact kinds_pushLocation _ _
    | exact kinds_bumpOcount
    | exact kinds_popLocation
    | exact kinds_processObject env _ _
    | exact hh _
    | refine Keeps.forM' fun _ _ => ?_

theorem kinds_ignoreK8s (obj : Value) : Keeps KindsPresent (ignoreK8s obj) := Keeps.pure' _

theorem kinds_k8sHandler {kind : String} {handler : Value → Py HandlerResult}
    (hk : k8sHandler env kind = some handler) (obj : Value) : Keeps KindsPresent (handler obj) := by
  unfold k8sHandler at hk
  split at hk <;> cases hk
  all_goals
    simp only [handleK8sCrd,handleK8sEndpoints,handleK8sService,handleK8sSecret]
    repeat' with_reducible first
      | refine Keeps.bind' ?_ fun _ => ?_
      | split
      | exact Keeps.pure' _
      | exact Keeps.liftExcept' _
      | exact Keeps.get'
      | exact kinds_annotateFilename
      | exact kinds_storeSubsets _ _ _ _
      | exact kinds_setK8sService _ _
      | exact kinds_parseObjectWith env kinds_ignoreK8s _ _ _ _
      | refine Keeps.tryCatch' ?_ fun _ => ?_
      | exact Keeps.throw' _

theorem kinds_handleK8sCrd (obj : Value) : Keeps KindsPresent (handleK8sCrd env obj) :=
  kinds_k8sHandler env (show k8sHandler env "crd" = some (handleK8sCrd env) from rfl) obj

theorem kinds_handleK8s (obj : Value) : Keeps KindsPresent (handleK8s env obj) := by
  unfold handleK8s
  repeat' with_reducible first
    | refine Keeps.bind' ?_ fun _ => ?_
    | split
    | exact Keeps.pure' _
    | exact Keeps.liftExcept' _
    | exact Keeps.get'
    | exact kinds_k8sHandler env ‹_› _
    | exact kinds_parseObjectWith env kinds_ignoreK8s _ _ _ _

theorem kinds_parseObject (objects : Value) (k8s : Bool) (rkey filename : Value) :
    Keeps KindsPresent (parseObject env objects k8s rkey filename) :=
  kinds_parseObjectWith env (kinds_handleK8s env) objects k8s rkey filename

theorem kinds_appendServices {entries : List (Value × Value)} (h : ∀ kv ∈ entries, hasKind kv.2) :
    Keeps KindsPresent (appendServices env entries) := by
  refine Keeps.forM' fun kv hkv s hs => ?_
  obtain ⟨key,svc⟩ := kv
  cases hf : env.fromDictError key svc with
  | some msg => simpa [hf] using hs
  | none =>
    simp only [hf,run_appendElement,final_ok]
    refine ⟨fun r hr => (List.mem_append.1 hr).elim (hs.1 r) fun hr => ?_,hs.2⟩
    simp only [List.mem_singleton] at hr
    exact hr ▸ h _ hkv

theorem kinds_finalize : Keeps KindsPresent (finalize env) := by
  unfold finalize
  refine Keeps.bind' Keeps.get' fun _ => Keeps.bind' ?_ fun _ => Keeps.getBind' fun s h => ?_
  · exact Keeps.forM' fun _ _ => Keeps.liftExceptBind' fun _ hv => kinds_setService (hasKind_resolveService hv)
  · exact kinds_appendServices env h.2

theorem kinds_handleConsulService (consulRkey consulObject : Value) :
    Keeps KindsPresent (handleConsulService env consulRkey consulObject) := by
  unfold handleConsulService
  repeat' with_reducible first
    | refine Keeps.bind' ?_ fun _ => ?_
    | split
    | exact Keeps.pure' _
    | exact Keeps.liftExcept' _
    | exact kinds_setService (by with_unfolding_all rfl)

theorem kinds_parseWattDict (wattDict : Value) : Keeps KindsPresent (parseWattDict env wattDict) := by
  unfold parseWattDict
  repeat' with_reducible first
    | refine Keeps.bind' ?_ fun _ => ?_
    | split
    | exact Keeps.pure' _
    | exact Keeps.liftExcept' _
    | exact Keeps.get'
    | exact kinds_parseObject env _ _ _ _
    | exact kinds_handleK8s env _
    | exact kinds_handleK8sCrd env _
    | exact kinds_handleConsulService env _ _
    | refine Keeps.forM' fun _ _ => ?_

theorem kinds_run (c : Call) : Keeps KindsPresent (c.run env) := by
  cases c
  all_goals
    simp only [Call.run,parseYaml,parseJson,parseWatt,loadFromFilesystem]
    repeat' with_reducible first
      | refine Keeps.bind' ?_ fun _ => ?_
      | split
      | exact Keeps.pure' _
      | exact Keeps.liftExcept' _
      | exact Keeps.location
      | exact kinds_postError _
      | exact kinds_finalize env
      | exact kinds_parseObject env _ _ _ _
      | exact kinds_parseWattDict env _
      | refine Keeps.tryCatch' ?_ fun _ => ?_
      | refine Keeps.forM' fun _ _ => ?_
      | exact Keeps.throw' _

/-- Along any calls from a fresh fetcher, every resource and every `services` value has a kind. -/
theorem runCalls_kinds_present (env : Env) (calls : List Call) :
    (∀ r ∈ (runCalls env Fetcher.init calls).elements, hasKind r.attrs) ∧
    ∀ kv ∈ (runCalls env Fetcher.init calls).services.entries, hasKind kv.2 := by
  suffices h : ∀ s, KindsPresent s → KindsPresent (runCalls env s calls) from
    ⟨(h _ KindsPresent.init).1,(h _ KindsPresent.init).2⟩
  induction calls with
  | nil => exact fun _ h => h
  | cons c cs ih => exact fun s h => ih _ (kinds_run env c s h)

end Ambassador
