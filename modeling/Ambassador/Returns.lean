import Ambassador.Ordinals
import Ambassador.Resolve

/-! When `parse_object` with `k8s=False` and `finalize` return normally. -/

set_option autoImplicit false

namespace Ambassador
open Value

variable (env : Env)

/-- An object `process_object` raises on: an accepted `Service` without a usable `name`, or an
accepted kindless dict or a non-dict whose error text `json.dumps` cannot write. -/
def raisesOn (obj : Value) : Bool :=
  match obj with
  | .dict kvs => env.goodAmbassadorId obj &&
    match lookup kvs (.str "kind") with
    | Option.none => !obj.dumpable
    | some kind => kind.isStr "Service" && !((lookup kvs (.str "name")).map Value.hashable).getD false
  | _ => !obj.dumpable

variable {env}

theorem processObject_returns_iff (obj rkey : Value) (t : Fetcher) :
    (∃ t', processObject env obj rkey t = .ok () t') ↔ raisesOn env obj = false := by
  cases obj
  case dict kvs =>
    by_cases hg : env.goodAmbassadorId (.dict kvs)
    · cases hk : lookup kvs (.str "kind") with
      | none => cases hd : (Value.dict kvs).dumpable <;> simp [processObject,raisesOn,Env.jsonDumps,hg,hk,hd]
      | some kind =>
        by_cases hp : kind.isStr "Pragma"
        · have hsv : kind.isStr "Service" = false := by
            cases kind <;> simp_all [Value.isStr]
          simp only [processObject,raisesOn,hg,hk,hp,hsv,Bool.not_true,Bool.false_eq_true,↓reduceIte]
          split <;> simp [hsv]
        · by_cases hsv : kind.isStr "Service"
          · cases hn : lookup kvs (.str "name") with
            | none => simp [processObject,raisesOn,hg,hk,hp,hsv,hn,getItem]
            | some name =>
              by_cases hh : name.hashable <;>
                simp [processObject,raisesOn,hg,hk,hp,hsv,hn,hh,getItem,run_setService,PyDict.set]
          · cases hf : env.fromDictError (.str (formatRkey (rkey.or t.filename) t.ocount)) (.dict kvs) <;>
              simp [processObject,raisesOn,fromDictCall,hg,hk,hp,hsv,hf]
    · simp [processObject,raisesOn,hg]
  all_goals
    simp only [processObject,raisesOn]
    split
    · rename_i hf
      simp only [Bool.not_eq_true'] at hf
      simp [dumpable_of_not_truthy hf]
    · cases hd : dumpable _ <;> simp [Env.jsonDumps,hd]

theorem processObjects_returns_iff (objs : List Value) (rkey : Value) (t : Fetcher) :
    (∃ t', processObjects env objs rkey t = .ok () t') ↔ ∀ obj ∈ objs, raisesOn env obj = false := by
  induction objs generalizing t with
  | nil => exact ⟨fun _ _ h => absurd h (List.not_mem_nil _),fun _ => ⟨t,rfl⟩⟩
  | cons obj objs ih =>
    rw [run_processObjects_cons,List.forall_mem_cons,← processObject_returns_iff obj rkey t]
    cases processObject env obj rkey t with
    | ok u t1 => simp [ih]
    | error e t1 => simp

theorem processObjects_saved {objs : List Value} {rkey : Value} {t t' : Fetcher}
    (h : processObjects env objs rkey t = .ok () t') : t'.saved = t.saved := by
  induction objs generalizing t with
  | nil => cases h; rfl
  | cons obj objs ih =>
    rw [run_processObjects_cons] at h
    have hs := processObject_step env obj rkey t
    cases h1 : processObject env obj rkey t with
    | error e t1 => rw [h1] at h; cases h
    | ok u t1 =>
      rw [h1,final_ok] at hs
      rw [h1] at h
      exact (ih h).trans hs.saved

/-- A `parse_object` call with `k8s=False` returns exactly when no object is one it raises on. -/
theorem parseObject_false_returns_iff (objs : List Value) (rkey filename : Value) (s : Fetcher) :
    (∃ s', parseObject env (.list objs) false rkey filename s = .ok () s') ↔
      ∀ obj ∈ objs, raisesOn env obj = false := by
  rw [parseObject_false_run,← processObjects_returns_iff objs rkey]
  cases h : processObjects env objs rkey
      { s with saved := (s.filename,s.ocount) :: s.saved,filename,ocount := 1 } with
  | error e t => simp
  | ok u t =>
    have hsaved := processObjects_saved h
    simp only [popLocation,run_bind,run_get,hsaved]
    exact ⟨fun _ => ⟨t,rfl⟩,fun _ => ⟨_,rfl⟩⟩

def PortSpecs (entries : List (Value × K8sService)) : Prop :=
  ∀ kv ∈ entries, ∃ ps : List (List (Value × Value)),
    kv.2.ports = .list (ps.map .dict) ∧ ∀ kvs ∈ ps, (attrValue kvs "port").hashable

theorem resolveServices_returns (eps : PyDict K8sEndpoint) {entries : List (Value × K8sService)}
    (hports : PortSpecs entries) (t : Fetcher) : ∃ t', resolveServices env eps entries t = .ok () t' := by
  induction entries generalizing t with
  | nil => exact ⟨t,rfl⟩
  | cons e entries ih =>
    obtain ⟨ps,hps,hh⟩ := hports e (List.mem_cons_self _ _)
    obtain ⟨M,hres,-⟩ := resolveService_reference env.isDigit env.ambassadorId e.1 e.2 eps ps hps
      fun kvs hk _ => hh kvs hk
    simp only [resolveServices,List.forM_cons',run_bind,run_liftExcept,hres,run_setService,PyDict.set]
    exact ih (fun kv hkv => hports kv (List.mem_cons_of_mem _ hkv)) _

theorem appendServices_returns (hfd : ∀ key v, env.fromDictError key v = Option.none)
    (entries : List (Value × Value)) (t : Fetcher) : ∃ t', appendServices env entries t = .ok () t' := by
  induction entries generalizing t with
  | nil => exact ⟨t,rfl⟩
  | cons e entries ih =>
    simp only [appendServices,List.forM_cons',run_bind,hfd,run_appendElement] at ih ⊢
    exact ih _

/-- `finalize` returns whenever `ACResource.from_dict` does and the stashed ports are port specs. -/
theorem finalize_returns (s : Fetcher) (hfd : ∀ key v, env.fromDictError key v = Option.none)
    (hports : PortSpecs s.k8sServices.entries) : ∃ s', finalize env s = .ok () s' := by
  rw [finalize_run]
  obtain ⟨t,ht⟩ := resolveServices_returns s.k8sEndpoints hports s
  rw [ht]
  exact appendServices_returns hfd _ _

theorem finalize_returns_web :
    (∀ key v, (Env.ofSnapshot .none).fromDictError key v = Option.none) ∧
    PortSpecs { Fetcher.init with
      k8sServices := PyDict.empty.insert (.str "web.default") rfl webService }.k8sServices.entries ∧
    ∃ s', finalize (Env.ofSnapshot .none) { Fetcher.init with
      k8sServices := PyDict.empty.insert (.str "web.default") rfl webService } = .ok () s' := by
  have hports : PortSpecs { Fetcher.init with
      k8sServices := PyDict.empty.insert (.str "web.default") rfl webService }.k8sServices.entries := by
    intro kv hkv
    simp only [PyDict.insert,PyDict.empty,PyDict.insertEntry,List.mem_singleton] at hkv
    subst hkv
    exact ⟨_,rfl,by decide⟩
  exact ⟨fun _ _ => rfl,hports,finalize_returns _ (fun _ _ => rfl) hports⟩

end Ambassador
