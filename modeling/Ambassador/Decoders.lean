import Ambassador.Ordinals
import Ambassador.Resolve
import Ambassador.Exceptions

/-! `handle_k8s` on one Kubernetes object: a `Service` is stashed for `finalize` whatever
its annotation holds, and a handler's objects go through `parse_object` with `k8s=False`.
-/

set_option autoImplicit false

namespace Ambassador

variable {env : Env}

theorem except_ok_bind {α β : Type} (a : α) (f : α → Except PyError β) : (Except.ok a >>= f) = f a := rfl

theorem liftExcept_ok {α : Type} (a : α) : liftExcept (.ok a) = (pure a : Py α) := rfl

theorem Keeps.final_bind {P : Fetcher → Prop} {α β : Type} {x : Py α} {f : α → Py β} {s : Fetcher}
    (hx : P (final (x s))) (hf : ∀ a, Keeps P (f a)) : P (final ((x >>= f) s)) := by
  rw [run_bind]
  cases hs : x s with
  | ok a t => rw [hs] at hx; exact hf a t hx
  | error e t => rw [hs] at hx; exact hx

theorem truthy_dotted (a b : String) : (Value.str (a ++ "." ++ b)).truthy := by
  rw [Value.truthy_str,bne_iff_ne,ne_eq]
  intro h
  have hl := congrArg String.length h
  have hd : ".".length = 1 := rfl
  have he : "".length = 0 := rfl
  simp only [String.length_append,hd,he] at hl
  omega

theorem truthy_of_lowerStr {k kind : String} (hk : Value.lowerStr k = kind) (hne : kind ≠ "") :
    (Value.str k).truthy := by
  rcases k with ⟨_ | ⟨c,cs⟩⟩
  · exact absurd hk.symm hne
  · rfl

theorem singleNamespace_passes {nspace : Value}
    (hsn : env.singleNamespace = true → nspace.isStr env.ambassadorNamespace = true) :
    (env.singleNamespace && !nspace.isStr env.ambassadorNamespace) = false := by
  cases h : env.singleNamespace
  · rfl
  · simp [hsn h]

theorem parseObjectWith_nil (handleK8s : Value → Py Unit) (k8s : Bool) (rkey filename : Value) (s : Fetcher) :
    parseObjectWith env handleK8s (.list []) k8s rkey filename s = .ok () s := rfl

theorem handleK8s_parses_result {obj : Value} {k kind : String} {handler : Value → Py HandlerResult}
    {rk : String} {objects : List Value} {s t : Fetcher}
    (hkind : obj.getD "kind" .none = .ok (.str k)) (hk : Value.lowerStr k = kind) (hne : kind ≠ "")
    (hh : k8sHandler env kind = some handler) (hr : handler obj s = .ok (some (rk,objects)) t) :
    handleK8s env obj s = parseObjectWith env ignoreK8s (.list objects) false (.str rk) t.filename t := by
  simp only [handleK8s,run_bind,run_liftExcept,hkind,truthy_of_lowerStr hk hne,Bool.not_true,Bool.false_eq_true,
    if_false,Value.lower,hk,hh,run_pure,hr,run_get]

/-! ### Services -/

section
variable {K : PyDict K8sService}

theorem k8sServices_processObject (obj rkey : Value) :
    Keeps (fun t => t.k8sServices = K) (processObject env obj rkey) :=
  fun t h => (processObject_step env obj rkey t).k8sServices.trans h

theorem k8sServices_popLocation : Keeps (fun t => t.k8sServices = K) popLocation := by
  refine Keeps.getBind' fun s h => ?_
  split
  · exact Keeps.throw' _
  · exact fun _ _ => h

theorem k8sServices_annotateFilename : Keeps (fun t => t.k8sServices = K) annotateFilename := by
  refine Keeps.getBind' fun s h => ?_
  repeat' first
    | exact Keeps.pure' _
    | exact Keeps.throw' _
    | exact fun _ _ => h
    | split

theorem k8sServices_parseObjectWith_ignoreK8s (objects : Value) (k8s : Bool) (rkey filename : Value) :
    Keeps (fun t => t.k8sServices = K) (parseObjectWith env ignoreK8s objects k8s rkey filename) := by
  unfold parseObjectWith pushLocation bumpOcount ignoreK8s
  repeat' with_reducible first
    | refine Keeps.bind' ?_ fun _ => ?_
    | refine Keeps.forM' fun _ _ => ?_
    | split
    | exact Keeps.pure' _
    | exact Keeps.liftExcept' _
    | exact Keeps.modify' fun _ h => h
    | exact k8sServices_processObject _ _
    | exact k8sServices_popLocation

end

section
variable {obj metadata name nspace annotations spec ports : Value} {k : String}

/-- A Kubernetes `Service` that `handle_k8s_service` does not skip is stashed under
`name.namespace`, whatever its annotation holds and whether the call returns or raises. -/
theorem handleK8s_service_stashes
    (hkind : obj.getD "kind" .none = .ok (.str k)) (hk : Value.lowerStr k = "service")
    (hmeta : obj.getD "metadata" .none = .ok metadata) (hm : metadata.truthy)
    (hname : metadata.getD "name" .none = .ok name) (hn : name.truthy)
    (hns : metadata.getD "namespace" (.str "default") = .ok nspace)
    (hsn : env.singleNamespace = true → nspace.isStr env.ambassadorNamespace = true)
    (hann : metadata.getD "annotations" .none = .ok annotations)
    (hcfg : annotations.truthy = false ∨ ∃ akvs, annotations = .dict akvs)
    (hspec : obj.getD "spec" .none = .ok spec) (hsp : spec.truthy)
    (hports : spec.getD "ports" .none = .ok ports) (hp : ports.truthy) (s : Fetcher) :
    (final (handleK8s env obj s)).k8sServices =
      s.k8sServices.insert (.str (name.pyStr ++ "." ++ nspace.pyStr)) rfl ⟨name,nspace,ports⟩ := by
  obtain ⟨config,hc⟩ : ∃ c, (if annotations.truthy then annotations.getD "getambassador.io/config" .none
      else .ok annotations) = .ok c := by
    rcases hcfg with h | ⟨akvs,rfl⟩
    · exact ⟨_,by rw [h]; rfl⟩
    · split <;> exact ⟨_,rfl⟩
  have hh : k8sHandler env "service" = some (handleK8sService env) := rfl
  simp only [handleK8s,hkind,liftExcept_ok,pure_bind,bind_assoc,truthy_of_lowerStr hk (by decide),Bool.not_true,
    Bool.false_eq_true,if_false,Value.lower,hk,hh,handleK8sService,hmeta,Value.getIf,hm,if_true,hname,hns,hann,hc,
    hspec,hsp,hports,hp,Bool.and_true,hn,singleNamespace_passes hsn,Bool.or_false]
  refine @Keeps.final_bind (fun t => t.k8sServices = _) _ _ _ _ _ rfl fun _ => ?_
  repeat' with_reducible first
    | refine Keeps.bind' ?_ fun _ => ?_
    | split
    | exact Keeps.pure' _
    | exact Keeps.throw' _
    | exact Keeps.get'
    | exact Keeps.liftExcept' _
    | refine Keeps.tryCatch' ?_ fun _ => ?_
    | exact k8sServices_annotateFilename
    | exact k8sServices_parseObjectWith_ignoreK8s _ _ _ _

def annotatedWebService : Value :=
  .dict [(.str "kind",.str "Service"),
    (.str "metadata",.dict [(.str "name",.str "web"),
      (.str "annotations",.dict [(.str "getambassador.io/config",.str "a: b: c")])]),
    (.str "spec",.dict [(.str "ports",.list [.dict [(.str "port",.int 80)]])])]

def yamlRejectingEnv : Env :=
  { Env.ofSnapshot .none with loadYaml := fun _ => .error "mapping values are not allowed here" }

theorem handleK8s_service_stashes_web :
    (final (handleK8s yamlRejectingEnv annotatedWebService Fetcher.init)).k8sServices =
      PyDict.empty.insert (.str "web.default") rfl
        ⟨.str "web",.str "default",.list [.dict [(.str "port",.int 80)]]⟩ :=
  @handleK8s_service_stashes yamlRejectingEnv annotatedWebService _ (.str "web") (.str "default") _ _ _ "Service"
    rfl rfl rfl rfl rfl rfl rfl (fun h => by cases h) rfl (Or.inr ⟨_,rfl⟩) rfl rfl rfl rfl Fetcher.init

/-- `self.filename` once marked as read from an annotation. -/
def annotatedFilename : Value → Value
  | .str f => if ":annotation".data.isSuffixOf f.data then .str f else .str (f ++ ":annotation")
  | v => v

theorem run_annotateFilename {s : Fetcher} (hf : s.filename = .none ∨ ∃ f, s.filename = .str f) :
    annotateFilename s = .ok () { s with filename := annotatedFilename s.filename } := by
  obtain ⟨elements,filename,ocount,saved,k8sEndpoints,k8sServices,services,errors⟩ := s
  rcases hf with hf | ⟨f,hf⟩ <;> cases hf
  · rfl
  · simp only [annotateFilename,run_bind,run_get,annotatedFilename]
    split <;> rfl

end

theorem set_str {d : PyDict Value} (k : String) (v : Value) : d.set (.str k) v = .ok (d.insert (.str k) rfl v) := rfl

end Ambassador
