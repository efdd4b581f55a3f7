import Ambassador.Sources

/-! What the fetcher has collected only grows: along any calls, returning or raising, every
resource, error and table key collected before a call is still there after it. -/

set_option autoImplicit false

namespace Ambassador

/-- `t` holds everything `s` had collected, in order, and every key of its three tables. -/
structure Extends (s t : Fetcher) : Prop where
  elements : s.elements <+: t.elements
  errors : s.errors <+: t.errors
  services : s.services.keys ⊆ t.services.keys
  k8sEndpoints : s.k8sEndpoints.keys ⊆ t.k8sEndpoints.keys
  k8sServices : s.k8sServices.keys ⊆ t.k8sServices.keys

namespace Extends

theorem refl (s : Fetcher) : Extends s s :=
  ⟨List.prefix_refl _,List.prefix_refl _,List.Subset.refl _,List.Subset.refl _,List.Subset.refl _⟩

theorem trans {s t u : Fetcher} (h : Extends s t) (h' : Extends t u) : Extends s u :=
  ⟨h.1.trans h'.1,h.2.trans h'.2,List.Subset.trans h.3 h'.3,List.Subset.trans h.4 h'.4,
    List.Subset.trans h.5 h'.5⟩

theorem of_frame {s t : Fetcher}
    (h : (t.elements,t.errors,t.services,t.k8sEndpoints,t.k8sServices) =
      (s.elements,s.errors,s.services,s.k8sEndpoints,s.k8sServices)) : Extends s t := by
  simp only [Prod.mk.injEq] at h
  obtain ⟨h1,h2,h3,h4,h5⟩ := h
  exact ⟨h1 ▸ List.prefix_refl _,h2 ▸ List.prefix_refl _,h3 ▸ List.Subset.refl _,
    h4 ▸ List.Subset.refl _,h5 ▸ List.Subset.refl _⟩

theorem appendError (s : Fetcher) (msg : String) : Extends s { s with errors := s.errors ++ [msg] } :=
  ⟨List.prefix_refl _,List.prefix_append _ _,List.Subset.refl _,List.Subset.refl _,List.Subset.refl _⟩

theorem appendElement (s : Fetcher) (r : ACResource) : Extends s { s with elements := s.elements ++ [r] } :=
  ⟨List.prefix_append _ _,List.prefix_refl _,List.Subset.refl _,List.Subset.refl _,List.Subset.refl _⟩

theorem insertService (s : Fetcher) (k : Value) (hk : k.hashable) (v : Value) :
    Extends s { s with services := s.services.insert k hk v } :=
  ⟨List.prefix_refl _,List.prefix_refl _,PyDict.keys_insert_subset s.services k hk v,List.Subset.refl _,
    List.Subset.refl _⟩

theorem insertK8sEndpoint (s : Fetcher) (k : Value) (hk : k.hashable) (v : K8sEndpoint) :
    Extends s { s with k8sEndpoints := s.k8sEndpoints.insert k hk v } :=
  ⟨List.prefix_refl _,List.prefix_refl _,List.Subset.refl _,PyDict.keys_insert_subset s.k8sEndpoints k hk v,
    List.Subset.refl _⟩

theorem insertK8sService (s : Fetcher) (k : Value) (hk : k.hashable) (v : K8sService) :
    Extends s { s with k8sServices := s.k8sServices.insert k hk v } :=
  ⟨List.prefix_refl _,List.prefix_refl _,List.Subset.refl _,List.Subset.refl _,
    PyDict.keys_insert_subset s.k8sServices k hk v⟩

end Extends

section
variable {s0 : Fetcher}

theorem extends_modify {g : Fetcher → Fetcher} (hg : ∀ s, Extends s (g s)) : Keeps (Extends s0) (modify g) :=
  Keeps.modify' fun s h => h.trans (hg s)

theorem extends_postError (msg : String) : Keeps (Extends s0) (postError msg) :=
  extends_modify fun s => Extends.appendError s msg

theorem extends_appendElement (r : ACResource) : Keeps (Extends s0) (appendElement r) :=
  extends_modify fun s => Extends.appendElement s r

theorem extends_setK8sEndpoint (key : String) (entry : K8sEndpoint) :
    Keeps (Extends s0) (setK8sEndpoint key entry) :=
  extends_modify fun s => Extends.insertK8sEndpoint s _ _ entry

theorem extends_setK8sService (key : String) (entry : K8sService) :
    Keeps (Extends s0) (setK8sService key entry) :=
  extends_modify fun s => Extends.insertK8sService s _ _ entry

theorem extends_pushLocation (filename : Value) (ocount : Int) :
    Keeps (Extends s0) (pushLocation filename ocount) :=
  extends_modify fun _ => Extends.of_frame rfl

theorem extends_bumpOcount : Keeps (Extends s0) bumpOcount :=
  extends_modify fun _ => Extends.of_frame rfl

theorem extends_popLocation : Keeps (Extends s0) popLocation := by
  refine Keeps.getBind' fun s h => ?_
  split
  · exact Keeps.throw' _
  · exact fun _ _ => h.trans (Extends.of_frame rfl)

theorem extends_annotateFilename : Keeps (Extends s0) annotateFilename := by
  refine Keeps.getBind' fun s h => ?_
  repeat' first
    | exact Keeps.pure' _
    | exact Keeps.throw' _
    | exact fun _ _ => h.trans (Extends.of_frame rfl)
    | split

theorem extends_setService (key svc : Value) : Keeps (Extends s0) (setService key svc) := by
  intro s h
  rw [run_setService]
  split
  · obtain ⟨hk,rfl⟩ := PyDict.set_eq_ok ‹_›
    exact h.trans (Extends.insertService s key hk svc)
  · exact h

theorem extends_storeSubsets (key : String) (name nspace : Value) (subsets : List Value) :
    Keeps (Extends s0) (storeSubsets key name nspace subsets) := by
  unfold storeSubsets
  repeat' with_reducible first
    | exact Keeps.pure' _
    | exact Keeps.liftExcept' _
    | exact extends_setK8sEndpoint _ _
    | refine Keeps.bind' ?_ fun _ => ?_
    | refine Keeps.forM' fun _ _ => ?_
    | split

variable (env : Env)

theorem extends_processObject (obj rkey : Value) : Keeps (Extends s0) (processObject env obj rkey) := by
  unfold processObject fromDictCall
  repeat' with_reducible first
    | refine Keeps.bind' ?_ fun _ => ?_
    | split
    | exact Keeps.pure' _
    | exact Keeps.get'
    | exact Keeps.liftExcept' _
    | exact Keeps.location
    | exact extends_postError _
    | exact extends_appendElement _
    | exact extends_setService _ _
    | exact extends_modify fun _ => Extends.of_frame rfl
    | dsimp only

theorem extends_parseObjectWith {handleK8s : Value → Py Unit} (hh : ∀ obj, Keeps (Extends s0) (handleK8s obj))
    (objects : Value) (k8s : Bool) (rkey filename : Value) :
    Keeps (Extends s0) (parseObjectWith env handleK8s objects k8s rkey filename) := by
  unfold parseObjectWith
  repeat' with_reducible first
    | exact Keeps.liftExcept' _
    | exact extends_pushLocation _ _
    | exact extends_bumpOcount
    | exact extends_popLocation
    | exact extends_processObject env _ _
    | exact hh _
    | refine Keeps.bind' ?_ fun _ => ?_
    | refine Keeps.forM' fun _ _ => ?_
    | split

theorem extends_ignoreK8s (obj : Value) : Keeps (Extends s0) (ignoreK8s obj) := Keeps.pure' _

theorem extends_k8sHandler {kind : String} {handler : Value → Py HandlerResult}
    (hk : k8sHandler env kind = some handler) (obj : Value) : Keeps (Extends s0) (handler obj) := by
  unfold k8sHandler at hk
  split at hk <;> cases hk
  all_goals
    simp only [handleK8sCrd,handleK8sEndpoints,handleK8sService,handleK8sSecret]
    repeat' with_reducible first
      | refine Keeps.bind' ?_ fun _ => ?_
      | split
      | exact Keeps.pure' _
      | exact Keeps.liftExcept' _
      | exact Keeps.get'
      | exact extends_annotateFilename
      | exact extends_storeSubsets _ _ _ _
      | exact extends_setK8sService _ _
      | exact extends_parseObjectWith env extends_ignoreK8s _ _ _ _
      | refine Keeps.tryCatch' ?_ fun _ => ?_
      | exact Keeps.throw' _

theorem extends_handleK8sCrd (obj : Value) : Keeps (Extends s0) (handleK8sCrd env obj) :=
  extends_k8sHandler env (show k8sHandler env "crd" = some (handleK8sCrd env) from rfl) obj

theorem extends_handleK8s (obj : Value) : Keeps (Extends s0) (handleK8s env obj) := by
  unfold handleK8s
  repeat' with_reducible first
    | exact Keeps.pure' _
    | exact Keeps.liftExcept' _
    | exact Keeps.get'
    | exact extends_k8sHandler env ‹_› _
    | exact extends_parseObjectWith env extends_ignoreK8s _ _ _ _
    | refine Keeps.bind' ?_ fun _ => ?_
    | split

theorem extends_parseObject (objects : Value) (k8s : Bool) (rkey filename : Value) :
    Keeps (Extends s0) (parseObject env objects k8s rkey filename) :=
  extends_parseObjectWith env (extends_handleK8s env) objects k8s rkey filename

theorem extends_finalize : Keeps (Extends s0) (finalize env) := by
  unfold finalize resolveServices appendServices
  repeat' with_reducible first
    | exact Keeps.get'
    | exact Keeps.liftExcept' _
    | exact Keeps.throw' _
    | exact extends_setService _ _
    | exact extends_appendElement _
    | refine Keeps.bind' ?_ fun _ => ?_
    | refine Keeps.forM' fun _ _ => ?_
    | split

theorem extends_handleConsulService (consulRkey consulObject : Value) :
    Keeps (Extends s0) (handleConsulService env consulRkey consulObject) := by
  unfold handleConsulService
  repeat' with_reducible first
    | exact Keeps.pure' _
    | exact Keeps.liftExcept' _
    | exact extends_setService _ _
    | refine Keeps.bind' ?_ fun _ => ?_
    | split

theorem extends_parseWattDict (wattDict : Value) : Keeps (Extends s0) (parseWattDict env wattDict) := by
  unfold parseWattDict
  repeat' with_reducible first
    | exact Keeps.pure' _
    | exact Keeps.liftExcept' _
    | exact Keeps.get'
    | exact extends_parseObject env _ _ _ _
    | exact extends_handleK8s env _
    | exact extends_handleK8sCrd env _
    | exact extends_handleConsulService env _ _
    | refine Keeps.bind' ?_ fun _ => ?_
    | refine Keeps.forM' fun _ _ => ?_
    | split

theorem extends_run (c : Call) : Keeps (Extends s0) (c.run env) := by
  cases c
  all_goals
    simp only [Call.run,parseYaml,parseJson,parseWatt,loadFromFilesystem]
    repeat' with_reducible first
      | refine Keeps.bind' ?_ fun _ => ?_
      | split
      | exact Keeps.pure' _
      | exact Keeps.liftExcept' _
      | exact Keeps.location
      | exact extends_postError _
      | exact extends_finalize env
      | exact extends_parseObject env _ _ _ _
      | exact extends_parseWattDict env _
      | refine Keeps.tryCatch' ?_ fun _ => ?_
      | refine Keeps.forM' fun _ _ => ?_
      | exact Keeps.throw' _

end

/-- Along any calls, returning or raising, what was collected before a call is still there. -/
theorem runCalls_append_only (env : Env) (s : Fetcher) (calls : List Call) :
    Extends s (runCalls env s calls) := by
  induction calls generalizing s with
  | nil => exact Extends.refl s
  | cons c cs ih => exact (extends_run env c s (Extends.refl s)).trans (ih _)

end Ambassador
