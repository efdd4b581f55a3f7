import Ambassador.Location

/-! Which exceptions escape: nothing `parse_object` or the WATT handlers do raises a decode
error, so the `except` clauses of `parse_yaml`, `parse_json` and `parse_watt` catch only
their decoder's failure. -/

set_option autoImplicit false

namespace Ambassador

/-- The error classes the fetcher's `except` clauses name. -/
def PyError.isDecode : PyError → Bool
  | .yamlError _ | .jsonDecodeError _ => true
  | _ => false

def NoDecode {α : Type} (x : Except PyError α) : Prop := ∀ e, x = .error e → e.isDecode = false

namespace NoDecode
variable {α β : Type}

theorem ok' (a : α) : NoDecode (.ok a : Except PyError α) := fun _ h => nomatch h

theorem pure' (a : α) : NoDecode (pure a : Except PyError α) := fun _ h => nomatch h

theorem bind' {x : Except PyError α} {f : α → Except PyError β} (hx : NoDecode x)
    (hf : ∀ a, NoDecode (f a)) : NoDecode (x >>= f) := by
  cases x with
  | error e => intro e' h; cases h; exact hx e rfl
  | ok a => exact hf a

theorem map' {x : Except PyError α} (f : α → β) (hx : NoDecode x) : NoDecode (x.map f) := by
  cases x with
  | error e => intro e' h; cases h; exact hx e rfl
  | ok a => exact ok' _

theorem mapM' {xs : List α} {f : α → Except PyError β} (hf : ∀ a, NoDecode (f a)) :
    NoDecode (xs.mapM f) := by
  induction xs with
  | nil => exact pure' _
  | cons a as ih =>
    rw [List.mapM_cons]
    exact bind' (hf a) fun _ => bind' ih fun _ => pure' _

theorem foldlM' {xs : List α} {f : β → α → Except PyError β} (hf : ∀ b a, NoDecode (f b a)) (init : β) :
    NoDecode (xs.foldlM f init) := by
  induction xs generalizing init with
  | nil => exact pure' _
  | cons a as ih => exact bind' (hf init a) ih

end NoDecode

namespace Value

theorem noDecode_get (v : Value) (key : String) : NoDecode (v.get key) := by
  intro e h
  cases v <;> cases h <;> rfl

theorem noDecode_getD (v : Value) (key : String) (default : Value) : NoDecode (v.getD key default) :=
  NoDecode.map' _ (noDecode_get v key)

theorem noDecode_getItem (v : Value) (key : String) : NoDecode (v.getItem key) := by
  intro e h
  unfold getItem at h
  repeat' split at h
  all_goals cases h <;> rfl

theorem noDecode_iter (v : Value) : NoDecode v.iter := by
  intro e h
  cases v <;> cases h <;> rfl

theorem noDecode_len (v : Value) : NoDecode v.len := by
  intro e h
  cases v <;> cases h <;> rfl

theorem noDecode_items (v : Value) : NoDecode v.items := by
  intro e h
  cases v <;> cases h <;> rfl

theorem noDecode_lower (v : Value) : NoDecode v.lower := by
  intro e h
  cases v <;> cases h <;> rfl

theorem noDecode_upper (v : Value) : NoDecode v.upper := by
  intro e h
  cases v <;> cases h <;> rfl

theorem noDecode_getNotNone (v : Value) (key : String) : NoDecode (v.getNotNone key) :=
  NoDecode.map' _ (noDecode_get v key)

theorem noDecode_jsonDumps (env : Env) (v : Value) : NoDecode (env.jsonDumps v) := by
  intro e h
  unfold Env.jsonDumps at h
  split at h <;> cases h; rfl

theorem noDecode_getIf (m : Value) (key : String) (default : Value) : NoDecode (m.getIf key default) := by
  unfold getIf
  split
  · exact noDecode_getD m key default
  · exact NoDecode.ok' _

end Value

namespace PyDict

theorem noDecode_set {β : Type} (d : PyDict β) (k : Value) (v : β) : NoDecode (d.set k v) := by
  intro e h
  unfold set at h
  split at h <;> cases h
  rfl

theorem noDecode_pairOf (v : Value) : NoDecode (pairOf v) := by
  intro e h
  unfold pairOf at h
  repeat' split at h
  all_goals cases h <;> rfl

theorem noDecode_ofValue (v : Value) : NoDecode (ofValue v) := by
  unfold ofValue
  split
  · exact NoDecode.foldlM' (fun d _ => noDecode_set d _ _) _
  · exact NoDecode.bind' (Value.noDecode_iter _) fun _ =>
      NoDecode.foldlM' (fun d _ => NoDecode.bind' (noDecode_pairOf _) fun _ => noDecode_set d _ _) _

end PyDict

theorem noDecode_endpointAddress (address : Value) : NoDecode (endpointAddress address) := by
  unfold endpointAddress
  repeat' first
    | exact NoDecode.pure' _
    | exact Value.noDecode_getNotNone _ _
    | refine NoDecode.bind' ?_ fun _ => ?_
    | split

theorem noDecode_addPort (portDict : PyDict Value) (port : Value) : NoDecode (addPort portDict port) := by
  unfold addPort
  repeat' with_reducible first
    | exact NoDecode.pure' _
    | exact Value.noDecode_getD _ _ _
    | exact Value.noDecode_upper _
    | exact PyDict.noDecode_set _ _ _
    | refine NoDecode.bind' ?_ fun _ => ?_
    | split

theorem noDecode_subsetEntry (subset : Value) : NoDecode (subsetEntry subset) := by
  unfold subsetEntry subsetAddresses subsetPorts
  repeat' with_reducible first
    | exact NoDecode.pure' _
    | exact Value.noDecode_getD _ _ _
    | exact Value.noDecode_iter _
    | exact NoDecode.mapM' noDecode_endpointAddress
    | exact NoDecode.foldlM' (fun _ _ => noDecode_addPort _ _) _
    | refine NoDecode.bind' ?_ fun _ => ?_
    | split

theorem noDecode_consulEndpoint (ep : Value) : NoDecode (consulEndpoint ep) := by
  unfold consulEndpoint
  repeat' first
    | exact NoDecode.pure' _
    | exact Value.noDecode_getD _ _ _
    | exact Value.noDecode_getItem _ _
    | refine NoDecode.bind' ?_ fun _ => ?_
    | split

theorem noDecode_wattObjects (wattK8s : Value) (key : String) : NoDecode (wattObjects wattK8s key) :=
  NoDecode.bind' (Value.noDecode_getD _ _ _) fun _ => Value.noDecode_iter _

theorem loadYamlValue_error {env : Env} {v : Value} {e : PyError} (h : loadYamlValue env v = .error e) :
    (∃ msg, e = .yamlError msg) ∨ e = .attributeError := by
  unfold loadYamlValue at h
  split at h
  · split at h
    · cases h
    · cases h; exact .inl ⟨_,rfl⟩
  · cases h; exact .inr rfl

theorem run_tryCatch {α : Type} (x : Py α) (h : PyError → Py α) (s : Fetcher) :
    tryCatch x h s = match x s with
      | .ok a t => .ok a t
      | .error e t => h e t := by
  simp only [tryCatch,tryCatchThe,MonadExceptOf.tryCatch,EStateM.tryCatch,EStateM.dummyRestore]
  cases x s <;> rfl

/-- Every run of `x` that raises, raises something other than a decode error. -/
def RaisesNoDecode {α : Type} (x : Py α) : Prop := ∀ s e s', x s = .error e s' → e.isDecode = false

namespace RaisesNoDecode
variable {α β : Type}

theorem pure' (a : α) : RaisesNoDecode (pure a : Py α) := by
  intro s e s' h
  cases h

theorem throw' {e : PyError} (he : e.isDecode = false) : RaisesNoDecode (throw e : Py α) := by
  intro s e' s' h
  cases h
  exact he

theorem get' : RaisesNoDecode (get : Py Fetcher) := by
  intro s e s' h
  cases h

theorem set' (t : Fetcher) : RaisesNoDecode (set t : Py PUnit) := by
  intro s e s' h
  cases h

theorem modify' (g : Fetcher → Fetcher) : RaisesNoDecode (modify g : Py PUnit) := by
  intro s e s' h
  cases h

theorem liftExcept' {x : Except PyError α} (hx : NoDecode x) : RaisesNoDecode (liftExcept x) := by
  intro s e s' h
  cases x with
  | ok a => cases h
  | error e' => cases h; exact hx _ rfl

theorem bind' {x : Py α} {k : α → Py β} (hx : RaisesNoDecode x) (hk : ∀ a, RaisesNoDecode (k a)) :
    RaisesNoDecode (x >>= k) := by
  intro s e s' h
  rcases bind_eq_error h with h1 | ⟨a,t,_,h2⟩
  · exact hx s e s' h1
  · exact hk a t e s' h2

theorem forM' {xs : List α} {g : α → Py PUnit} (hg : ∀ a, RaisesNoDecode (g a)) :
    RaisesNoDecode (xs.forM g) := by
  induction xs with
  | nil => exact pure' _
  | cons a as ih => exact bind' (hg a) fun _ => ih

theorem tryCatch' {x : Py α} {h : PyError → Py α}
    (hh : ∀ s e s', x s = .error e s' → RaisesNoDecode (h e)) : RaisesNoDecode (tryCatch x h) := by
  intro s e s' hr
  rw [run_tryCatch] at hr
  cases hx : x s with
  | ok a t => rw [hx] at hr; cases hr
  | error e' t => rw [hx] at hr; exact hh s e' t hx t e s' hr

end RaisesNoDecode

/-- `try: <decode>; <body> except <decode error>: <handler>`, with a body that raises no decode
error: the handler runs only on the decoder's own failure. -/
theorem tryDecode_run {α β : Type} {dec : Except PyError α} {body : α → Py β} {h : PyError → Py β}
    (hnd : ∀ a, RaisesNoDecode (body a)) (hre : ∀ e, e.isDecode = false → h e = throw e) (s : Fetcher) :
    tryCatch (liftExcept dec >>= body) h s = (liftExcept dec >>= body) s ∨
      ∃ e, e.isDecode = true ∧ tryCatch (liftExcept dec >>= body) h s = h e s := by
  rw [run_tryCatch]
  cases dec with
  | error e =>
    cases hd : e.isDecode
    · exact .inl (show h e s = .error e s by rw [hre e hd]; rfl)
    · exact .inr ⟨e,hd,rfl⟩
  | ok a =>
    refine .inl ?_
    show (match body a s with | .ok b t => .ok b t | .error e t => h e t) = body a s
    cases hb : body a s with
    | ok b t => rfl
    | error e t => exact show h e t = .error e t by rw [hre e (hnd a s e t hb)]; rfl

theorem raisesNoDecode_tryCatch_loadYamlValue {env : Env} {v : Value} {h : PyError → Py (List Value)}
    (hy : ∀ msg, RaisesNoDecode (h (.yamlError msg))) (ha : RaisesNoDecode (h .attributeError)) :
    RaisesNoDecode (tryCatch (liftExcept (loadYamlValue env v)) h) := by
  refine RaisesNoDecode.tryCatch' fun s e s' hx => ?_
  cases hv : loadYamlValue env v with
  | ok a => rw [hv] at hx; cases hx
  | error e' =>
    rw [hv] at hx
    cases hx
    rcases loadYamlValue_error hv with ⟨msg,rfl⟩ | rfl
    · exact hy msg
    · exact ha

theorem raisesNoDecode_location : RaisesNoDecode location :=
  RaisesNoDecode.bind' RaisesNoDecode.get' fun _ => RaisesNoDecode.pure' _

theorem raisesNoDecode_postError (msg : String) : RaisesNoDecode (postError msg) :=
  RaisesNoDecode.modify' _

theorem raisesNoDecode_appendElement (r : ACResource) : RaisesNoDecode (appendElement r) :=
  RaisesNoDecode.modify' _

theorem raisesNoDecode_setService (key svc : Value) : RaisesNoDecode (setService key svc) :=
  RaisesNoDecode.bind' RaisesNoDecode.get' fun _ =>
    RaisesNoDecode.bind' (RaisesNoDecode.liftExcept' (PyDict.noDecode_set _ _ _)) fun _ => RaisesNoDecode.set' _

theorem raisesNoDecode_popLocation : RaisesNoDecode popLocation := by
  refine RaisesNoDecode.bind' RaisesNoDecode.get' fun s => ?_
  split
  · exact RaisesNoDecode.throw' rfl
  · exact RaisesNoDecode.set' _

variable (env : Env)

theorem raisesNoDecode_processObject (obj rkey : Value) : RaisesNoDecode (processObject env obj rkey) := by
  unfold processObject fromDictCall
  repeat' with_reducible first
    | exact RaisesNoDecode.pure' _
    | exact RaisesNoDecode.get'
    | exact RaisesNoDecode.modify' _
    | exact RaisesNoDecode.liftExcept' (Value.noDecode_getItem _ _)
    | exact RaisesNoDecode.liftExcept' (Value.noDecode_jsonDumps _ _)
    | exact raisesNoDecode_location
    | exact raisesNoDecode_postError _
    | exact raisesNoDecode_setService _ _
    | exact raisesNoDecode_appendElement _
    | refine RaisesNoDecode.bind' ?_ fun _ => ?_
    | split
    | dsimp only

theorem raisesNoDecode_parseObjectWith {handleK8s : Value → Py Unit}
    (hh : ∀ obj, RaisesNoDecode (handleK8s obj)) (objects : Value) (k8s : Bool) (rkey filename : Value) :
    RaisesNoDecode (parseObjectWith env handleK8s objects k8s rkey filename) := by
  unfold parseObjectWith pushLocation bumpOcount
  repeat' with_reducible first
    | exact RaisesNoDecode.liftExcept' (Value.noDecode_iter _)
    | exact RaisesNoDecode.modify' _
    | exact raisesNoDecode_popLocation
    | exact raisesNoDecode_processObject env _ _
    | exact hh _
    | refine RaisesNoDecode.bind' ?_ fun _ => ?_
    | refine RaisesNoDecode.forM' fun _ => ?_
    | split

theorem raisesNoDecode_parseObjectWith_ignoreK8s (objects : Value) (k8s : Bool) (rkey filename : Value) :
    RaisesNoDecode (parseObjectWith env ignoreK8s objects k8s rkey filename) :=
  raisesNoDecode_parseObjectWith env (fun _ => RaisesNoDecode.pure' _) objects k8s rkey filename

theorem raisesNoDecode_annotateFilename : RaisesNoDecode annotateFilename := by
  unfold annotateFilename
  refine RaisesNoDecode.bind' RaisesNoDecode.get' fun s => ?_
  split
  · exact RaisesNoDecode.pure' _
  · split
    · exact RaisesNoDecode.pure' _
    · exact RaisesNoDecode.set' _
  · exact RaisesNoDecode.throw' rfl

theorem raisesNoDecode_k8sHandler {kind : String} {handler : Value → Py HandlerResult}
    (hk : k8sHandler env kind = some handler) (obj : Value) : RaisesNoDecode (handler obj) := by
  unfold k8sHandler at hk
  split at hk <;> cases hk
  all_goals
    simp only [handleK8sCrd,handleK8sEndpoints,handleK8sService,handleK8sSecret,setK8sService,
      storeSubsets,setK8sEndpoint]
    repeat' with_reducible first
      | refine RaisesNoDecode.bind' ?_ fun _ => ?_
      | refine RaisesNoDecode.liftExcept' ?_
      | refine NoDecode.bind' ?_ fun _ => ?_
      | split
      | exact RaisesNoDecode.pure' _
      | exact NoDecode.pure' _
      | exact Value.noDecode_getD _ _ _
      | exact Value.noDecode_getIf _ _ _
      | exact RaisesNoDecode.get'
      | exact RaisesNoDecode.modify' _
      | exact raisesNoDecode_annotateFilename
      | exact raisesNoDecode_parseObjectWith_ignoreK8s env _ _ _ _
      | exact NoDecode.ok' _
      | exact Value.noDecode_iter _
      | exact PyDict.noDecode_ofValue _
      | exact PyDict.noDecode_set _ _ _
      | exact noDecode_subsetEntry _
      | refine raisesNoDecode_tryCatch_loadYamlValue (fun _ => ?_) ?_
      | refine RaisesNoDecode.forM' fun _ => ?_
      | exact RaisesNoDecode.throw' (by with_unfolding_all rfl)

theorem raisesNoDecode_handleK8s (obj : Value) : RaisesNoDecode (handleK8s env obj) := by
  unfold handleK8s
  repeat' with_reducible first
    | exact RaisesNoDecode.pure' _
    | exact RaisesNoDecode.get'
    | exact RaisesNoDecode.liftExcept' (Value.noDecode_getD _ _ _)
    | exact RaisesNoDecode.liftExcept' (Value.noDecode_lower _)
    | exact raisesNoDecode_k8sHandler env ‹_› _
    | exact raisesNoDecode_parseObjectWith_ignoreK8s env _ _ _ _
    | refine RaisesNoDecode.bind' ?_ fun _ => ?_
    | split

theorem raisesNoDecode_handleK8sCrd (obj : Value) : RaisesNoDecode (handleK8sCrd env obj) :=
  raisesNoDecode_k8sHandler env (show k8sHandler env "crd" = some (handleK8sCrd env) from rfl) obj

theorem raisesNoDecode_handleConsulService (consulRkey consulObject : Value) :
    RaisesNoDecode (handleConsulService env consulRkey consulObject) := by
  unfold handleConsulService
  repeat' with_reducible first
    | exact RaisesNoDecode.pure' _
    | exact raisesNoDecode_setService _ _
    | exact NoDecode.mapM' noDecode_consulEndpoint
    | exact Value.noDecode_getD _ _ _
    | exact Value.noDecode_len _
    | exact Value.noDecode_iter _
    | refine RaisesNoDecode.liftExcept' ?_
    | refine RaisesNoDecode.bind' ?_ fun _ => ?_
    | refine NoDecode.bind' ?_ fun _ => ?_
    | split

theorem raisesNoDecode_parseWattDict (wattDict : Value) : RaisesNoDecode (parseWattDict env wattDict) := by
  unfold parseWattDict parseObject
  repeat' with_reducible first
    | exact RaisesNoDecode.pure' _
    | exact RaisesNoDecode.get'
    | exact RaisesNoDecode.liftExcept' (Value.noDecode_getD _ _ _)
    | exact RaisesNoDecode.liftExcept' (noDecode_wattObjects _ _)
    | exact RaisesNoDecode.liftExcept' (Value.noDecode_items _)
    | exact raisesNoDecode_handleK8s env _
    | exact raisesNoDecode_handleK8sCrd env _
    | exact raisesNoDecode_handleConsulService env _ _
    | exact raisesNoDecode_parseObjectWith env (raisesNoDecode_handleK8s env) _ _ _ _
    | refine RaisesNoDecode.bind' ?_ fun _ => ?_
    | refine RaisesNoDecode.forM' fun _ => ?_
    | split

/-- No decode error escapes `parse_object` or the body of `parse_watt`'s `try`. -/
theorem parseObject_parseWattDict_raise_no_decode :
    (∀ objects k8s rkey filename s e s', parseObject env objects k8s rkey filename s = .error e s' →
      ∀ msg, e ≠ .yamlError msg ∧ e ≠ .jsonDecodeError msg) ∧
    (∀ wattDict s e s', parseWattDict env wattDict s = .error e s' →
      ∀ msg, e ≠ .yamlError msg ∧ e ≠ .jsonDecodeError msg) := by
  have hnot : ∀ e : PyError, e.isDecode = false → ∀ msg, e ≠ .yamlError msg ∧ e ≠ .jsonDecodeError msg := by
    rintro e he msg
    constructor <;> rintro rfl <;> cases he
  exact ⟨fun objects k8s rkey filename s e s' h => hnot e
      (raisesNoDecode_parseObjectWith env (raisesNoDecode_handleK8s env) objects k8s rkey filename s e s' h),
    fun wattDict s e s' h => hnot e (raisesNoDecode_parseWattDict env wattDict s e s' h)⟩

theorem tryCatch_congr_noDecode {α : Type} {x : Py α} {h h' : PyError → Py α} (hx : RaisesNoDecode x)
    (hh : ∀ e, e.isDecode = false → h e = throw e) (hh' : ∀ e, e.isDecode = false → h' e = throw e) :
    tryCatch x h = tryCatch x h' := by
  funext s
  rw [run_tryCatch,run_tryCatch]
  cases hs : x s with
  | ok a t => rfl
  | error e t =>
    have he := hx s e t hs
    show h e t = h' e t
    rw [hh e he,hh' e he]

/-- `parse_json` and `parse_yaml` on texts that decode to the same objects do the same thing. -/
theorem parseJson_eq_parseYaml (text text' : String) (objects : List Value)
    (hy : env.loadYaml text = .ok objects) (hj : env.loadJson text' = .ok (.list objects))
    (k8s : Bool) (rkey filename : Value) (fin : Bool) :
    parseJson env text' k8s rkey filename fin = parseYaml env text k8s rkey filename fin := by
  have hly : loadYamlValue env (.str text) = .ok objects := by simp only [loadYamlValue,hy]
  have hlj : jsonLoads env text' = .ok (.list objects) := by simp only [jsonLoads,hj]
  have hb : ∀ {α : Type} (a : α) (f : α → Py Unit), (liftExcept (.ok a) >>= f) = f a := fun _ _ => rfl
  unfold parseJson parseYaml
  rw [hly,hlj,hb,hb]
  congr 1
  refine tryCatch_congr_noDecode
    (raisesNoDecode_parseObjectWith env (raisesNoDecode_handleK8s env) _ _ _ _) ?_ ?_ <;>
  · intro e he
    cases e <;> first | rfl | cases he

def sameObjectsEnv : Env := { Env.ofSnapshot (.list annotationObjects) with loadYaml := fun _ => .ok annotationObjects }

theorem parseJson_eq_parseYaml_annotation :
    (sameObjectsEnv.loadYaml "a" = .ok annotationObjects ∧
      sameObjectsEnv.loadJson "b" = .ok (.list annotationObjects)) ∧
    parseJson sameObjectsEnv "b" false .none (.str "f.yaml") true =
      parseYaml sameObjectsEnv "a" false .none (.str "f.yaml") true :=
  ⟨⟨rfl,rfl⟩,parseJson_eq_parseYaml sameObjectsEnv "a" "b" annotationObjects rfl rfl false .none (.str "f.yaml") true⟩

end Ambassador
