import Ambassador.Sources

/-! The location stack: a `parse_object` call that returns gives its caller the location
back, and one that raises skips its pop. -/

set_option autoImplicit false

namespace Ambassador

/-- A run of `x` leaves the location stack as it found it when `x` returns, and with entries
pushed on top of it when `x` raises. -/
structure Balanced {α : Type} (x : Py α) : Prop where
  ok : ∀ s a s', x s = .ok a s' → s'.saved = s.saved
  error : ∀ s e s', x s = .error e s' → ∃ pre, s'.saved = pre ++ s.saved

theorem bind_eq_ok {α β : Type} {x : Py α} {k : α → Py β} {s s' : Fetcher} {b : β}
    (h : (x >>= k) s = .ok b s') : ∃ a t, x s = .ok a t ∧ k a t = .ok b s' := by
  rw [run_bind] at h
  cases hx : x s with
  | ok a t => rw [hx] at h; exact ⟨a,t,rfl,h⟩
  | error e t => rw [hx] at h; cases h

theorem bind_eq_error {α β : Type} {x : Py α} {k : α → Py β} {s s' : Fetcher} {e : PyError}
    (h : (x >>= k) s = .error e s') : x s = .error e s' ∨ ∃ a t, x s = .ok a t ∧ k a t = .error e s' := by
  rw [run_bind] at h
  cases hx : x s with
  | ok a t => rw [hx] at h; exact .inr ⟨a,t,rfl,h⟩
  | error e t => rw [hx] at h; cases h; exact .inl rfl

theorem final_liftExcept {α : Type} (x : Except PyError α) (s : Fetcher) :
    final (liftExcept x s) = s := by
  cases x <;> rfl

namespace Balanced
variable {α β : Type}

theorem of_frame {x : Py α} (hx : ∀ s, (final (x s)).saved = s.saved) : Balanced x := by
  constructor
  · intro s a s' h
    simpa [h] using hx s
  · intro s e s' h
    exact ⟨[],by simpa [h] using hx s⟩

theorem pure' (a : α) : Balanced (pure a : Py α) := of_frame fun _ => rfl

theorem throw' (e : PyError) : Balanced (throw e : Py α) := of_frame fun _ => rfl

theorem get' : Balanced (get : Py Fetcher) := of_frame fun _ => rfl

theorem modify' {g : Fetcher → Fetcher} (hg : ∀ s, (g s).saved = s.saved) : Balanced (modify g) :=
  of_frame hg

theorem liftExcept' (x : Except PyError α) : Balanced (liftExcept x) :=
  of_frame fun s => congrArg Fetcher.saved (final_liftExcept x s)

theorem bind' {x : Py α} {k : α → Py β} (hx : Balanced x) (hk : ∀ a, Balanced (k a)) :
    Balanced (x >>= k) := by
  constructor
  · intro s b s' h
    obtain ⟨a,t,hxs,hks⟩ := bind_eq_ok h
    exact ((hk a).ok t b s' hks).trans (hx.ok s a t hxs)
  · intro s e s' h
    rcases bind_eq_error h with hxs | ⟨a,t,hxs,hks⟩
    · exact hx.error s e s' hxs
    · obtain ⟨pre,hp⟩ := (hk a).error t e s' hks
      exact ⟨pre,by rw [hp,hx.ok s a t hxs]⟩

theorem forM' {xs : List α} {g : α → Py PUnit} (hg : ∀ a ∈ xs, Balanced (g a)) :
    Balanced (xs.forM g) := by
  induction xs with
  | nil => exact pure' _
  | cons a as ih =>
    exact bind' (hg a (List.mem_cons_self _ _)) fun _ => ih fun b hb => hg b (List.mem_cons_of_mem _ hb)

theorem tryCatch' {x : Py α} {h : PyError → Py α} (hx : ∀ s, (final (x s)).saved = s.saved)
    (hh : ∀ e, Balanced (h e)) : Balanced (tryCatch x h) := by
  have hrun : ∀ s, tryCatch x h s = match x s with
      | .ok a t => .ok a t
      | .error e t => h e t := by
    intro s
    simp only [tryCatch,tryCatchThe,MonadExceptOf.tryCatch,EStateM.tryCatch,EStateM.dummyRestore]
    cases x s <;> rfl
  constructor
  · intro s a s' hr
    have hxs := hx s
    rw [hrun] at hr
    cases hxr : x s with
    | ok b t => rw [hxr] at hr hxs; cases hr; exact hxs
    | error e t => rw [hxr] at hr hxs; exact ((hh e).ok t a s' hr).trans hxs
  · intro s e s' hr
    have hxs := hx s
    rw [hrun] at hr
    cases hxr : x s with
    | ok b t => rw [hxr] at hr; cases hr
    | error e' t =>
      rw [hxr] at hr hxs
      obtain ⟨pre,hp⟩ := (hh e').error t e s' hr
      exact ⟨pre,hp.trans (congrArg (pre ++ ·) hxs)⟩

end Balanced

theorem popLocation_cons {t : Fetcher} {filename : Value} {ocount : Int} {saved : List (Value × Int)}
    (h : t.saved = (filename,ocount) :: saved) :
    popLocation t = .ok () { t with filename,ocount,saved } := by
  simp only [popLocation,run_bind,run_get,h]
  rfl

/-- A pop after a balanced computation gives back the entry on top when it returns. -/
theorem balanced_then_pop {α : Type} {x : Py α} (hx : Balanced x) {t : Fetcher} {e : Value × Int}
    {saved : List (Value × Int)} (ht : t.saved = e :: saved) :
    (∀ u t', (x >>= fun _ => popLocation) t = .ok u t' → (t'.filename,t'.ocount,t'.saved) = (e.1,e.2,saved)) ∧
    (∀ err t', (x >>= fun _ => popLocation) t = .error err t' → ∃ pre, t'.saved = pre ++ e :: saved) := by
  constructor
  · intro u t' h
    obtain ⟨_,t1,h1,h⟩ := bind_eq_ok h
    rw [popLocation_cons ((hx.ok t _ t1 h1).trans ht)] at h
    cases h
    rfl
  · intro err t' h
    rcases bind_eq_error h with h1 | ⟨_,t1,h1,h⟩
    · obtain ⟨pre,hp⟩ := hx.error t err t' h1
      exact ⟨pre,by rw [hp,ht]⟩
    · rw [popLocation_cons ((hx.ok t _ t1 h1).trans ht)] at h
      cases h

variable (env : Env)

theorem balanced_processObject (obj rkey : Value) : Balanced (processObject env obj rkey) :=
  Balanced.of_frame fun s => (processObject_step env obj rkey s).saved

theorem parseObjectWith_location {handleK8s : Value → Py Unit}
    (hh : ∀ obj, Balanced (handleK8s obj)) (objects : Value) (k8s : Bool) (rkey filename : Value) :
    (∀ s u s', parseObjectWith env handleK8s objects k8s rkey filename s = .ok u s' →
      (s'.filename,s'.ocount,s'.saved) = (s.filename,s.ocount,s.saved)) ∧
    (∀ s e s', parseObjectWith env handleK8s objects k8s rkey filename s = .error e s' →
      ∃ pre, s'.saved = pre ++ (s.filename,s.ocount) :: s.saved) := by
  have hloop : ∀ objs : List Value, Balanced (objs.forM fun obj =>
      if k8s then handleK8s obj else do processObject env obj rkey; bumpOcount) := fun _ =>
    Balanced.forM' fun obj _ => by
      split
      · exact hh obj
      · exact Balanced.bind' (balanced_processObject env obj rkey) fun _ => Balanced.modify' fun _ => rfl
  constructor
  · intro s u s' h
    obtain ⟨_,s1,h1,h⟩ := bind_eq_ok h
    cases h1
    obtain ⟨objs,s2,h2,h⟩ := bind_eq_ok h
    exact (balanced_then_pop (hloop objs) ((Balanced.liftExcept' _).ok _ _ s2 h2)).1 u s' h
  · intro s e s' h
    rcases bind_eq_error h with h1 | ⟨_,s1,h1,h⟩
    · cases h1
    cases h1
    rcases bind_eq_error h with h2 | ⟨objs,s2,h2,h⟩
    · exact (Balanced.liftExcept' _).error _ e s' h2
    · exact (balanced_then_pop (hloop objs) ((Balanced.liftExcept' _).ok _ _ s2 h2)).2 e s' h

theorem balanced_parseObjectWith_ignoreK8s (objects : Value) (k8s : Bool) (rkey filename : Value) :
    Balanced (parseObjectWith env ignoreK8s objects k8s rkey filename) := by
  obtain ⟨hok,herr⟩ := parseObjectWith_location env (fun _ => Balanced.pure' _) objects k8s rkey filename
  constructor
  · intro s a s' h
    exact congrArg (·.2.2) (hok s a s' h)
  · intro s e s' h
    obtain ⟨pre,hp⟩ := herr s e s' h
    exact ⟨pre ++ [(s.filename,s.ocount)],by rw [hp,List.append_assoc]; rfl⟩

theorem balanced_annotateFilename : Balanced annotateFilename := by
  refine Balanced.of_frame fun s => ?_
  simp only [annotateFilename,run_bind,run_get]
  cases s.filename
  case str f => dsimp only; split <;> rfl
  all_goals rfl

theorem balanced_storeSubsets (key : String) (name nspace : Value) (subsets : List Value) :
    Balanced (storeSubsets key name nspace subsets) := by
  unfold storeSubsets setK8sEndpoint
  repeat' with_reducible first
    | exact Balanced.pure' _
    | exact Balanced.liftExcept' _
    | exact Balanced.modify' fun _ => rfl
    | refine Balanced.bind' ?_ fun _ => ?_
    | refine Balanced.forM' fun _ _ => ?_
    | split

theorem balanced_k8sHandler {kind : String} {handler : Value → Py HandlerResult}
    (hk : k8sHandler env kind = some handler) (obj : Value) : Balanced (handler obj) := by
  unfold k8sHandler at hk
  split at hk <;> cases hk
  all_goals
    simp only [handleK8sCrd,handleK8sEndpoints,handleK8sService,handleK8sSecret,setK8sService]
    repeat' with_reducible first
      | exact Balanced.pure' _
      | exact Balanced.throw' _
      | exact Balanced.liftExcept' _
      | exact Balanced.get'
      | exact balanced_annotateFilename
      | exact balanced_storeSubsets _ _ _ _
      | exact Balanced.modify' fun _ => rfl
      | exact balanced_parseObjectWith_ignoreK8s env _ _ _ _
      | refine Balanced.tryCatch' (fun s => congrArg Fetcher.saved (final_liftExcept _ s)) fun _ => ?_
      | refine Balanced.bind' ?_ fun _ => ?_
      | split

theorem balanced_handleK8s (obj : Value) : Balanced (handleK8s env obj) := by
  unfold handleK8s
  repeat' with_reducible first
    | exact Balanced.pure' _
    | exact Balanced.liftExcept' _
    | exact Balanced.get'
    | exact balanced_k8sHandler env ‹_› _
    | exact balanced_parseObjectWith_ignoreK8s env _ _ _ _
    | refine Balanced.bind' ?_ fun _ => ?_
    | split

/-- Whenever `parse_object` returns normally, the caller's location and stack are back. -/
theorem parseObject_restores_location (objects : Value) (k8s : Bool) (rkey filename : Value)
    (s s' : Fetcher) (h : parseObject env objects k8s rkey filename s = .ok () s') :
    (s'.filename,s'.ocount,s'.saved) = (s.filename,s.ocount,s.saved) :=
  (parseObjectWith_location env (balanced_handleK8s env) objects k8s rkey filename).1 s () s' h

def annotationMapping : Value :=
  .dict [(.str "kind",.str "Mapping"),(.str "name",.str "web"),(.str "prefix",.str "/web/")]

def annotationObjects : List Value :=
  [.dict [(.str "kind",.str "Pragma"),(.str "source",.str "elsewhere")],annotationMapping]

def annotatedEnv : Env := { Env.ofSnapshot .none with loadYaml := fun _ => .ok annotationObjects }

def annotatedService : Value :=
  .dict [(.str "kind",.str "Service"),(.str "metadata",.dict [(.str "name",.str "web"),
    (.str "annotations",.dict [(.str "getambassador.io/config",.str "---")])])]

def midFile : Fetcher := { Fetcher.init with filename := .str "outer.yaml",ocount := 3,saved := [(.none,1)] }

def midFileParsed : Fetcher := { midFile with elements := [resourceAt (.str "web.default") 1 annotationMapping] }

theorem parseObject_restores_location_annotated :
    parseObject annotatedEnv (.list [annotatedService]) true .none (.str "snapshot") midFile =
      .ok () midFileParsed ∧
    (midFileParsed.filename,midFileParsed.ocount,midFileParsed.saved) =
      (midFile.filename,midFile.ocount,midFile.saved) :=
  ⟨rfl,parseObject_restores_location annotatedEnv (.list [annotatedService]) true .none (.str "snapshot")
    midFile midFileParsed rfl⟩

/-- A `parse_object` call that raises skips its pop: the caller's entry stays on the stack. -/
theorem parseObject_raise_keeps_entry (objects : Value) (k8s : Bool) (rkey filename : Value)
    (s s' : Fetcher) (e : PyError) (h : parseObject env objects k8s rkey filename s = .error e s') :
    ∃ pre, s'.saved = pre ++ (s.filename,s.ocount) :: s.saved :=
  (parseObjectWith_location env (balanced_handleK8s env) objects k8s rkey filename).2 s e s' h

def namelessEnv : Env :=
  { Env.ofSnapshot .none with loadYaml := fun _ => .ok [.dict [(.str "kind",.str "Service")]] }

def midFileRaised : Fetcher :=
  { midFile with
    filename := .str "snapshot:annotation",ocount := 1,
    saved := (.str "snapshot:annotation",1) :: (.str "outer.yaml",3) :: midFile.saved }

theorem parseObject_raise_keeps_entry_nameless :
    parseObject namelessEnv (.list [annotatedService]) true .none (.str "snapshot") midFile =
      .error (.keyError "name") midFileRaised ∧
    ∃ pre, midFileRaised.saved = pre ++ (midFile.filename,midFile.ocount) :: midFile.saved :=
  ⟨rfl,parseObject_raise_keeps_entry namelessEnv (.list [annotatedService]) true .none (.str "snapshot")
    midFile midFileRaised _ rfl⟩

end Ambassador
