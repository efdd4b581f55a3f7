import Ambassador.Exceptions

/-! The location stack across calls: every public method keeps it balanced, so along any
calls it only grows. -/

set_option autoImplicit false

namespace Ambassador

namespace Balanced
variable {α β : Type}

theorem final_saved {x : Py α} (hx : Balanced x) (s : Fetcher) : ∃ pre, (final (x s)).saved = pre ++ s.saved := by
  cases hs : x s with
  | ok a t => exact ⟨[],hx.ok s a t hs⟩
  | error e t => exact hx.error s e t hs

theorem ifThen' {c : Prop} [Decidable c] {x : Py PUnit} {k : PUnit → Py β} (hx : Balanced x)
    (hk : ∀ u, Balanced (k u)) :
    Balanced (if c then x >>= fun y => k y else pure PUnit.unit >>= fun y => k y) := by
  split
  · exact bind' hx hk
  · exact bind' (pure' _) hk

theorem tryDecode' {dec : Except PyError α} {body : α → Py β} {h : PyError → Py β}
    (hbody : ∀ a, Balanced (body a)) (hnd : ∀ a, RaisesNoDecode (body a))
    (hh : ∀ e, e.isDecode = true → Balanced (h e)) (hre : ∀ e, e.isDecode = false → h e = throw e) :
    Balanced (tryCatch (liftExcept dec >>= body) h) := by
  have hx := bind' (liftExcept' dec) hbody
  constructor
  · intro s b s' hr
    rcases tryDecode_run hnd hre s with he | ⟨e,hd,he⟩ <;> rw [he] at hr
    · exact hx.ok s b s' hr
    · exact (hh e hd).ok s b s' hr
  · intro s e s' hr
    rcases tryDecode_run hnd hre s with he | ⟨e',hd,he⟩ <;> rw [he] at hr
    · exact hx.error s e s' hr
    · exact (hh e' hd).error s e s' hr

end Balanced

theorem balanced_postError (msg : String) : Balanced (postError msg) := Balanced.modify' fun _ => rfl

theorem balanced_appendElement (r : ACResource) : Balanced (appendElement r) := Balanced.modify' fun _ => rfl

theorem balanced_location : Balanced location := Balanced.of_frame fun _ => rfl

theorem balanced_setService (key svc : Value) : Balanced (setService key svc) := by
  refine Balanced.of_frame fun s => ?_
  rw [run_setService]
  split <;> rfl

theorem balanced_postAtLocation (f : String → String) : Balanced (do postError (f (← location))) :=
  Balanced.bind' balanced_location fun _ => balanced_postError _

variable (env : Env)

theorem balanced_parseObjectWith {handleK8s : Value → Py Unit} (hh : ∀ obj, Balanced (handleK8s obj))
    (objects : Value) (k8s : Bool) (rkey filename : Value) :
    Balanced (parseObjectWith env handleK8s objects k8s rkey filename) := by
  obtain ⟨hok,herr⟩ := parseObjectWith_location env hh objects k8s rkey filename
  constructor
  · intro s a s' h
    exact congrArg (·.2.2) (hok s a s' h)
  · intro s e s' h
    obtain ⟨pre,hp⟩ := herr s e s' h
    exact ⟨pre ++ [(s.filename,s.ocount)],by rw [hp,List.append_assoc]; rfl⟩

theorem balanced_parseObject (objects : Value) (k8s : Bool) (rkey filename : Value) :
    Balanced (parseObject env objects k8s rkey filename) :=
  balanced_parseObjectWith env (balanced_handleK8s env) objects k8s rkey filename

theorem balanced_finalize : Balanced (finalize env) := by
  unfold finalize resolveServices appendServices
  repeat' with_reducible first
    | refine Balanced.bind' ?_ fun _ => ?_
    | refine Balanced.forM' fun _ _ => ?_
    | split
    | exact Balanced.get'
    | exact Balanced.liftExcept' _
    | exact Balanced.throw' _
    | exact balanced_setService _ _
    | exact balanced_appendElement _

theorem balanced_finalizeIf (fin : Bool) : Balanced (if fin then finalize env else pure ()) := by
  cases fin
  · exact Balanced.pure' _
  · exact balanced_finalize env

theorem balanced_handleK8sCrd (obj : Value) : Balanced (handleK8sCrd env obj) :=
  balanced_k8sHandler env (show k8sHandler env "crd" = some (handleK8sCrd env) from rfl) obj

theorem balanced_handleConsulService (consulRkey consulObject : Value) :
    Balanced (handleConsulService env consulRkey consulObject) := by
  unfold handleConsulService
  repeat' with_reducible first
    | refine Balanced.bind' ?_ fun _ => ?_
    | split
    | exact Balanced.pure' _
    | exact Balanced.liftExcept' _
    | exact balanced_setService _ _

theorem balanced_parseWattDict (wattDict : Value) : Balanced (parseWattDict env wattDict) := by
  unfold parseWattDict
  repeat' with_reducible first
    | refine Balanced.bind' ?_ fun _ => ?_
    | refine Balanced.forM' fun _ _ => ?_
    | split
    | exact Balanced.pure' _
    | exact Balanced.get'
    | exact Balanced.liftExcept' _
    | exact balanced_handleK8s env _
    | exact balanced_handleK8sCrd env _
    | exact balanced_handleConsulService env _ _
    | exact balanced_parseObject env _ _ _ _

theorem balanced_parseYaml (serialization : String) (k8s : Bool) (rkey filename : Value) (fin : Bool) :
    Balanced (parseYaml env serialization k8s rkey filename fin) := by
  refine Balanced.bind' (Balanced.tryDecode' (fun _ => balanced_parseObject env _ _ _ _)
    (fun _ => raisesNoDecode_parseObjectWith env (raisesNoDecode_handleK8s env) _ _ _ _) ?_ ?_)
    fun _ => balanced_finalizeIf env fin
  · intro e _
    cases e <;> first | exact Balanced.throw' _ | exact balanced_postAtLocation _
  · intro e he
    cases e <;> first | rfl | cases he

theorem balanced_parseJson (serialization : String) (k8s : Bool) (rkey filename : Value) (fin : Bool) :
    Balanced (parseJson env serialization k8s rkey filename fin) := by
  refine Balanced.bind' (Balanced.tryDecode' (fun _ => balanced_parseObject env _ _ _ _)
    (fun _ => raisesNoDecode_parseObjectWith env (raisesNoDecode_handleK8s env) _ _ _ _) ?_ ?_)
    fun _ => balanced_finalizeIf env fin
  · intro e _
    cases e <;> first | exact Balanced.throw' _ | exact balanced_postAtLocation _
  · intro e he
    cases e <;> first | rfl | cases he

theorem balanced_parseWatt (serialization : String) (fin : Bool) : Balanced (parseWatt env serialization fin) := by
  refine Balanced.ifThen' (balanced_postError _) fun _ => Balanced.ifThen' (balanced_postError _) fun _ =>
    Balanced.bind' (Balanced.tryDecode' (balanced_parseWattDict env) (raisesNoDecode_parseWattDict env) ?_ ?_)
      fun _ => balanced_finalizeIf env fin
  · intro e _
    cases e <;> first | exact Balanced.throw' _ | exact balanced_postAtLocation _
  · intro e he
    cases e <;> first | rfl | cases he

theorem balanced_loadFromFilesystem (inputs : List InputFile) (k8s fin : Bool) :
    Balanced (loadFromFilesystem env inputs k8s fin) := by
  refine Balanced.bind' (Balanced.forM' fun input _ => ?_) fun _ => balanced_finalizeIf env fin
  split
  · exact balanced_parseYaml env _ _ _ _ _
  · exact balanced_postError _
  · exact Balanced.throw' _

theorem balanced_run (c : Call) : Balanced (c.run env) := by
  cases c with
  | parseYaml => exact balanced_parseYaml env _ _ _ _ _
  | parseJson => exact balanced_parseJson env _ _ _ _ _
  | parseWatt => exact balanced_parseWatt env _ _
  | loadFromFilesystem => exact balanced_loadFromFilesystem env _ _ _
  | finalize => exact balanced_finalize env

/-- Along any calls, the location stack only gains entries, and is unchanged when all return. -/
theorem calls_stack_only_grows (env : Env) (s : Fetcher) (calls : List Call) :
    (∃ pre, (runCalls env s calls).saved = pre ++ s.saved) ∧
    ∀ s', (calls.forM fun c => c.run env) s = .ok () s' → s'.saved = s.saved := by
  refine ⟨?_,(Balanced.forM' fun c _ => balanced_run env c).ok s ()⟩
  induction calls generalizing s with
  | nil => exact ⟨[],rfl⟩
  | cons c cs ih =>
    obtain ⟨pre,hp⟩ := (balanced_run env c).final_saved s
    obtain ⟨pre',hp'⟩ := ih (final (c.run env s))
    exact ⟨pre' ++ pre,by rw [List.append_assoc,← hp,← hp']; rfl⟩

end Ambassador
