import Ambassador.Handlers

set_option autoImplicit false

namespace Ambassador

variable (env : Env)

variable {env}

theorem handsToFromDict_not_directive {obj : Value} (h : handsToFromDict env obj) :
    isDirective env obj = false := by
  cases obj
  case dict kvs =>
    simp only [handsToFromDict,Bool.and_eq_true] at h
    simp only [isDirective,h.1,Bool.true_and]
    split at h
    · rename_i kind hk
      simp only [Bool.and_eq_true,Bool.not_eq_true'] at h
      simp [hk,h.2.1]
    · simp at h
  all_goals rfl

theorem run_processObjects_cons (obj : Value) (objs : List Value) (rkey : Value) (t : Fetcher) :
    processObjects env (obj :: objs) rkey t = match processObject env obj rkey t with
      | .ok _ t1 => processObjects env objs rkey { t1 with ocount := t1.ocount + 1 }
      | .error e t1 => .error e t1 := by
  simp only [processObjects,List.forM_cons',run_bind,bumpOcount,run_modify]
  generalize processObject env obj rkey t = r
  cases r <;> rfl

theorem madeResource_at (label : Value) (n : Int) (obj : Value) :
    ∃ head : List (Value × Int × Value),
      madeResource env label n obj = head.map (fun m => resourceAt m.1 m.2.1 m.2.2) ∧
      (head.map (·.2.1)).Pairwise (· < ·) ∧ (∀ m ∈ head, m.2.1 = n) ∧
      (head ≠ [] → isDirective env obj = false) := by
  unfold madeResource
  split
  · rename_i hc
    simp only [Bool.and_eq_true] at hc
    exact ⟨[(label,n,obj)],rfl,List.pairwise_singleton _ _,by simp,
      fun _ => handsToFromDict_not_directive hc.1⟩
  · exact ⟨[],rfl,List.Pairwise.nil,by simp,fun h => absurd rfl h⟩

/-- The loop appends resources at strictly increasing ordinals from `t.ocount` on. -/
theorem processObjects_made (objs : List Value) (rkey : Value) (t : Fetcher) :
    ∃ made : List (Value × Int × Value),
      (final (processObjects env objs rkey t)).elements =
        t.elements ++ made.map (fun m => resourceAt m.1 m.2.1 m.2.2) ∧
      (made.map (·.2.1)).Pairwise (· < ·) ∧ ∀ m ∈ made, t.ocount ≤ m.2.1 := by
  induction objs generalizing t with
  | nil => exact ⟨[],by simp [processObjects],by simp,by simp⟩
  | cons obj objs ih =>
    have hs := processObject_step env obj rkey t
    obtain ⟨head,hhead,hp1,hn,hdir⟩ := @madeResource_at env (rkey.or t.filename) t.ocount obj
    rw [run_processObjects_cons]
    cases h1 : processObject env obj rkey t with
    | error e t1 =>
      rw [h1,final_error] at hs
      exact ⟨head,by rw [← hhead,← hs.elements]; rfl,hp1,fun m hm => (hn m hm).symm ▸ Int.le_refl _⟩
    | ok u t1 =>
      rw [h1,final_ok] at hs
      obtain ⟨made,he,hp,hge⟩ := ih { t1 with ocount := t1.ocount + 1 }
      simp only at he
      simp only [hs.ocount] at hge
      have hlt : ∀ a ∈ head, ∀ m ∈ made, a.2.1 < m.2.1 := by
        intro a ha m hm
        have := hge m hm
        simp only [hdir (List.ne_nil_of_mem ha),Bool.false_eq_true,↓reduceIte,Int.sub_zero] at this
        rw [hn a ha]
        omega
      refine ⟨head ++ made,?_,?_,?_⟩
      · simp only
        rw [he,hs.elements,hhead,List.append_assoc,List.map_append]
      · simp only [List.map_append,List.pairwise_append,List.mem_map]
        exact ⟨hp1,hp,by rintro _ ⟨a,ha,rfl⟩ _ ⟨m,hm,rfl⟩; exact hlt a ha m hm⟩
      · rintro m hm
        rcases List.mem_append.1 hm with hm | hm
        · exact (hn m hm).symm ▸ Int.le_refl _
        · have := hge m hm
          split at this <;> omega

theorem parseObject_false_run (objs : List Value) (rkey filename : Value) (s : Fetcher) :
    parseObject env (.list objs) false rkey filename s =
      match processObjects env objs rkey
          { s with saved := (s.filename,s.ocount) :: s.saved,filename,ocount := 1 } with
      | .ok _ t => popLocation t
      | .error e t => .error e t := by
  simp only [parseObject,parseObjectWith_false,run_bind,pushLocation,run_modify,run_liftExcept,
    Value.iter]
  generalize processObjects env objs rkey _ = r
  cases r <;> rfl

theorem popLocation_elements (t : Fetcher) : (final (popLocation t)).elements = t.elements := by
  simp only [popLocation,run_bind,run_get]
  cases t.saved <;> rfl

theorem parseObject_false_made (objs : List Value) (rkey filename : Value) (s : Fetcher) :
    ∃ made : List (Value × Int × Value),
      (final (parseObject env (.list objs) false rkey filename s)).elements =
        s.elements ++ made.map (fun m => resourceAt m.1 m.2.1 m.2.2) ∧
      (made.map (·.2.1)).Pairwise (· < ·) ∧
      ((made.map (fun m => resourceAt m.1 m.2.1 m.2.2)).map (·.rkey)).Pairwise (· ≠ ·) := by
  obtain ⟨made,he,hp,-⟩ := @processObjects_made env objs rkey
    { s with saved := (s.filename,s.ocount) :: s.saved,filename,ocount := 1 }
  refine ⟨made,?_,hp,?_⟩
  · rw [parseObject_false_run]
    revert he
    cases processObjects env objs rkey _ with
    | ok u t => intro he; rw [popLocation_elements] at *; simpa using he
    | error e t => intro he; simpa using he
  · rw [List.map_map,List.pairwise_map]
    rw [List.pairwise_map] at hp
    refine hp.imp ?_
    intro a b hab heq
    simp only [Function.comp,resourceAt,Value.str.injEq,formatRkey] at heq
    exact absurd (ordinal_of_dotted heq) (by omega)

end Ambassador
