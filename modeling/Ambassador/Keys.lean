import Ambassador.Ordinals
import Ambassador.Sources

/-! The keys the fetcher files its resources under: `services` keys join names with `-`, so
they collide when names hold `-`; resource keys are distinct within a batch, not across. -/

set_option autoImplicit false

namespace Ambassador

theorem append_sep_inj {c : Char} {a b a' b' : List Char} (ha : c ∉ a) (ha' : c ∉ a')
    (h : a ++ c :: b = a' ++ c :: b') : a = a' ∧ b = b' := by
  induction a generalizing a' with
  | nil =>
    cases a' with
    | nil => simpa using h
    | cons y a' => simp only [List.nil_append,List.cons_append,List.cons.injEq] at h; simp [h.1] at ha'
  | cons x a ih =>
    cases a' with
    | nil => simp only [List.nil_append,List.cons_append,List.cons.injEq] at h; simp [h.1] at ha
    | cons y a' =>
      simp only [List.cons_append,List.cons.injEq] at h
      obtain ⟨rfl,h⟩ := h
      obtain ⟨rfl,rfl⟩ := ih (fun hc => ha (List.mem_cons_of_mem _ hc))
        (fun hc => ha' (List.mem_cons_of_mem _ hc)) h
      exact ⟨rfl,rfl⟩

theorem joined_inj {pre n r n' r' : String} (hn : '-' ∉ n.data) (hn' : '-' ∉ n'.data)
    (h : pre ++ n ++ "-" ++ r = pre ++ n' ++ "-" ++ r') : n = n' ∧ r = r' := by
  have hd := congrArg String.data h
  simp only [String.data_append,List.append_assoc,List.append_cancel_left_eq] at hd
  obtain ⟨h1,h2⟩ := append_sep_inj hn hn' hd
  exact ⟨String.ext h1,String.ext h2⟩

def collidingServices : Value :=
  let service (name nspace : String) : Value := .dict [(.str "kind",.str "Service"),
    (.str "metadata",.dict [(.str "name",.str name),(.str "namespace",.str nspace)]),
    (.str "spec",.dict [(.str "ports",.list [.dict [(.str "port",.int 80)]])])]
  .dict [(.str "Kubernetes",.dict [(.str "service",.list [service "foo-bar" "baz",
    service "foo" "bar-baz"])])]

theorem serviceKey_collision :
    k8sServiceKey (.str "foo-bar") (.str "baz") = k8sServiceKey (.str "foo") (.str "bar-baz") ∧
    consulServiceKey (.str "foo-bar") (.str "baz") =
      consulServiceKey (.str "foo") (.str "bar-baz") ∧
    (final (parseWatt (Env.ofSnapshot collidingServices) "" true Fetcher.init)).k8sServices.entries.length = 2 ∧
    (final (parseWatt (Env.ofSnapshot collidingServices) "" true Fetcher.init)).elements.length = 1 :=
  ⟨rfl,rfl,rfl,rfl⟩

/-- The `services` keys tell apart identities whose names have no `-`, and `finalize` appends
one resource per key. -/
theorem serviceKeys_inj_without_hyphen :
    (∀ n ns n' ns' : String, '-' ∉ n.data → '-' ∉ n'.data →
      k8sServiceKey (.str n) (.str ns) = k8sServiceKey (.str n') (.str ns') → n = n' ∧ ns = ns') ∧
    (∀ n dc n' dc' : String, '-' ∉ n.data → '-' ∉ n'.data →
      consulServiceKey (.str n) (.str dc) = consulServiceKey (.str n') (.str dc') →
        n = n' ∧ dc = dc') ∧
    (∀ a b c d : Value, k8sServiceKey a b ≠ consulServiceKey c d) ∧
    (∀ (env : Env) (s s' : Fetcher), finalize env s = .ok () s' →
      (∀ kv ∈ s.k8sServices.entries,
        Value.str (k8sServiceKey kv.2.name kv.2.nspace) ∈ s'.services.keys) ∧
      s'.elements = s.elements ++ s'.services.entries.map (fun kv => ⟨kv.1,kv.1,kv.2⟩) ∧
      s'.services.keys.Pairwise (· ≠ ·)) := by
  refine ⟨fun n ns n' ns' hn hn' h => joined_inj hn hn' h,
    fun n dc n' dc' hn hn' h => joined_inj hn hn' h,fun a b c d h => ?_,
    fun env s s' h => ⟨(finalize_ok h).2,(finalize_ok h).1,s'.services.keys_pairwise_ne⟩⟩
  have := congrArg (fun k : String => k.data.head?) h
  simp [k8sServiceKey,consulServiceKey] at this

def sameNameCrds : Value :=
  let crd (kind : String) (spec : Value) : Value := .dict [(.str "kind",.str kind),
    (.str "apiVersion",.str "getambassador.io/v1"),(.str "metadata",.dict [(.str "name",.str "foo")]),
    (.str "spec",spec)]
  .dict [(.str "Kubernetes",.dict [
    (.str "Mapping",.list [crd "Mapping" (.dict [(.str "prefix",.str "/foo/"),(.str "service",.str "foo")])]),
    (.str "Module",.list [crd "Module" (.dict [(.str "config",.dict [])])])])]

theorem crd_rkeys_collide :
    (final (parseWatt (Env.ofSnapshot sameNameCrds) "" true Fetcher.init)).elements.map (·.rkey) =
      [.str "foo.default.1",.str "foo.default.1"] := rfl

theorem finalize_made_distinct {env : Env} {s s' : Fetcher} (h : finalize env s = .ok () s') :
    ∃ made : List ACResource,
      s'.elements = s.elements ++ made ∧ (made.map (·.rkey)).Pairwise (· ≠ ·) := by
  refine ⟨_,(finalize_ok h).1,?_⟩
  rw [List.map_map]
  exact s'.services.keys_pairwise_ne

/-- One `parse_object` batch, and one `finalize`, append resources with pairwise distinct keys. -/
theorem batch_and_finalize_rkeys_distinct :
    (∀ (env : Env) (objs : List Value) (rkey filename : Value) (s : Fetcher),
      ∃ made : List ACResource,
        (final (parseObject env (.list objs) false rkey filename s)).elements = s.elements ++ made ∧
        (made.map (·.rkey)).Pairwise (· ≠ ·)) ∧
    (∀ (env : Env) (s s' : Fetcher), finalize env s = .ok () s' →
      ∃ made : List ACResource,
        s'.elements = s.elements ++ made ∧ (made.map (·.rkey)).Pairwise (· ≠ ·)) := by
  refine ⟨fun env objs rkey filename s => ?_,fun env s s' h => finalize_made_distinct h⟩
  obtain ⟨made,he,-,hd⟩ := @parseObject_false_made env objs rkey filename s
  exact ⟨_,he,hd⟩

end Ambassador
