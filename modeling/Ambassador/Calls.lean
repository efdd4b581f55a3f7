import Ambassador.Exceptions

/-! The fetcher between calls: along calls from a fresh fetcher that all return, it is back
at the top level after each, so every message posted there names `anonymous YAML.1`. -/

set_option autoImplicit false

namespace Ambassador

/-- Every run of `x` from a state in `P` that returns normally ends in `P`. -/
def KeepsOnReturn {α : Type} (P : Fetcher → Prop) (x : Py α) : Prop :=
  ∀ s a s', P s → x s = .ok a s' → P s'

namespace KeepsOnReturn
variable {P : Fetcher → Prop} {α β : Type}

theorem pure' (a : α) : KeepsOnReturn P (pure a : Py α) := by
  intro s b s' hs h
  cases h
  exact hs

theorem throw' (e : PyError) : KeepsOnReturn P (throw e : Py α) := by
  intro s a s' hs h
  cases h

theorem get' : KeepsOnReturn P (get : Py Fetcher) := by
  intro s a s' hs h
  cases h
  exact hs

theorem modify' {g : Fetcher → Fetcher} (hg : ∀ s, P s → P (g s)) : KeepsOnReturn P (modify g) := by
  intro s a s' hs h
  cases h
  exact hg s hs

theorem liftExcept' (x : Except PyError α) : KeepsOnReturn P (liftExcept x) := by
  intro s a s' hs h
  cases x <;> cases h
  exact hs

theorem bind' {x : Py α} {k : α → Py β} (hx : KeepsOnReturn P x) (hk : ∀ a, KeepsOnReturn P (k a)) :
    KeepsOnReturn P (x >>= k) := by
  intro s b s' hs h
  obtain ⟨a,t,hxs,hks⟩ := bind_eq_ok h
  exact hk a t b s' (hx s a t hs hxs) hks

theorem forM' {xs : List α} {g : α → Py PUnit} (hg : ∀ a, KeepsOnReturn P (g a)) :
    KeepsOnReturn P (xs.forM g) := by
  induction xs with
  | nil => exact pure' _
  | cons a as ih => exact bind' (hg a) fun _ => ih

theorem ifThen' {c : Prop} [Decidable c] {x : Py PUnit} {k : PUnit → Py β} (hx : KeepsOnReturn P x)
    (hk : ∀ u, KeepsOnReturn P (k u)) :
    KeepsOnReturn P (if c then x >>= fun y => k y else pure PUnit.unit >>= fun y => k y) := by
  split
  · exact bind' hx hk
  · exact bind' (pure' _) hk

theorem tryDecode' {dec : Except PyError α} {body : α → Py β} {h : PyError → Py β}
    (hbody : ∀ a, KeepsOnReturn P (body a)) (hnd : ∀ a, RaisesNoDecode (body a))
    (hh : ∀ e, e.isDecode = true → KeepsOnReturn P (h e))
    (hre : ∀ e, e.isDecode = false → h e = throw e) :
    KeepsOnReturn P (tryCatch (liftExcept dec >>= body) h) := by
  intro s b s' hs hr
  rcases tryDecode_run hnd hre s with he | ⟨e,hd,he⟩ <;> rw [he] at hr
  · exact bind' (liftExcept' dec) hbody s b s' hs hr
  · exact hh e hd s b s' hs hr

end KeepsOnReturn

variable (env : Env)

end Ambassador
