import Ambassador.Value

set_option autoImplicit false

namespace Ambassador
open Value

/-- A dictionary the fetcher builds itself: members in insertion order, under pairwise unequal
hashable keys. -/
structure PyDict (β : Type) where
  entries : List (Value × β)
  hashable : ∀ kv ∈ entries, kv.1.hashable
  distinct : entries.Pairwise fun a b => a.1.sameKey b.1 = false

namespace PyDict
variable {β : Type}

def empty : PyDict β := ⟨[],by simp,.nil⟩

def keys (d : PyDict β) : List Value := d.entries.map Prod.fst

def values (d : PyDict β) : List β := d.entries.map Prod.snd

def find? (d : PyDict β) (k : Value) : Option β :=
  (d.entries.find? fun kv => kv.1.sameKey k).map Prod.snd

/-- `d[k] = v` on the members: a key equal to `k` keeps its place and its first spelling. -/
def insertEntry (k : Value) (v : β) : List (Value × β) → List (Value × β)
  | [] => [(k,v)]
  | kv :: rest => if kv.1.sameKey k then (kv.1,v) :: rest else kv :: insertEntry k v rest

theorem fst_mem_insertEntry {k : Value} {v : β} {es : List (Value × β)} {kv : Value × β}
    (h : kv ∈ insertEntry k v es) : kv.1 = k ∨ kv.1 ∈ es.map Prod.fst := by
  induction es with
  | nil => simp_all [insertEntry]
  | cons e rest ih =>
    unfold insertEntry at h
    split at h
    · rcases List.mem_cons.1 h with rfl | h
      · simp
      · exact .inr (List.mem_cons_of_mem _ (List.mem_map_of_mem _ h))
    · rcases List.mem_cons.1 h with rfl | h
      · simp
      · rcases ih h with h | h
        · exact .inl h
        · exact .inr (List.mem_cons_of_mem _ h)

theorem snd_mem_insertEntry {k : Value} {v : β} {es : List (Value × β)} {kv : Value × β}
    (h : kv ∈ insertEntry k v es) : kv.2 = v ∨ kv ∈ es := by
  induction es with
  | nil => simp_all [insertEntry]
  | cons e rest ih =>
    unfold insertEntry at h
    split at h
    · rcases List.mem_cons.1 h with rfl | h
      · simp
      · exact .inr (List.mem_cons_of_mem _ h)
    · rcases List.mem_cons.1 h with rfl | h
      · simp
      · rcases ih h with h | h
        · exact .inl h
        · exact .inr (List.mem_cons_of_mem _ h)

theorem keys_insertEntry_of_any {k : Value} (v : β) {es : List (Value × β)}
    (h : es.any fun kv => kv.1.sameKey k) : (insertEntry k v es).map Prod.fst = es.map Prod.fst := by
  induction es with
  | nil => simp at h
  | cons e rest ih =>
    by_cases he : e.1.sameKey k
    · simp [insertEntry,he]
    · simp only [List.any_cons,he,Bool.false_or] at h
      simp [insertEntry,he,ih h]

theorem keys_insertEntry_of_not_any {k : Value} (v : β) {es : List (Value × β)}
    (h : (es.any fun kv => kv.1.sameKey k) = false) :
    (insertEntry k v es).map Prod.fst = es.map Prod.fst ++ [k] := by
  induction es with
  | nil => simp [insertEntry]
  | cons e rest ih =>
    simp only [List.any_cons,Bool.or_eq_false_iff] at h
    simp [insertEntry,h.1,ih h.2]

theorem insertEntry_distinct (k : Value) (v : β) {es : List (Value × β)}
    (hd : es.Pairwise fun a b => a.1.sameKey b.1 = false) :
    (insertEntry k v es).Pairwise fun a b => a.1.sameKey b.1 = false := by
  induction es with
  | nil => simp [insertEntry]
  | cons e rest ih =>
    rw [List.pairwise_cons] at hd
    unfold insertEntry
    split
    · exact List.pairwise_cons.2 ⟨fun b hb => hd.1 b hb,hd.2⟩
    · rename_i hek
      refine List.pairwise_cons.2 ⟨fun b hb => ?_,ih hd.2⟩
      rcases fst_mem_insertEntry hb with hb1 | hb1
      · simpa [hb1] using hek
      · obtain ⟨c,hc,hcb⟩ := List.mem_map.1 hb1
        rw [← hcb]; exact hd.1 c hc

theorem mem_insertEntry {k : Value} {v : β} {es : List (Value × β)} {m : Value × β}
    (hk : k.hashable) (hd : es.Pairwise fun a b => a.1.sameKey b.1 = false)
    (h : m ∈ insertEntry k v es) : (m.1.sameKey k ∧ m.2 = v) ∨ (m ∈ es ∧ m.1.sameKey k = false) := by
  induction es with
  | nil =>
    simp only [insertEntry,List.mem_singleton] at h
    exact .inl (h ▸ ⟨sameKey_refl hk,rfl⟩)
  | cons e rest ih =>
    rw [List.pairwise_cons] at hd
    unfold insertEntry at h
    split at h
    · rename_i he
      rcases List.mem_cons.1 h with rfl | h
      · exact .inl ⟨he,rfl⟩
      · refine .inr ⟨List.mem_cons_of_mem _ h,?_⟩
        cases hm : m.1.sameKey k
        · rfl
        · have := hd.1 m h
          rw [sameKey_trans he (sameKey_comm k m.1 ▸ hm)] at this
          exact absurd this Bool.noConfusion
    · rename_i he
      rcases List.mem_cons.1 h with rfl | h
      · exact .inr ⟨List.mem_cons_self _ _,Bool.eq_false_iff.2 he⟩
      · exact (ih hd.2 h).imp id fun h => ⟨List.mem_cons_of_mem _ h.1,h.2⟩

theorem mem_insertEntry_of_ne {k : Value} (v : β) {es : List (Value × β)} {m : Value × β}
    (hm : m ∈ es) (hne : m.1.sameKey k = false) : m ∈ insertEntry k v es := by
  induction es with
  | nil => simp at hm
  | cons e rest ih =>
    unfold insertEntry
    rcases List.mem_cons.1 hm with rfl | hm
    · simp [hne]
    · split <;> exact List.mem_cons_of_mem _ (by first | exact hm | exact ih hm)

theorem exists_sameKey_insertEntry {k : Value} (v : β) (es : List (Value × β)) (hk : k.hashable) :
    ∃ m ∈ insertEntry k v es, m.1.sameKey k := by
  induction es with
  | nil => exact ⟨(k,v),by simp [insertEntry],sameKey_refl hk⟩
  | cons e rest ih =>
    unfold insertEntry
    split
    · exact ⟨(e.1,v),List.mem_cons_self _ _,‹_›⟩
    · obtain ⟨m,hm,hmk⟩ := ih
      exact ⟨m,List.mem_cons_of_mem _ hm,hmk⟩

def lastValue (pairs : List (Value × β)) (k : Value) : Option β :=
  (pairs.reverse.find? fun p => p.1.sameKey k).map Prod.snd

theorem lastValue_cons (p : Value × β) (ps : List (Value × β)) (k : Value) :
    lastValue (p :: ps) k = match lastValue ps k with
      | some v => some v
      | Option.none => if p.1.sameKey k then some p.2 else Option.none := by
  simp only [lastValue,List.reverse_cons,List.find?_append]
  cases ps.reverse.find? fun q => q.1.sameKey k <;> simp only [List.find?_cons,List.find?_nil] <;>
    split <;> simp_all

theorem lastValue_eq_none {ps : List (Value × β)} {k : Value} :
    lastValue ps k = Option.none ↔ ∀ q ∈ ps, q.1.sameKey k = false := by
  simp [lastValue,List.find?_eq_none]

/-- `d` is what assigning `pairs` in order to a copy of the dict `acc` gives. -/
structure Assigned (acc pairs d : List (Value × β)) : Prop where
  distinct : d.Pairwise fun a b => a.1.sameKey b.1 = false
  assigned : ∀ p ∈ pairs, ∃ m ∈ d, m.1.sameKey p.1
  last : ∀ m ∈ d, lastValue pairs m.1 = some m.2 ∨ (m ∈ acc ∧ lastValue pairs m.1 = Option.none)
  origin : ∀ m ∈ d, m.1 ∈ pairs.map Prod.fst ∨ m.1 ∈ acc.map Prod.fst
  kept : ∀ m ∈ acc, (∀ p ∈ pairs, m.1.sameKey p.1 = false) → m ∈ d

theorem Assigned.nil {acc : List (Value × β)} (hd : acc.Pairwise fun a b => a.1.sameKey b.1 = false) :
    Assigned acc [] acc :=
  ⟨hd,by simp,fun m hm => .inr ⟨hm,rfl⟩,fun m hm => .inr (List.mem_map_of_mem _ hm),fun m hm _ => hm⟩

theorem Assigned.cons {acc ps d : List (Value × β)} {k : Value} {v : β} (hk : k.hashable)
    (hd : acc.Pairwise fun a b => a.1.sameKey b.1 = false) (h : Assigned (insertEntry k v acc) ps d) :
    Assigned acc ((k,v) :: ps) d := by
  refine ⟨h.distinct,fun p hp => ?_,fun m hm => ?_,fun m hm => ?_,fun m hm hne => ?_⟩
  · rcases List.mem_cons.1 hp with rfl | hp
    · obtain ⟨m1,hm1,hm1k⟩ := exists_sameKey_insertEntry v acc hk
      by_cases hq : ∃ q ∈ ps, q.1.sameKey k
      · obtain ⟨q,hq,hqk⟩ := hq
        obtain ⟨m,hm,hmq⟩ := h.assigned q hq
        exact ⟨m,hm,sameKey_trans hmq hqk⟩
      · refine ⟨m1,h.kept m1 hm1 fun q hq' => Bool.eq_false_iff.2 fun hmq => hq ⟨q,hq',?_⟩,hm1k⟩
        exact sameKey_trans (sameKey_comm q.1 m1.1 ▸ hmq) hm1k
    · exact h.assigned p hp
  · rw [lastValue_cons]
    rcases h.last m hm with hl | ⟨hm1,hl⟩
    · simp [hl]
    · rcases mem_insertEntry hk hd hm1 with ⟨hmk,hv⟩ | ⟨hma,hmk⟩
      · simp [hl,sameKey_comm k m.1,hmk,hv]
      · simp [hl,sameKey_comm k m.1,hmk,hma]
  · rcases h.origin m hm with ho | ho
    · exact .inl (List.mem_cons_of_mem _ ho)
    · obtain ⟨m1,hm1,he⟩ := List.mem_map.1 ho
      rcases fst_mem_insertEntry hm1 with h1 | h1
      · exact .inl (by simp [← he,h1])
      · exact .inr (he ▸ h1)
  · refine h.kept m (mem_insertEntry_of_ne v hm (hne _ (List.mem_cons_self _ _))) fun p hp => ?_
    exact hne p (List.mem_cons_of_mem _ hp)

theorem Assigned.map {pairs d : List (Value × β)} {γ : Type} (h : Assigned [] pairs d) (f : β → γ) :
    Assigned [] (pairs.map fun p => (p.1,f p.2)) (d.map fun p => (p.1,f p.2)) := by
  have hl (k : Value) : lastValue (pairs.map fun p => (p.1,f p.2)) k = (lastValue pairs k).map f := by
    simp only [lastValue,← List.map_reverse,List.find?_map,Function.comp_def,Option.map_map]
  refine ⟨List.pairwise_map.2 (h.distinct.imp id),fun q hq => ?_,fun n hn => ?_,fun n hn => ?_,
    fun n hn => absurd hn (List.not_mem_nil _)⟩
  · obtain ⟨p,hp,rfl⟩ := List.mem_map.1 hq
    obtain ⟨m,hm,hmp⟩ := h.assigned p hp
    exact ⟨_,List.mem_map_of_mem _ hm,hmp⟩
  · obtain ⟨m,hm,rfl⟩ := List.mem_map.1 hn
    rcases h.last m hm with hl' | ⟨hm',_⟩
    · exact .inl (by simp [hl,hl'])
    · exact absurd hm' (List.not_mem_nil _)
  · obtain ⟨m,hm,rfl⟩ := List.mem_map.1 hn
    rcases h.origin m hm with ho | ho
    · exact .inl (by simpa using ho)
    · simp at ho

def insert (d : PyDict β) (k : Value) (hk : k.hashable) (v : β) : PyDict β where
  entries := insertEntry k v d.entries
  hashable := fun kv h => by
    rcases fst_mem_insertEntry h with h1 | h1
    · rw [h1]; exact hk
    · obtain ⟨c,hc,hc1⟩ := List.mem_map.1 h1
      rw [← hc1]; exact d.hashable c hc
  distinct := insertEntry_distinct k v d.distinct

/-- `d[k] = v`: an unhashable key raises `TypeError`. -/
def set (d : PyDict β) (k : Value) (v : β) : Except PyError (PyDict β) :=
  if hk : k.hashable then .ok (d.insert k hk v) else .error .typeError

theorem set_eq_ok {d d' : PyDict β} {k : Value} {v : β} (h : d.set k v = .ok d') :
    ∃ hk, d' = d.insert k hk v := by
  unfold set at h
  split at h
  · cases h; exact ⟨_,rfl⟩
  · cases h

theorem ext_entries {d e : PyDict β} (h : d.entries = e.entries) : d = e := by
  cases d; cases e; cases h; rfl

theorem insertEntry_insertEntry {k : Value} (hk : k.hashable) (v w : β) (es : List (Value × β)) :
    insertEntry k w (insertEntry k v es) = insertEntry k w es := by
  induction es with
  | nil => simp [insertEntry,sameKey_refl hk]
  | cons e rest ih =>
    by_cases he : e.1.sameKey k
    · simp [insertEntry,he]
    · simp [insertEntry,he,ih]

theorem insert_insert (d : PyDict β) (k : Value) (hk : k.hashable) (v w : β) :
    (d.insert k hk v).insert k hk w = d.insert k hk w :=
  ext_entries (insertEntry_insertEntry hk v w d.entries)

theorem mem_insert {d : PyDict β} {k : Value} {hk : k.hashable} {v : β} {kv : Value × β}
    (h : kv ∈ (d.insert k hk v).entries) : kv.2 = v ∨ kv ∈ d.entries :=
  snd_mem_insertEntry h

theorem keys_pairwise_ne (d : PyDict β) : d.keys.Pairwise (· ≠ ·) := by
  refine List.pairwise_map.2 (d.distinct.imp_of_mem fun _ hb hab heq => ?_)
  rw [heq,sameKey_refl (d.hashable _ hb)] at hab
  exact Bool.noConfusion hab

theorem keys_insert_subset (d : PyDict β) (k : Value) (hk : k.hashable) (v : β) :
    ∀ x ∈ d.keys, x ∈ (d.insert k hk v).keys := by
  intro x hx
  by_cases h : d.entries.any fun kv => kv.1.sameKey k
  · simpa [keys,insert,keys_insertEntry_of_any v h] using hx
  · rw [keys,insert,keys_insertEntry_of_not_any v (Bool.eq_false_iff.2 h)]
    exact List.mem_append_left _ hx

theorem str_mem_keys_insert (d : PyDict β) (a : String) (hk : (Value.str a).hashable) (v : β) :
    .str a ∈ (d.insert (.str a) hk v).keys := by
  by_cases h : d.entries.any fun kv => kv.1.sameKey (.str a)
  · obtain ⟨kv,hkv,he⟩ := List.any_eq_true.1 h
    rw [keys,insert,keys_insertEntry_of_any v h,← eq_of_sameKey_str he]
    exact List.mem_map_of_mem _ hkv
  · simp [keys,insert,keys_insertEntry_of_not_any v (Bool.eq_false_iff.2 h)]

/-- `for k, v in pairs: d[k] = v`, on the members. -/
def insertAll (pairs es : List (Value × β)) : List (Value × β) :=
  pairs.foldl (fun es p => insertEntry p.1 p.2 es) es

theorem insertEntry_of_present {k : Value} (v : β) {es : List (Value × β)}
    (hd : es.Pairwise fun a b => a.1.sameKey b.1 = false) (hp : ∃ m ∈ es, m.1.sameKey k) :
    insertEntry k v es = es.map fun m => if m.1.sameKey k then (m.1,v) else m := by
  induction es with
  | nil =>
    obtain ⟨m,hm,_⟩ := hp
    cases hm
  | cons e rest ih =>
    obtain ⟨he,hd⟩ := List.pairwise_cons.1 hd
    by_cases hek : e.1.sameKey k
    · have hrest : ∀ m ∈ rest, m.1.sameKey k = false := fun m hm => Bool.eq_false_iff.2 fun hmk => by
        have hem := sameKey_trans hek ((sameKey_comm k m.1).trans hmk)
        rw [he m hm] at hem
        cases hem
      have hmap : (rest.map fun m => if m.1.sameKey k then (m.1,v) else m) = rest :=
        (List.map_congr_left fun m hm => by rw [hrest m hm]; rfl).trans (List.map_id' rest)
      simp only [insertEntry,hek,if_true,List.map_cons,hmap]
    · obtain ⟨m,hm,hmk⟩ := hp
      have hm' : m ∈ rest := by
        rcases List.mem_cons.1 hm with rfl | hm
        · exact absurd hmk hek
        · exact hm
      simp only [insertEntry,hek,Bool.false_eq_true,if_false,List.map_cons,ih hd ⟨m,hm',hmk⟩]

theorem insertAll_of_present {pairs es : List (Value × β)}
    (hd : es.Pairwise fun a b => a.1.sameKey b.1 = false) (hp : ∀ p ∈ pairs, ∃ m ∈ es, m.1.sameKey p.1) :
    insertAll pairs es = es.map fun m => (m.1,(lastValue pairs m.1).getD m.2) := by
  induction pairs generalizing es with
  | nil => exact (List.map_id' es).symm
  | cons p ps ih =>
    have hes := insertEntry_of_present p.2 hd (hp p (List.mem_cons_self _ _))
    have hp' : ∀ q ∈ ps, ∃ m ∈ insertEntry p.1 p.2 es, m.1.sameKey q.1 := by
      intro q hq
      obtain ⟨m,hm,hmq⟩ := hp q (List.mem_cons_of_mem _ hq)
      rw [hes]
      exact ⟨_,List.mem_map_of_mem _ hm,by split <;> exact hmq⟩
    show insertAll ps (insertEntry p.1 p.2 es) = _
    rw [ih (insertEntry_distinct _ _ hd) hp',hes,List.map_map]
    refine List.map_congr_left fun m _ => ?_
    simp only [Function.comp_def,lastValue_cons]
    cases hl : lastValue ps m.1 <;> by_cases h : m.1.sameKey p.1 <;> simp [hl,h,sameKey_comm p.1 m.1]

theorem assigned_insertAll {pairs es : List (Value × β)} (hd : es.Pairwise fun a b => a.1.sameKey b.1 = false)
    (hk : ∀ p ∈ pairs, p.1.hashable) : Assigned es pairs (insertAll pairs es) := by
  induction pairs generalizing es with
  | nil => exact Assigned.nil hd
  | cons p ps ih =>
    obtain ⟨k,v⟩ := p
    exact Assigned.cons (hk _ (List.mem_cons_self _ _)) hd
      (ih (insertEntry_distinct _ _ hd) fun q hq => hk q (List.mem_cons_of_mem _ hq))

theorem insertAll_insertAll {pairs es : List (Value × β)} (hd : es.Pairwise fun a b => a.1.sameKey b.1 = false)
    (hk : ∀ p ∈ pairs, p.1.hashable) : insertAll pairs (insertAll pairs es) = insertAll pairs es := by
  have ha := assigned_insertAll hd hk
  rw [insertAll_of_present ha.distinct ha.assigned]
  refine (List.map_congr_left fun m hm => ?_).trans (List.map_id' _)
  rcases ha.last m hm with hl | ⟨_,hl⟩ <;> simp [hl]

def pairOf : Value → Except PyError (Value × Value)
  | .list [a,b] => .ok (a,b)
  | .dict [(a,_),(b,_)] => .ok (a,b)
  | .str s => match s.data with
    | [a,b] => .ok (.str ⟨[a]⟩,.str ⟨[b]⟩)
    | _ => .error .valueError
  | .list _ | .dict _ => .error .valueError
  | _ => .error .typeError

/-- `dict(x)`: a copy of a dict, or the pairs of an iterable. -/
def ofValue : Value → Except PyError (PyDict Value)
  | .dict kvs => kvs.foldlM (fun d kv => d.set kv.1 kv.2) empty
  | v => do
    let items ← v.iter
    items.foldlM (fun d item => do let (k,x) ← pairOf item; d.set k x) empty

end PyDict

end Ambassador
