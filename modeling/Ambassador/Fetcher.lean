import Ambassador.Dict

set_option autoImplicit false

namespace Ambassador

/-- What `ACResource.from_dict(rkey, location, serialization, attrs)` builds. -/
structure ACResource where
  rkey : Value
  location : Value
  attrs : Value
  deriving Repr

/-- One address kept by `handle_k8s_endpoints`. -/
structure EndpointAddress where
  ip : Option Value
  node : Option Value
  targetKind : Option Value
  targetName : Option Value
  targetNamespace : Option Value
  deriving Repr

/-- An entry of `self.k8s_endpoints`. -/
structure K8sEndpoint where
  name : Value
  nspace : Value
  addresses : List EndpointAddress
  ports : PyDict Value

/-- An entry of `self.k8s_services`. -/
structure K8sService where
  name : Value
  nspace : Value
  ports : Value

/-- The fetcher's collaborators: `Config`, the YAML and JSON libraries, `str.isdigit`, the
marker files, and `ACResource.from_dict`, which builds the resource or raises. -/
structure Env where
  ambassadorId : String
  singleNamespace : Bool
  ambassadorNamespace : String
  enableEndpoints : Bool
  goodAmbassadorId : Value → Bool
  fromDictError : Value → Value → Option String
  loadYaml : String → Except String (List Value)
  loadJson : String → Except String Value
  dumpJson : Value → String
  isDigit : String → Bool
  crdsMissing : Bool
  resolverCrdsMissing : Bool

/-- `json.dumps(v, indent=4, sort_keys=True)`. -/
def Env.jsonDumps (env : Env) (v : Value) : Except PyError String :=
  if v.dumpable then .ok (env.dumpJson v) else .error .typeError

/-- `ResourceFetcher`'s attributes; `saved` is the location stack, top first. -/
structure Fetcher where
  elements : List ACResource
  filename : Value
  ocount : Int
  saved : List (Value × Int)
  k8sEndpoints : PyDict K8sEndpoint
  k8sServices : PyDict K8sService
  services : PyDict Value
  errors : List String

namespace Fetcher

def init : Fetcher := ⟨[],.none,1,[],.empty,.empty,.empty,[]⟩

/-- The `location` property. -/
def location (s : Fetcher) : String :=
  (s.filename.or (.str "anonymous YAML")).pyStr ++ "." ++ toString s.ocount

end Fetcher

/-- Fetcher methods: an exception leaves every write made before it in place. -/
abbrev Py := EStateM PyError Fetcher

def liftExcept {α : Type} (x : Except PyError α) : Py α :=
  match x with
  | .ok a => pure a
  | .error e => throw e

def location : Py String := do return (← get).location

def pushLocation (filename : Value) (ocount : Int) : Py Unit :=
  modify fun s => { s with saved := (s.filename,s.ocount) :: s.saved,filename,ocount }

def popLocation : Py Unit := do
  let s ← get
  match s.saved with
  | [] => throw .indexError
  | (filename,ocount) :: saved => set { s with filename,ocount,saved }

def postError (msg : String) : Py Unit :=
  modify fun s => { s with errors := s.errors ++ [msg] }

def appendElement (r : ACResource) : Py Unit :=
  modify fun s => { s with elements := s.elements ++ [r] }

def setService (key svc : Value) : Py Unit := do
  let s ← get
  let services ← liftExcept (s.services.set key svc)
  set { s with services }

section
variable {α β : Type}

@[simp] theorem run_pure (a : α) (s : Fetcher) : (pure a : Py α) s = .ok a s := rfl

@[simp] theorem run_bind (x : Py α) (f : α → Py β) (s : Fetcher) :
    (x >>= f) s = match x s with | .ok a s => f a s | .error e s => .error e s := by
  simp only [bind,EStateM.bind]; generalize x s = r; cases r <;> rfl

@[simp] theorem run_map (x : Py α) (f : α → β) (s : Fetcher) :
    (f <$> x) s = match x s with | .ok a s => .ok (f a) s | .error e s => .error e s := by
  simp only [Functor.map,EStateM.map]; generalize x s = r; cases r <;> rfl

@[simp] theorem run_get (s : Fetcher) : (get : Py Fetcher) s = .ok s s := rfl

@[simp] theorem run_set (s t : Fetcher) : (set t : Py PUnit) s = .ok () t := rfl

@[simp] theorem run_modify (f : Fetcher → Fetcher) (s : Fetcher) :
    (modify f : Py PUnit) s = .ok () (f s) := rfl

@[simp] theorem run_throw (e : PyError) (s : Fetcher) : (throw e : Py α) s = .error e s := rfl

@[simp] theorem run_liftExcept (x : Except PyError α) (s : Fetcher) :
    liftExcept x s = match x with | .ok a => .ok a s | .error e => .error e s := by
  cases x <;> rfl

@[simp] theorem run_location (s : Fetcher) : location s = .ok s.location s := rfl

@[simp] theorem run_postError (msg : String) (s : Fetcher) :
    postError msg s = .ok () { s with errors := s.errors ++ [msg] } := rfl

@[simp] theorem run_appendElement (r : ACResource) (s : Fetcher) :
    appendElement r s = .ok () { s with elements := s.elements ++ [r] } := rfl

theorem run_setService (key svc : Value) (s : Fetcher) :
    setService key svc s = match s.services.set key svc with
      | .ok services => .ok () { s with services }
      | .error e => .error e s := by
  simp only [setService,run_bind,run_get,run_liftExcept]
  cases s.services.set key svc <;> rfl

end

/-- The fetcher after a run, whether it returned or raised. -/
def final {α : Type} : EStateM.Result PyError Fetcher α → Fetcher
  | .ok _ s => s
  | .error _ s => s

@[simp] theorem final_ok {α : Type} (a : α) (s : Fetcher) :
    final (EStateM.Result.ok a s : EStateM.Result PyError Fetcher α) = s := rfl
@[simp] theorem final_error {α : Type} (e : PyError) (s : Fetcher) :
    final (EStateM.Result.error e s : EStateM.Result PyError Fetcher α) = s := rfl

/-- Every run of `x` from a state in `P` ends, by return or by exception, in `P`. -/
def Keeps {α : Type} (P : Fetcher → Prop) (x : Py α) : Prop := ∀ s, P s → P (final (x s))

namespace Keeps
variable {P : Fetcher → Prop} {α β : Type}

theorem pure' (a : α) : Keeps P (pure a) := fun _ h => h

theorem throw' (e : PyError) : Keeps P (throw e : Py α) := fun _ h => h

theorem get' : Keeps P (get : Py Fetcher) := fun _ h => h

theorem modify' {f : Fetcher → Fetcher} (hf : ∀ s, P s → P (f s)) : Keeps P (modify f) :=
  fun s h => hf s h

theorem bind' {x : Py α} {f : α → Py β} (hx : Keeps P x) (hf : ∀ a, Keeps P (f a)) :
    Keeps P (x >>= f) := by
  intro s h
  have hxs := hx s h
  simp only [bind,EStateM.bind]
  cases hs : x s with
  | ok a t => rw [hs] at hxs; exact hf a t hxs
  | error e t => rw [hs] at hxs; exact hxs

theorem liftExcept' (x : Except PyError α) : Keeps P (liftExcept x) := by
  cases x <;> exact fun _ h => h

theorem ite' {c : Prop} [Decidable c] {x y : Py α} (hx : Keeps P x) (hy : Keeps P y) :
    Keeps P (if c then x else y) := by
  split <;> assumption

theorem forM' {xs : List α} {f : α → Py PUnit} (hf : ∀ a ∈ xs, Keeps P (f a)) :
    Keeps P (xs.forM f) := by
  induction xs with
  | nil => exact pure' _
  | cons a as ih =>
    exact bind' (hf a (List.mem_cons_self _ _)) fun _ => ih fun b hb => hf b (List.mem_cons_of_mem _ hb)

theorem getBind' {f : Fetcher → Py β} (hf : ∀ s, P s → Keeps P (f s)) : Keeps P (get >>= f) :=
  fun s h => hf s h s h

theorem liftExceptBind' {x : Except PyError α} {f : α → Py β}
    (hf : ∀ a, x = .ok a → Keeps P (f a)) : Keeps P (liftExcept x >>= f) := by
  cases x with
  | error e => exact fun _ h => h
  | ok a => exact fun s h => hf a rfl s h

theorem tryCatch' {x : Py α} {h : PyError → Py α} (hx : Keeps P x) (hh : ∀ e, Keeps P (h e)) :
    Keeps P (tryCatch x h) := by
  intro s hs
  have hxs := hx s hs
  simp only [tryCatch,tryCatchThe,MonadExceptOf.tryCatch,EStateM.tryCatch,
    EStateM.dummyRestore]
  cases hr : x s with
  | ok a t => rw [hr] at hxs; exact hxs
  | error e t => rw [hr] at hxs; exact hh e t hxs

end Keeps

theorem Keeps.location {P : Fetcher → Prop} : Keeps P location := fun _ h => h

theorem Keeps.pushLocation {P : Fetcher → Prop} (filename : Value) (ocount : Int)
    (hP : ∀ s, P s → P { s with saved := (s.filename,s.ocount) :: s.saved,filename,ocount }) :
    Keeps P (pushLocation filename ocount) := Keeps.modify' hP

theorem Keeps.postError {P : Fetcher → Prop} (msg : String)
    (hP : ∀ s, P s → P { s with errors := s.errors ++ [msg] }) :
    Keeps P (postError msg) := Keeps.modify' hP

end Ambassador
