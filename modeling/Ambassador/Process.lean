import Ambassador.Fetcher
import Ambassador.Decimal

set_option autoImplicit false

namespace Ambassador
open Value

/-- `v == s` for a string literal `s`: no other type equals a string. -/
def Value.isStr (v : Value) (s : String) : Bool :=
  match v with
  | .str t => t == s
  | _ => false

/-- `"%s.%d" % (rkey, ocount)`. -/
def formatRkey (rkey : Value) (ocount : Int) : String := rkey.pyStr ++ "." ++ toString ocount

def resourceAt (label : Value) (n : Int) (obj : Value) : ACResource :=
  ⟨.str (formatRkey label n),.str (formatRkey label n),obj⟩

variable (env : Env)

/-- The `try` around `ACResource.from_dict(rkey, rkey, serialization, obj)`. -/
def fromDictCall (label : Value) (n : Int) (obj : Value) : Py Unit :=
  match env.fromDictError (.str (formatRkey label n)) obj with
  | Option.none => appendElement (resourceAt label n obj)
  | some msg => postError msg

/-- `process_object`. -/
def processObject (obj rkey : Value) : Py Unit :=
  match obj with
  | .dict kvs =>
    if !env.goodAmbassadorId obj then pure ()
    else match lookup kvs (.str "kind") with
    | Option.none => do
      postError ((← location) ++ " is missing 'kind'?? " ++ (← liftExcept (env.jsonDumps obj)))
    | some kind =>
      if kind.isStr "Pragma" then do
        let newSource := (lookup kvs (.str "source")).getD .none
        if newSource.truthy then modify fun s => { s with filename := newSource }
        modify fun s => { s with ocount := s.ocount - 1 }
      else do
        let s ← get
        if kind.isStr "Service" then do
          let name ← liftExcept (obj.getItem "name")
          setService name obj
        else fromDictCall env (rkey.or s.filename) s.ocount obj
  | _ => do
    if !obj.truthy then postError ((← location) ++ " is empty")
    else postError ((← location) ++ " is not a dictionary? " ++ (← liftExcept (env.jsonDumps obj)))

def isDirective (obj : Value) : Bool :=
  match obj with
  | .dict kvs => env.goodAmbassadorId obj && ((lookup kvs (.str "kind")).map (·.isStr "Pragma")).getD false
  | _ => false

def directiveSource (obj : Value) : Option Value :=
  match obj with
  | .dict kvs =>
    if isDirective env obj then (lookup kvs (.str "source")).filter Value.truthy else Option.none
  | _ => Option.none

/-- An accepted dict that `process_object` hands to `ACResource.from_dict`. -/
def handsToFromDict (obj : Value) : Bool :=
  match obj with
  | .dict kvs => env.goodAmbassadorId obj &&
    match lookup kvs (.str "kind") with
    | some kind => !kind.isStr "Pragma" && !kind.isStr "Service"
    | Option.none => false
  | _ => false

def madeResource (label : Value) (n : Int) (obj : Value) : List ACResource :=
  if handsToFromDict env obj && (env.fromDictError (.str (formatRkey label n)) obj).isNone then
    [resourceAt label n obj]
  else []

/-- Everything one `process_object` call does, whether it returns or raises. -/
structure ProcessStep (obj rkey : Value) (t t' : Fetcher) : Prop where
  elements : t'.elements = t.elements ++ madeResource env (rkey.or t.filename) t.ocount obj
  filename : t'.filename = (directiveSource env obj).getD t.filename
  ocount : t'.ocount = t.ocount - if isDirective env obj then 1 else 0
  saved : t'.saved = t.saved
  k8sEndpoints : t'.k8sEndpoints = t.k8sEndpoints
  k8sServices : t'.k8sServices = t.k8sServices
  services : t'.services = t.services ∨
    env.goodAmbassadorId obj ∧ ∃ name hk, t'.services = t.services.insert name hk obj

theorem processObject_fromDict {obj : Value} (h : handsToFromDict env obj) (rkey : Value)
    (t : Fetcher) : processObject env obj rkey t = fromDictCall env (rkey.or t.filename) t.ocount obj t := by
  cases obj
  case dict kvs =>
    simp only [handsToFromDict,Bool.and_eq_true] at h
    split at h
    · rename_i kind hk
      simp only [Bool.and_eq_true,Bool.not_eq_true'] at h
      simp [processObject,h,hk]
    · simp at h
  all_goals simp [handsToFromDict] at h

theorem processObject_step (obj rkey : Value) (t : Fetcher) :
    ProcessStep env obj rkey t (final (processObject env obj rkey t)) := by
  cases obj
  case dict kvs =>
    by_cases hg : env.goodAmbassadorId (.dict kvs)
    · cases hk : lookup kvs (.str "kind") with
      | none =>
        simp only [processObject,hg,hk,Bool.not_true,Bool.false_eq_true,↓reduceIte,run_bind,run_location,
          run_liftExcept,run_postError]
        cases env.jsonDumps (.dict kvs) <;>
          constructor <;> simp [madeResource,handsToFromDict,directiveSource,isDirective,hg,hk]
      | some kind =>
        by_cases hp : kind.isStr "Pragma"
        · have hd : isDirective env (.dict kvs) = true := by simp [isDirective,hg,hk,hp]
          simp only [processObject,hg,hk,hp,Bool.not_true,Bool.false_eq_true,↓reduceIte]
          cases hs : lookup kvs (.str "source") with
          | none => constructor <;> simp [madeResource,handsToFromDict,directiveSource,hd,hk,hp,hs]
          | some src =>
            by_cases ht : src.truthy <;>
              constructor <;> simp [madeResource,handsToFromDict,directiveSource,hd,hk,hp,hs,ht,
                Option.filter]
        · have hd : isDirective env (.dict kvs) = false := by simp [isDirective,hg,hk,hp]
          by_cases hsv : kind.isStr "Service"
          · have hm : handsToFromDict env (.dict kvs) = false := by simp [handsToFromDict,hk,hsv]
            simp only [processObject,hg,hk,hp,hsv,Bool.not_true,Bool.false_eq_true,↓reduceIte,run_bind,
              run_get,run_liftExcept,getItem]
            cases hn : lookup kvs (.str "name") with
            | none => constructor <;> simp [madeResource,directiveSource,hd,hm]
            | some name =>
              simp only [run_setService]
              cases hset : t.services.set name (.dict kvs) with
              | error e => constructor <;> simp [madeResource,directiveSource,hd,hm]
              | ok d =>
                obtain ⟨hh,rfl⟩ := PyDict.set_eq_ok hset
                constructor <;> simp [madeResource,directiveSource,hd,hm]
                exact .inr ⟨hg,name,hh,rfl⟩
          · have hm : handsToFromDict env (.dict kvs) = true := by simp [handsToFromDict,hg,hk,hp,hsv]
            simp only [processObject,hg,hk,hp,hsv,Bool.not_true,Bool.false_eq_true,↓reduceIte,run_bind,
              run_get,fromDictCall]
            cases hf : env.fromDictError (.str (formatRkey (rkey.or t.filename) t.ocount)) (.dict kvs) <;>
              constructor <;> simp [madeResource,directiveSource,hd,hm,hf]
    · constructor <;> simp [processObject,hg,madeResource,handsToFromDict,directiveSource,
          isDirective]
  all_goals
    simp only [processObject]
    split
    · exact ⟨(List.append_nil _).symm,rfl,(Int.sub_zero _).symm,rfl,rfl,rfl,.inl rfl⟩
    · simp only [run_bind,run_location,run_liftExcept]
      cases env.jsonDumps _ <;> exact ⟨(List.append_nil _).symm,rfl,(Int.sub_zero _).symm,rfl,rfl,rfl,.inl rfl⟩

def bumpOcount : Py Unit := modify fun s => { s with ocount := s.ocount + 1 }

/-- `parse_object`, with `self.handle_k8s` passed in. -/
def parseObjectWith (handleK8s : Value → Py Unit) (objects : Value) (k8s : Bool)
    (rkey filename : Value) : Py Unit := do
  pushLocation filename 1
  let objects ← liftExcept objects.iter
  objects.forM fun obj =>
    if k8s then handleK8s obj
    else do
      processObject env obj rkey
      bumpOcount
  popLocation

def ignoreK8s (_ : Value) : Py Unit := pure ()

/-- The loop of `parse_object` when `k8s=False`. -/
def processObjects (objects : List Value) (rkey : Value) : Py Unit :=
  objects.forM fun obj => do
    processObject env obj rkey
    bumpOcount

theorem parseObjectWith_false (handleK8s : Value → Py Unit) (objects rkey filename : Value) :
    parseObjectWith env handleK8s objects false rkey filename = (do
      pushLocation filename 1
      let objects ← liftExcept objects.iter
      processObjects env objects rkey
      popLocation) := rfl

end Ambassador
