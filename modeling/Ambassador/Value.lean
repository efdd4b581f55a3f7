/-!
Python values as the resource fetcher sees them: what `json.loads` and the YAML
loader give, and the dictionaries the fetcher builds itself.

Modelling restriction: scalars are `None`, booleans, integers and strings. YAML floats
and timestamps are left out, so every result holds for inputs without them; in the code
they can reach a port map (through `str()`) and `json.dumps`, which raises on a date.
-/

set_option autoImplicit false

namespace Ambassador

/-- The exceptions the fetcher's code can raise. -/
inductive PyError where
  | keyError (key : String)
  | typeError
  | attributeError
  | valueError
  | indexError
  | yamlError (msg : String)
  | jsonDecodeError (msg : String)
  | exception (msg : String)
  | unicodeDecodeError (msg : String)
  deriving DecidableEq, Repr

/-- Python values; dictionary members keep their order. -/
inductive Value where
  | none
  | bool (b : Bool)
  | int (i : Int)
  | str (s : String)
  | list (xs : List Value)
  | dict (kvs : List (Value × Value))
  deriving Repr, Inhabited

namespace Value

/-- Python truthiness. -/
def truthy : Value → Bool
  | .none => false
  | .bool b => b
  | .int i => i != 0
  | .str s => s != ""
  | .list xs => !xs.isEmpty
  | .dict kvs => !kvs.isEmpty

/-- A list or a dict used as a key raises `TypeError: unhashable type`. -/
def hashable : Value → Bool
  | .none | .bool _ | .int _ | .str _ => true
  | .list _ | .dict _ => false

/-- What Python's `==` and `hash` see of a dictionary key: `True` is the integer 1. -/
inductive Key where
  | none
  | int (i : Int)
  | str (s : String)
  deriving DecidableEq, Repr

def boolInt (b : Bool) : Int := if b then 1 else 0

def key? : Value → Option Key
  | .none => some .none
  | .bool b => some (.int (boolInt b))
  | .int i => some (.int i)
  | .str s => some (.str s)
  | .list _ | .dict _ => Option.none

/-- Python `==` between two dictionary keys. -/
def sameKey (a b : Value) : Bool := a.key?.isSome && a.key? == b.key?

theorem hashable_iff (a : Value) : a.hashable = a.key?.isSome := by
  cases a <;> rfl

theorem sameKey_comm (a b : Value) : a.sameKey b = b.sameKey a := by
  unfold sameKey
  cases ha : a.key? <;> cases hb : b.key? <;> simp [Bool.beq_comm]

theorem sameKey_refl {a : Value} (h : a.hashable) : a.sameKey a := by
  simp_all [sameKey,hashable_iff]

theorem sameKey_trans {a b c : Value} (hab : a.sameKey b) (hbc : b.sameKey c) :
    a.sameKey c := by
  simp only [sameKey,Bool.and_eq_true,beq_iff_eq] at *
  exact ⟨hab.1,hab.2.trans hbc.2⟩

@[simp] theorem sameKey_str (a b : String) : (Value.str a).sameKey (.str b) = true ↔ a = b := by
  simp [sameKey,key?]

theorem eq_of_sameKey_str {x : Value} {a : String} (h : x.sameKey (.str a) = true) :
    x = .str a := by
  cases x <;> simp_all [sameKey,key?]

def hexByte (n : Nat) : String :=
  let ds := Nat.toDigits 16 n
  ⟨if ds.length < 2 then '0' :: ds else ds⟩

def reprChar (quote c : Char) : String :=
  if c = quote ∨ c = '\\' then ⟨['\\',c]⟩
  else if c = '\n' then "\\n"
  else if c = '\r' then "\\r"
  else if c = '\t' then "\\t"
  else if c.toNat < 32 ∨ c.toNat = 127 then "\\x" ++ hexByte c.toNat
  else ⟨[c]⟩

/-- `repr(s)`: double quotes only when `s` holds a single quote and no double quote. -/
def reprStr (s : String) : String :=
  let q := if s.data.contains '\'' && !s.data.contains '"' then '"' else '\''
  ⟨q :: (s.data.map fun c => (reprChar q c).data).flatten ++ [q]⟩

mutual
/-- Python `repr`. -/
def repr : Value → String
  | .none => "None"
  | .bool b => if b then "True" else "False"
  | .int i => toString i
  | .str s => reprStr s
  | .list xs => "[" ++ reprItems xs ++ "]"
  | .dict kvs => "\x7b" ++ reprMembers kvs ++ "\x7d"
def reprItems : List Value → String
  | [] => ""
  | [x] => repr x
  | x :: xs => repr x ++ ", " ++ reprItems xs
def reprMembers : List (Value × Value) → String
  | [] => ""
  | [(k,v)] => repr k ++ ": " ++ repr v
  | (k,v) :: kvs => repr k ++ ": " ++ repr v ++ ", " ++ reprMembers kvs
end

/-- Python `str`, which is also what `%s` and an f-string print. -/
def pyStr : Value → String
  | .str s => s
  | v => v.repr

def lowerStr (s : String) : String := ⟨s.data.map Char.toLower⟩
def upperStr (s : String) : String := ⟨s.data.map Char.toUpper⟩

/-- Two keys `sorted` can compare: numbers with numbers (a `bool` is an `int`), strings
with strings. -/
def sortsWith : Value → Value → Bool
  | .bool _, .bool _ | .bool _, .int _ | .int _, .bool _ | .int _, .int _ | .str _, .str _ => true
  | _, _ => false

def keysSort : List (Value × Value) → Bool
  | [] => true
  | (k,_) :: kvs => k.hashable && kvs.all (fun kv => sortsWith k kv.1) && keysSort kvs

mutual
/-- `json.dumps(v, sort_keys=True)` returns rather than raising `TypeError`. -/
def dumpable : Value → Bool
  | .list xs => dumpableItems xs
  | .dict kvs => keysSort kvs && dumpableMembers kvs
  | _ => true
def dumpableItems : List Value → Bool
  | [] => true
  | x :: xs => dumpable x && dumpableItems xs
def dumpableMembers : List (Value × Value) → Bool
  | [] => true
  | (_,v) :: kvs => dumpable v && dumpableMembers kvs
end

theorem dumpable_of_not_truthy {v : Value} (h : v.truthy = false) : v.dumpable := by
  cases v <;> simp_all [truthy,dumpable,dumpableItems,dumpableMembers,keysSort]

def lookup (kvs : List (Value × Value)) (key : Value) : Option Value :=
  (kvs.find? fun kv => kv.1.sameKey key).map Prod.snd

/-- `v.get(key)`: returns `None` for a missing key; only a dict has `.get`. -/
def get (v : Value) (key : String) : Except PyError (Option Value) :=
  match v with
  | .dict kvs => .ok (lookup kvs (.str key))
  | _ => .error .attributeError

/-- `v.get(key, default)`. -/
def getD (v : Value) (key : String) (default : Value) : Except PyError Value :=
  (v.get key).map fun r => r.getD default

/-- `v[key]` with a string key. -/
def getItem (v : Value) (key : String) : Except PyError Value :=
  match v with
  | .dict kvs => match lookup kvs (.str key) with
    | some x => .ok x
    | Option.none => .error (.keyError key)
  | _ => .error .typeError

def hasKey (kvs : List (Value × Value)) (key : String) : Bool :=
  (lookup kvs (.str key)).isSome

/-- What `for x in v` visits: a dict's keys, a string's characters. -/
def iter : Value → Except PyError (List Value)
  | .list xs => .ok xs
  | .dict kvs => .ok (kvs.map Prod.fst)
  | .str s => .ok (s.data.map fun c => .str ⟨[c]⟩)
  | _ => .error .typeError

def len : Value → Except PyError Nat
  | .list xs => .ok xs.length
  | .dict kvs => .ok kvs.length
  | .str s => .ok s.length
  | _ => .error .typeError

def or (v w : Value) : Value := if v.truthy then v else w

@[simp] theorem truthy_str (s : String) : (Value.str s).truthy = (s != "") := rfl
@[simp] theorem truthy_none : Value.none.truthy = false := rfl
@[simp] theorem pyStr_str (s : String) : (Value.str s).pyStr = s := rfl
@[simp] theorem get_dict (kvs : List (Value × Value)) (key : String) :
    (Value.dict kvs).get key = .ok (lookup kvs (.str key)) := rfl

end Value

end Ambassador
