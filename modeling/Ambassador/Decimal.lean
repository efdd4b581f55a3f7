/-!
Integers as `%d` and `str()` print them: the digits determine the number and hold no
`.`, so the ordinal after the last `.` of a resource key determines the ordinal.
-/

set_option autoImplicit false

namespace Ambassador

/-- The number a list of decimal digits spells. -/
def decimalValue (cs : List Char) : Nat := cs.foldl (fun n c => 10 * n + (c.toNat - 48)) 0

theorem decimalValue_append_digit (cs : List Char) (c : Char) :
    decimalValue (cs ++ [c]) = 10 * decimalValue cs + (c.toNat - 48) := by
  simp [decimalValue,List.foldl_append]

theorem digitChar_value : ∀ d < 10, (Nat.digitChar d).toNat - 48 = d := by decide

theorem digitChar_ne : ∀ d < 10, Nat.digitChar d ≠ '.' ∧ Nat.digitChar d ≠ '-' := by decide

theorem toDigitsCore_succ (fuel n : Nat) (acc : List Char) :
    Nat.toDigitsCore 10 (fuel+1) n acc =
      if n / 10 = 0 then Nat.digitChar (n % 10) :: acc
      else Nat.toDigitsCore 10 fuel (n / 10) (Nat.digitChar (n % 10) :: acc) := rfl

theorem toDigitsCore_acc (fuel n : Nat) (acc : List Char) :
    Nat.toDigitsCore 10 fuel n acc = Nat.toDigitsCore 10 fuel n [] ++ acc := by
  induction fuel generalizing n acc with
  | zero => rfl
  | succ fuel ih =>
    rw [toDigitsCore_succ,toDigitsCore_succ]
    split
    · simp
    · rw [ih _ (_ :: acc),ih _ [_]]
      simp

theorem decimalValue_toDigitsCore (fuel n : Nat) (h : n < fuel) :
    decimalValue (Nat.toDigitsCore 10 fuel n []) = n := by
  induction fuel generalizing n with
  | zero => omega
  | succ fuel ih =>
    have hd := digitChar_value (n % 10) (Nat.mod_lt _ (by omega))
    rw [toDigitsCore_succ]
    split
    · simp only [decimalValue,List.foldl_cons,List.foldl_nil] at *
      omega
    · rw [toDigitsCore_acc,decimalValue_append_digit,ih _ (by omega),hd]
      omega

theorem toDigits_inj {a b : Nat} (h : Nat.toDigits 10 a = Nat.toDigits 10 b) : a = b := by
  have ha := decimalValue_toDigitsCore (a+1) a (by omega)
  have hb := decimalValue_toDigitsCore (b+1) b (by omega)
  exact ha.symm.trans ((congrArg decimalValue h).trans hb)

theorem toDigitsCore_ne (fuel n : Nat) (acc : List Char) (c : Char)
    (hc : c = '.' ∨ c = '-') (hacc : c ∉ acc) : c ∉ Nat.toDigitsCore 10 fuel n acc := by
  induction fuel generalizing n acc with
  | zero => exact hacc
  | succ fuel ih =>
    have hd := digitChar_ne (n % 10) (Nat.mod_lt _ (by omega))
    have hnot : c ∉ Nat.digitChar (n % 10) :: acc := by
      simp only [List.mem_cons,not_or]
      rcases hc with rfl | rfl
      · exact ⟨fun h => hd.1 h.symm,hacc⟩
      · exact ⟨fun h => hd.2 h.symm,hacc⟩
    rw [toDigitsCore_succ]
    split
    · exact hnot
    · exact ih _ _ hnot

theorem intString_data (i : Int) :
    (toString i).data = match i with
      | .ofNat m => Nat.toDigits 10 m
      | .negSucc m => '-' :: Nat.toDigits 10 (m+1) := by
  cases i <;> rfl

theorem dot_not_mem_intString (i : Int) : '.' ∉ (toString i).data := by
  rw [intString_data]
  cases i with
  | ofNat m => exact toDigitsCore_ne _ _ _ _ (.inl rfl) (by simp)
  | negSucc m =>
    simp only [List.mem_cons,not_or]
    exact ⟨by decide,toDigitsCore_ne _ _ _ _ (.inl rfl) (by simp)⟩

theorem intString_inj {a b : Int} (h : toString a = toString b) : a = b := by
  have hd := congrArg String.data h
  rw [intString_data,intString_data] at hd
  have minus (m : Nat) : '-' ∉ Nat.toDigits 10 m := toDigitsCore_ne _ _ _ _ (.inr rfl) (by simp)
  cases a <;> cases b <;> simp only [List.cons.injEq,true_and] at hd
  · rw [toDigits_inj hd]
  · exact absurd (hd ▸ List.mem_cons_self _ _) (minus _)
  · exact absurd (hd.symm ▸ List.mem_cons_self _ _) (minus _)
  · rw [Nat.add_right_cancel (toDigits_inj hd)]

/-- The characters after the last `.`. -/
def lastSegment (cs : List Char) : List Char := (cs.reverse.takeWhile (· != '.')).reverse

theorem lastSegment_dot (pre seg : List Char) (h : '.' ∉ seg) :
    lastSegment (pre ++ '.' :: seg) = seg := by
  have hall : ∀ c ∈ seg.reverse, (c != '.') = true := by
    intro c hc
    simp only [bne_iff_ne,ne_eq]
    rintro rfl
    exact h (List.mem_reverse.1 hc)
  simp [lastSegment,List.takeWhile_append_of_pos hall]

theorem ordinal_of_dotted {pre pre' : String} {n m : Int}
    (h : pre ++ "." ++ toString n = pre' ++ "." ++ toString m) : n = m := by
  have hd := congrArg (fun s : String => lastSegment s.data) h
  simp only [String.data_append,List.append_assoc] at hd
  rw [List.singleton_append,List.singleton_append,lastSegment_dot _ _ (dot_not_mem_intString n),
    lastSegment_dot _ _ (dot_not_mem_intString m)] at hd
  exact intString_inj (String.ext hd)

end Ambassador
