namespace WindowKeeper

/-- The 32-bit operation whose exact result has no 32-bit value. -/
inductive Overflow
  | addition
  | subtraction
  deriving DecidableEq, Repr

/-- The words in which an overflow is reported. -/
def Overflow.message : Overflow → String
  | .addition => "attempt to add with overflow"
  | .subtraction => "attempt to subtract with overflow"

def int32Min : Int := -2147483648

def int32Max : Int := 2147483647

/-- An integer with a 32-bit value. -/
def Fits32 (n : Int) : Prop := int32Min ≤ n ∧ n ≤ int32Max

instance (n : Int) : Decidable (Fits32 n) := inferInstanceAs (Decidable (_ ∧ _))

/-- The exact sum, unless it leaves the 32-bit range. -/
def plus (a b : Int) : Except Overflow Int :=
  if Fits32 (a + b) then .ok (a + b) else .error .addition

def minus (a b : Int) : Except Overflow Int :=
  if Fits32 (a - b) then .ok (a - b) else .error .subtraction

/-- The 32-bit value nearest to an integer. -/
def saturate32 (n : Int) : Int :=
  if n < int32Min then int32Min else if int32Max < n then int32Max else n

theorem plus_eq_ok {a b c : Int} : plus a b = .ok c ↔ Fits32 (a + b) ∧ a + b = c := by
  unfold plus
  split <;> simp_all

theorem minus_eq_ok {a b c : Int} : minus a b = .ok c ↔ Fits32 (a - b) ∧ a - b = c := by
  unfold minus
  split <;> simp_all

end WindowKeeper
