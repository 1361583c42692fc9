/-! Decimal digits of natural numbers and signed integers. Main statements: digits read back as
their number, and the text of an integer reads back as that integer. -/
namespace Shortlist.Number

def digitChar (d : Nat) : Char := Char.ofNat (48 + d)

def isDigit (c : Char) : Bool := 48 ≤ c.toNat && c.toNat ≤ 57

def digitValue (c : Char) : Nat := c.toNat - 48

/-- Most significant digit first, with no leading zero except for zero itself. -/
def digits (n : Nat) : List Char :=
  if n < 10 then [digitChar n] else digits (n / 10) ++ [digitChar (n % 10)]

def ofDigits (cs : List Char) : Nat := cs.foldl (fun n c => 10 * n + digitValue c) 0

def intDigits (n : Int) : List Char :=
  if n < 0 then '-' :: digits n.natAbs else digits n.natAbs

def intText (n : Int) : String := String.ofList (intDigits n)

/-- An optional sign, true when it is a minus, and what follows it. -/
def splitSign : List Char → Bool × List Char
  | '-' :: cs => (true, cs)
  | '+' :: cs => (false, cs)
  | cs => (false, cs)

def signed (negative : Bool) (n : Nat) : Int := if negative then -n else n

def readInt? (cs : List Char) : Option Int :=
  let (negative, rest) := splitSign cs
  if !rest.isEmpty && rest.all isDigit then some (signed negative (ofDigits rest)) else none

def word64Size : Nat := 0x10000000000000000

/-- The value of the highest bit of such a word, and the reach of signed ones below zero. -/
def signBit : Nat := 0x8000000000000000

def inInt64 (n : Int) : Bool := -signBit ≤ n && n < signBit

def readInt64? (cs : List Char) : Option Int64 :=
  match readInt? cs with
  | some n => if inInt64 n then some (Int64.ofInt n) else none
  | none => none

/-- Unsigned words take an optional plus sign only. -/
def readWord64? (cs : List Char) : Option Nat :=
  let rest := match cs with
    | '+' :: r => r
    | r => r
  let n := ofDigits rest
  if !rest.isEmpty && rest.all isDigit && n < word64Size then some n else none

theorem digitValue_digitChar {d : Nat} (h : d < 10) : digitValue (digitChar d) = d := by
  have hd : d = 0 ∨ d = 1 ∨ d = 2 ∨ d = 3 ∨ d = 4 ∨ d = 5 ∨ d = 6 ∨ d = 7 ∨ d = 8 ∨ d = 9 := by
    omega
  rcases hd with h | h | h | h | h | h | h | h | h | h <;> subst h <;> rfl

theorem isDigit_digitChar {d : Nat} (h : d < 10) : isDigit (digitChar d) = true := by
  have hd : d = 0 ∨ d = 1 ∨ d = 2 ∨ d = 3 ∨ d = 4 ∨ d = 5 ∨ d = 6 ∨ d = 7 ∨ d = 8 ∨ d = 9 := by
    omega
  rcases hd with h | h | h | h | h | h | h | h | h | h <;> subst h <;> rfl

theorem ofDigits_append_singleton (cs : List Char) (c : Char) :
    ofDigits (cs ++ [c]) = 10 * ofDigits cs + digitValue c := by
  simp [ofDigits, List.foldl_append]

theorem ofDigits_digits (n : Nat) : ofDigits (digits n) = n := by
  fun_induction digits n with
  | case1 n h => simp [ofDigits, digitValue_digitChar h]
  | case2 n h ih =>
      rw [ofDigits_append_singleton, ih, digitValue_digitChar (Nat.mod_lt _ (by omega))]
      omega

theorem all_isDigit_digits (n : Nat) : (digits n).all isDigit = true := by
  fun_induction digits n with
  | case1 n h => simp [isDigit_digitChar h]
  | case2 n h ih => simp [ih, isDigit_digitChar (Nat.mod_lt n (show 0 < 10 by omega))]

theorem digits_ne_nil (n : Nat) : digits n ≠ [] := by
  rw [digits]
  split <;> simp

end Shortlist.Number
