namespace Handover.Modular

def add (m a b : Nat) : Nat := (a + b) % m

def sub (m a b : Nat) : Nat := (a + (m - b % m)) % m

def mul (m a b : Nat) : Nat := a * b % m

def pow (m b n : Nat) : Nat :=
  if n = 0 then 1 % m
  else
    let half := pow m b (n / 2)
    let square := mul m half half
    if n % 2 = 1 then mul m square b else square
termination_by n
decreasing_by omega

/-- The inverse of a number that is not zero, if the modulus is a prime. -/
def inverse (m a : Nat) : Nat := pow m a (m - 2)

end Handover.Modular
