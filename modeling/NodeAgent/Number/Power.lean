/-!
Powers of two and of ten.

They are functions of their own so that large exponents are not worked out where nothing asks for
them.
-/

namespace NodeAgent.Number

def twoTo (exponent : Nat) : Nat := Nat.pow 2 exponent

def tenTo (exponent : Nat) : Nat := Nat.pow 10 exponent

end NodeAgent.Number
