namespace Deliberation.Number

def halfWordBound : Nat := 4294967296

def wordBound : Nat := 18446744073709551616

def signBound : Nat := 9223372036854775808

theorem two_mul_signBound : 2 * signBound = wordBound := rfl

end Deliberation.Number
