namespace Contention

def wordMax : Nat := 18446744073709551615

end Contention
