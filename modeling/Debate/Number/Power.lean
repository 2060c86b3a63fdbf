/-!
# Powers

Powers of numbers with natural exponents are the numbers' own, whatever structure on them is in
scope. The namespace is opened where powers are computed.
-/

namespace Debate.Number.Power

scoped instance (priority := 2000) natural : Pow Nat Nat := instPowNat

scoped instance (priority := 2000) integer : Pow Int Nat := instPowNat

end Debate.Number.Power
