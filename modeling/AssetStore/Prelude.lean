/-!
# The instances the library computes with

Powers of naturals and integers are the core ones through `NatPow`, and the zero of a sum of
naturals is the literal `0`. These instances come before the more general ones that a library of
algebra adds for the same types, so that every definition of the library elaborates to the same
term whichever libraries are loaded beside it.
-/

namespace AssetStore

@[default_instance 10001]
instance (priority := high) natPow : Pow Nat Nat := instPowNat

@[default_instance 10001]
instance (priority := high) intPow : Pow Int Nat := instPowNat

instance (priority := high) natZero : Zero Nat := Zero.ofOfNat0

end AssetStore
