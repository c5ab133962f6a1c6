/-!
# Powers

Where a module also knows the powers of algebra, `m ^ n` could be read in two ways that are equal
only by a proof. In this library it is always the power of the language's core.
-/

attribute [instance (1100), default_instance 10001] instPowNat
