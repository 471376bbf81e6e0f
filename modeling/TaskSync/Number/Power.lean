/-!
# Powers

`a ^ n` is the power of the core library for every number in use, also where a module imports more
algebra: what a bound or a scale means does not depend on the imports.
-/

attribute [default_instance 20000, instance (2000)] instPowNat
