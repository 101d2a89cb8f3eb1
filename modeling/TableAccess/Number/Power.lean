/-!
Powers of natural numbers and of integers are those of the core library, whatever algebra is
imported beside it.
-/

set_option autoImplicit false
set_option relaxedAutoImplicit false

attribute [default_instance 10000, instance(10000)] instPowNat
