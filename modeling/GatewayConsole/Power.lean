/-!
# Powers

A power of a number is that of the core library in every module, also where more algebra is
imported, so that bounds like `2 ^ 64` are one term everywhere.
-/

attribute [instance (2000), default_instance 20000] instPowNat
