/-!
# Powers

Powers of numbers are those of the core library, also where more algebra is in scope.
-/

namespace Columnar

attribute [scoped instance (high)] instPowNat
attribute [default_instance 20000] instPowNat

end Columnar
