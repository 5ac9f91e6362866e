/-! How many connections a database service keeps, and how long.
-/

namespace FieldFilter

/-- The settings of a connection pool; times are in seconds. -/
structure PoolSettings where
  maxConnections : Nat
  minConnections : Nat
  acquireTimeout : Nat
  idleTimeout : Nat
  deriving DecidableEq, Repr

namespace PoolSettings

/-- The pool that is kept unless the settings say otherwise. -/
def standard : PoolSettings :=
  { maxConnections := 10, minConnections := 1, acquireTimeout := 30, idleTimeout := 600 }

/-- A number, or another one in place of zero. -/
def nonzero (n replacement : Nat) : Nat :=
  if n = 0 then replacement else n

/-- The pool with a zero anywhere replaced by the standard. -/
def withoutZeros (p : PoolSettings) : PoolSettings :=
  { maxConnections := nonzero p.maxConnections standard.maxConnections
    minConnections := nonzero p.minConnections standard.minConnections
    acquireTimeout := nonzero p.acquireTimeout standard.acquireTimeout
    idleTimeout := nonzero p.idleTimeout standard.idleTimeout }

end PoolSettings

end FieldFilter
