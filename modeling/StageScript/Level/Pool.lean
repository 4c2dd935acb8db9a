/-!
The level pool: a budget of bytes that entries of a level are charged to. Nothing is given back
one by one; the pool is reset as a whole, and freezing it leaves no room for more.
-/

namespace StageScript

structure PoolExhausted where
  requested : Nat
  available : Nat
  deriving DecidableEq, Repr

def PoolExhausted.message (exhausted : PoolExhausted) : String :=
  s!"level pool exhausted: requested {exhausted.requested} bytes, " ++
  s!"{exhausted.available} bytes available"

structure Pool where
  capacity : Nat
  used : Nat
  deriving DecidableEq, Repr, Inhabited

namespace Pool

def ofCapacity (capacity : Nat) : Pool := ⟨capacity, 0⟩

def available (pool : Pool) : Nat := pool.capacity - pool.used

def allocate (pool : Pool) (bytes : Nat) : Except PoolExhausted Pool :=
  if pool.available < bytes then .error ⟨bytes, pool.available⟩
  else .ok { pool with used := pool.used + bytes }

def freeze (pool : Pool) : Pool := { pool with capacity := pool.used }

theorem used_le_capacity_of_allocate {pool pool' : Pool} {bytes : Nat}
    (fits : pool.used ≤ pool.capacity) (allocated : pool.allocate bytes = .ok pool') :
    pool'.used ≤ pool'.capacity := by
  unfold allocate available at allocated
  split at allocated
  · simp at allocated
  · simp only [Except.ok.injEq] at allocated
    subst allocated
    simp only
    omega

end Pool

end StageScript
