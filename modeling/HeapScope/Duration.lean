import HeapScope.Bytes

namespace HeapScope

structure Duration where
  nanoseconds : Nat
deriving DecidableEq, Repr

namespace Duration

def zero : Duration := ⟨0⟩

def longest : Duration := ⟨2 ^ 64 * 1000000000 - 1⟩

def ofParts (seconds nanoseconds : Nat) : Duration := ⟨seconds * 1000000000 + nanoseconds⟩

def ofMicroseconds (microseconds : Nat) : Duration := ⟨microseconds * 1000⟩

def seconds (length : Duration) : Nat := length.nanoseconds / 1000000000

def subsecond (length : Duration) : Nat := length.nanoseconds % 1000000000

def add (a b : Duration) : Duration := ⟨min (a.nanoseconds + b.nanoseconds) longest.nanoseconds⟩

def between (a b : Duration) : Duration := ⟨b.nanoseconds - a.nanoseconds⟩

def microseconds (length : Duration) : Nat := min (length.nanoseconds / 1000) (2 ^ 64 - 1)

theorem microseconds_lt (length : Duration) : length.microseconds < 256 ^ 8 := by
  unfold microseconds
  omega

theorem microseconds_of_microseconds (n : Nat) (small : n < 2 ^ 64) :
    (ofMicroseconds n).microseconds = n := by
  simp only [ofMicroseconds, microseconds]
  omega

end Duration

end HeapScope
