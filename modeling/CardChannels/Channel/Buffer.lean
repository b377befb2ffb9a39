import CardChannels.Bytes

/-!
# Buffers

A buffer keeps bytes in order up to its capacity. What does not fit is left out, so a buffer never
holds more than its capacity.
-/
namespace CardChannels

structure Buffer where
  capacity : Nat
  bytes : Bytes
  fits : bytes.length ≤ capacity

namespace Buffer

/-- An empty buffer. -/
def ofCapacity (capacity : Nat) : Buffer := ⟨capacity, [], Nat.zero_le _⟩

def size (b : Buffer) : Nat := b.bytes.length

def isEmpty (b : Buffer) : Bool := b.bytes.isEmpty

/-- How many more bytes fit. -/
def free (b : Buffer) : Nat := b.capacity - b.size

/-- How many of some bytes fit. -/
def room (b : Buffer) (data : Bytes) : Nat := min data.length b.free

/-- The buffer with as many more bytes as fit. -/
def append (b : Buffer) (data : Bytes) : Buffer :=
  ⟨b.capacity, b.bytes ++ data.take (b.room data), by
    have := b.fits
    simp only [List.length_append, List.length_take, room, free, size]
    omega⟩

/-- The first bytes, and the buffer without them. -/
def read (b : Buffer) (count : Nat) : Bytes × Buffer :=
  (b.bytes.take count, ⟨b.capacity, b.bytes.drop count, by
    have := b.fits
    simp only [List.length_drop]
    omega⟩)

/-- The buffer without its bytes. -/
def clear (b : Buffer) : Buffer := ofCapacity b.capacity

@[simp] theorem capacity_append (b : Buffer) (data : Bytes) :
    (b.append data).capacity = b.capacity := rfl

@[simp] theorem bytes_append (b : Buffer) (data : Bytes) :
    (b.append data).bytes = b.bytes ++ data.take (b.room data) := rfl

@[simp] theorem read_fst_append_bytes (b : Buffer) (count : Nat) :
    (b.read count).1 ++ (b.read count).2.bytes = b.bytes := List.take_append_drop ..

@[simp] theorem bytes_clear (b : Buffer) : b.clear.bytes = [] := rfl

theorem size_add_free (b : Buffer) : b.size + b.free = b.capacity := by
  have := b.fits
  simp only [free, size]
  omega

end Buffer

end CardChannels
