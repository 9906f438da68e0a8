/-
# FaultContext.Binding.Cache -- answers that are remembered.

A cache remembers an answer for each type.  The first answer stays until the cache is cleared.  One
kind of cache is shared by all threads; the other keeps the answers of each thread apart, and
clearing it drops those of every thread.  A type that cannot be a key is never remembered.
-/
import FaultContext.Value.Equality

namespace FaultContext

/-- Remembered answers, with the thread and the type that each is for.  Threads share their answers
unless `threadLocal`. -/
structure Cache (β : Type) where
  threadLocal : Bool
  entries : List (Nat × Value × β)

namespace Cache

variable {β : Type}

/-- A cache that remembers nothing yet. -/
def empty (threadLocal : Bool) : Cache β := ⟨threadLocal, []⟩

/-- The thread under which an answer is kept. -/
def slot (c : Cache β) (thread : Nat) : Nat := if c.threadLocal then thread else 0

/-- The answer remembered for a type. -/
def get? (c : Cache β) (s : Store) (thread : Nat) (type : Value) : Option β :=
  (c.entries.find? fun (t, k, _) => t == c.slot thread && s.agree k type).map fun (_, _, b) => b

/-- Remembers an answer for a type that has none. -/
def insert (c : Cache β) (thread : Nat) (type : Value) (answer : β) : Cache β :=
  { c with entries := c.entries ++ [(c.slot thread, type, answer)] }

/-- Gives an answer to a cache: the answer that counts, and the cache with it.  An answer that was
there before counts instead. -/
def remember (c : Cache β) (s : Store) (thread : Nat) (type : Value) (answer : Option β) :
    Option β × Cache β :=
  match c.get? s thread type with
  | some present => (some present, c)
  | none => (answer, answer.elim c (c.insert thread type))

/-- Forgets everything. -/
def clear (c : Cache β) : Cache β := { c with entries := [] }

theorem threadLocal_remember (c : Cache β) (s : Store) (thread : Nat) (type : Value)
    (answer : Option β) : (c.remember s thread type answer).2.threadLocal = c.threadLocal := by
  unfold remember
  split
  · rfl
  · cases answer <;> rfl

/-- A cache remembers what it had, and at most the answer besides. -/
theorem entries_remember (c : Cache β) (s : Store) (thread : Nat) (type : Value)
    (answer : Option β) :
    (c.remember s thread type answer).2.entries = c.entries ∨
      ∃ b, answer = some b ∧
        (c.remember s thread type answer).2.entries = c.entries ++ [(c.slot thread, type, b)] := by
  unfold remember
  split
  · exact .inl rfl
  · cases answer with
    | none => exact .inl rfl
    | some b => exact .inr ⟨b, rfl, rfl⟩

end Cache
end FaultContext
