import WeatherStation.Config.Key

/-!
# `WeatherStation.Config.Store`: where settings are kept

A store holds a text or a number for each key that was written. It is typed: a number
written as a number is not found as a text, and writing the one hides the other. Texts have
a largest length, and the number of keys is bounded.

`Access` is the interface through which settings are loaded and the boot counter is kept;
`MemoryStore.access` implements it in memory. `recordBoot` counts the boots.
-/

set_option autoImplicit false

namespace WeatherStation.Config

/-- Longest text a store holds, in bytes. -/
def maxValueLength : Nat := 64

/-- Number of keys a store in memory has room for. -/
def storeCapacity : Nat := 16

/-- Why a store refused. -/
inductive ConfigError where
  | notFound
  | valueTooLong
  | storeFull
  deriving DecidableEq, Repr, Inhabited

namespace ConfigError

/-- The errors, in the order they are declared. -/
def all : List ConfigError := [notFound, valueTooLong, storeFull]

/-- The error in words. -/
def message : ConfigError → String
  | notFound => "config key not found"
  | valueTooLong => "config value too long"
  | storeFull => "config store full"

end ConfigError

/-- A stored value. -/
inductive StoredValue where
  | text (value : String)
  | number (value : UInt32)
  deriving DecidableEq, Repr

/-- A store as seen by those who use it. -/
structure Access (σ : Type) where
  getText : σ → Key → Except ConfigError String
  getNumber : σ → Key → Except ConfigError UInt32
  setText : σ → Key → String → Except ConfigError σ
  setNumber : σ → Key → UInt32 → Except ConfigError σ

/-- A store in memory: the keys that were written, each once, with their values. -/
structure MemoryStore where
  entries : List (Key × StoredValue) := []
  deriving DecidableEq, Repr, Inhabited

namespace MemoryStore

/-- The store that nothing was written to. -/
def empty : MemoryStore := {}

/-- Number of keys that were written. -/
def size (s : MemoryStore) : Nat := s.entries.length

/-- The value of a key. -/
def get? (s : MemoryStore) (key : Key) : Option StoredValue := s.entries.lookup key

/-- The entries with a new value for a key. -/
def replace (key : Key) (value : StoredValue) : List (Key × StoredValue) → List (Key × StoredValue)
  | [] => [(key, value)]
  | (k, v) :: rest =>
    if k = key then (key, value) :: rest else (k, v) :: replace key value rest

/-- Write a value. A key that is there already needs no more room. -/
def put (s : MemoryStore) (key : Key) (value : StoredValue) : Except ConfigError MemoryStore :=
  if (s.get? key).isNone && storeCapacity ≤ s.size then .error .storeFull
  else .ok ⟨replace key value s.entries⟩

/-- The text of a key. -/
def getText (s : MemoryStore) (key : Key) : Except ConfigError String :=
  match s.get? key with
  | some (.text value) => .ok value
  | _ => .error .notFound

/-- The number of a key. -/
def getNumber (s : MemoryStore) (key : Key) : Except ConfigError UInt32 :=
  match s.get? key with
  | some (.number value) => .ok value
  | _ => .error .notFound

/-- Write a text. -/
def setText (s : MemoryStore) (key : Key) (value : String) : Except ConfigError MemoryStore :=
  if maxValueLength < value.utf8ByteSize then .error .valueTooLong else s.put key (.text value)

/-- Write a number. -/
def setNumber (s : MemoryStore) (key : Key) (value : UInt32) :
    Except ConfigError MemoryStore :=
  s.put key (.number value)

/-- The store in memory as a store. -/
def access : Access MemoryStore := ⟨getText, getNumber, setText, setNumber⟩

end MemoryStore

namespace Access

variable {σ : Type}

/-- The same store, except that every read fails. -/
def failingReads (a : Access σ) (e : ConfigError) : Access σ :=
  { a with getText := fun _ _ => .error e, getNumber := fun _ _ => .error e }

/-- The same store, except that every write fails. -/
def failingWrites (a : Access σ) (e : ConfigError) : Access σ :=
  { a with setText := fun _ _ _ => .error e, setNumber := fun _ _ _ => .error e }

/-- Count a boot: the new count, and the store that holds it. The first boot is number 1, and
after the largest number the count goes on with 0. -/
def recordBoot (a : Access σ) (store : σ) : Except ConfigError (UInt32 × σ) :=
  let next : Except ConfigError UInt32 :=
    match a.getNumber store .bootCount with
    | .ok count => .ok (count + 1)
    | .error .notFound => .ok 1
    | .error e => .error e
  match next with
  | .error e => .error e
  | .ok count =>
    match a.setNumber store .bootCount count with
    | .ok store => .ok (count, store)
    | .error e => .error e

end Access

end WeatherStation.Config
