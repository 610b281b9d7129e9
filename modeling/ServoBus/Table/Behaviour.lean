import ServoBus.Table.Access

/-!
# Peripherals of any kind

How a field of a table is read and written with whatever stands behind its registers. That may keep
a state of its own, of any type, and what it does when the table turns to it is its own affair: it
may change the table, and a fault may stop it. Tables read and write in this way, with what
`Peripheral`s do (`Behaviour.read_own`, `Behaviour.write_own`).
-/

namespace ServoBus

/-- A table and what its peripheral keeps. -/
structure Equipped (State : Type) where
  table : Table
  state : State

/-- An action on a table and its peripheral. Even where a fault stops it, it leaves both behind. -/
abbrev EquippedM (State : Type) := EStateM Fault (Equipped State)

/-- What a peripheral does when a register is about to be read, and when one was written. -/
structure Behaviour (State : Type) where
  refresh : UInt8 → EquippedM State Unit
  react : UInt8 → EquippedM State Unit

namespace Equipped

variable {State α β : Type}

/-- An action of which the peripheral learns nothing. -/
def onTable (action : TableM α) : EquippedM State α := fun equipped =>
  match action equipped.table with
  | .ok value table => .ok value { equipped with table }
  | .error fault table => .error fault { equipped with table }

theorem onTable_of_ok {action : TableM α} {equipped : Equipped State} {value : α} {after : Table}
    (h : action equipped.table = .ok value after) :
    onTable action equipped = .ok value { equipped with table := after } := by
  rw [onTable, h]

theorem onTable_of_error {action : TableM α} {equipped : Equipped State} {fault : Fault}
    {after : Table} (h : action equipped.table = .error fault after) :
    onTable action equipped = .error fault { equipped with table := after } := by
  rw [onTable, h]

theorem onTable_bind (first : TableM α) (next : α → TableM β) :
    (onTable (first >>= next) : EquippedM State β) =
      onTable first >>= fun value => onTable (next value) := by
  funext equipped
  simp only [onTable, bind, EStateM.bind]
  cases first equipped.table with
  | ok value table => rfl
  | error fault table => rfl

end Equipped

namespace Behaviour

open Equipped

variable {State : Type}

/-- What a `Peripheral` does. It keeps its state in the table. -/
def own : Behaviour State where
  refresh offset := onTable (Table.refresh offset)
  react offset := onTable (Table.react offset)

def read (behaviour : Behaviour State) (field : Field) (offset : UInt8) : EquippedM State Int := do
  onTable (Table.requireRange field offset)
  behaviour.refresh offset
  onTable (Table.rawRead field offset)

def write (behaviour : Behaviour State) (field : Field) (offset : UInt8) (value : Int) :
    EquippedM State Unit := do
  onTable (Table.rawWrite field offset value)
  if offset = Offset.baud then onTable Table.adoptRate
  behaviour.react offset

theorem read_own (field : Field) (offset : UInt8) :
    (own.read field offset : EquippedM State Int) = onTable (Table.read field offset) := by
  rw [Table.read, onTable_bind]
  simp only [onTable_bind]
  rfl

theorem write_own (field : Field) (offset : UInt8) (value : Int) :
    (own.write field offset value : EquippedM State Unit) =
      onTable (Table.write field offset value) := by
  rw [Table.write, onTable_bind]
  by_cases hbaud : offset = Offset.baud
  · simp only [write, if_pos hbaud, onTable_bind]
    rfl
  · simp only [write, if_neg hbaud]
    rfl

end Behaviour

end ServoBus
