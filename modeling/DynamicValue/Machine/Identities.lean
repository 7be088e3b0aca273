/-
# Identities and tables

Identities are handed out in the order of first use, with the numbers from one upwards; the
operation table of a type is built at its first use, after the identity. Both are logged, and both
stay for the rest of the run.
-/

import DynamicValue.Machine.Basic

namespace DynamicValue.Machine

/-- Adds a line to the log. -/
def writeLog (line : LogLine) : StateM Machine Unit :=
  modify fun machine => { machine with log := machine.log ++ [line] }

/-- The identity that was handed out for a type. -/
def identity? (machine : Machine) (type : ValueType) : Option TypeIdentity :=
  machine.identities.find? fun identity => identity.type? = some type

/-- The identity of a type, handed out now if the type is new. -/
def identify (type : ValueType) : StateM Machine TypeIdentity := do
  let machine ← get
  match machine.identity? type with
  | some identity => pure identity
  | none =>
    let identity : TypeIdentity := ⟨machine.identities.length + 1, some type⟩
    set { machine with identities := machine.identities ++ [identity] }
    writeLog (.allocated identity)
    pure identity

/-- The table that was built for a type. -/
def table? (machine : Machine) (type : ValueType) : Option OperationTable :=
  machine.tables.find? fun table => table.type = type

/-- The table of a type, built now if the type is new. -/
def tableFor (type : ValueType) : StateM Machine OperationTable := do
  match (← get).table? type with
  | some table => pure table
  | none =>
    let identity ← identify type
    let machine ← get
    let table : OperationTable := ⟨machine.tables.length, type, identity⟩
    set { machine with tables := machine.tables ++ [table] }
    writeLog (.builtTable type)
    pure table

end DynamicValue.Machine
