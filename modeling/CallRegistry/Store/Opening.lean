import CallRegistry.Store.InMemory

/-!
# Opening a store

A store is kept in memory or in a table.  The choice is made once, when the
store is opened: in memory whenever that is asked for, otherwise in the table
that the configuration names.
-/

namespace CallRegistry

inductive Store where
  | memory (records : InMemory)
  | table (config : TableConfig)

inductive OpeningFault where
  | noConfiguration
  | client (fault : MakingFault)
  deriving DecidableEq, Repr

def OpeningFault.message : OpeningFault → String
  | .noConfiguration => "config is required when not in mock mode"
  | .client fault => fault.message

/-- A store that was refused, and what was logged by then. -/
structure RefusedStore where
  fault : OpeningFault
  events : List Event

/-- A store, the client made for it, and what was logged on the way. -/
structure OpenedStore where
  store : Store
  client : Option TableClient
  events : List Event

namespace OpenedStore

def memory : OpenedStore where
  store := .memory .empty
  client := none
  events := [.memoryOpened]

/-- The store in a table, with a client of its own. -/
def table (config : TableConfig) (maker : ClientMaker) :
    Except RefusedStore OpenedStore :=
  match maker.make config with
  | .ok (chosen, client) =>
    .ok
      { store := .table config
        client := some client
        events := [chosen, config.opened] }
  | .error refused =>
    .error { fault := .client refused.fault, events := refused.events }

def choose (config : Option TableConfig) (inMemory : Bool)
    (maker : ClientMaker := .willing) : Except RefusedStore OpenedStore :=
  if inMemory then .ok memory
  else
    match config with
    | some config => table config maker
    | none => .error { fault := .noConfiguration, events := [] }

end OpenedStore

end CallRegistry
