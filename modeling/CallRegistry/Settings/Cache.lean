import CallRegistry.Settings.Source

/-!
# Settings that are loaded once

The settings are loaded when they are first asked for and kept from then on,
until they are cleared.  A load that fails keeps nothing.  Every load that
succeeds has a number of its own, by which two answers can be told to be the
same settings or merely equal ones.
-/

namespace CallRegistry.Settings

/-- Settings, and the number of the load they come from. -/
structure Loaded where
  settings : Settings
  serial : Nat
  deriving DecidableEq

structure Cache where
  kept : Option Loaded := none
  loads : Nat := 0

namespace Cache

def clear (c : Cache) : Cache :=
  { c with kept := none }

/-- The settings kept, or those that the given load brings. -/
def get (c : Cache) (load : Except LoadFault Settings) :
    Cache × Except LoadFault Loaded :=
  match c.kept with
  | some loaded => (c, .ok loaded)
  | none =>
    match load with
    | .ok settings =>
      let loaded := { settings, serial := c.loads }
      ({ kept := some loaded, loads := c.loads + 1 }, .ok loaded)
    | .error fault => (c, .error fault)

end Cache

end CallRegistry.Settings
