import ServiceWiring.Dump.Entry
import ServiceWiring.Trail

/-!
The wiring of service locators: which service is a locator with contents of its own, which one is
made from another, and which locator each subscriber is handed. A later entry adds to the wiring
and takes nothing back.
-/

namespace ServiceWiring.Dump

structure Wiring where
  /-- The contents of each service that has some. -/
  located : Table (Table String) := {}
  /-- The service that each service is made from. -/
  madeFrom : Table String := {}
  /-- The locator of each subscriber. -/
  handed : Table String := {}

namespace Wiring

/-- Adds what an entry says; of two entries that say the same kind of thing about one service or
one subscriber the later one holds. -/
def add (wiring : Wiring) (entry : Entry) : Wiring where
  located :=
    if entry.located.isEmpty then wiring.located else wiring.located.put entry.id entry.located
  madeFrom :=
    match entry.madeFrom with
    | some service => wiring.madeFrom.put entry.id service
    | none => wiring.madeFrom
  handed :=
    match entry.handed with
    | some locator => wiring.handed.put entry.subscriber locator
    | none => wiring.handed

def ofEntries (entries : List Entry) : Wiring := entries.foldl add {}

/-- The contents of a locator: its own, or those of the first service on the way back through
`madeFrom` that has some. A circle without contents is empty. -/
def contents (wiring : Wiring) (locator : String) : Table String :=
  (Trail.find? wiring.madeFrom.get? wiring.located.get? wiring.madeFrom.size locator).getD {}

def subscriptions (wiring : Wiring) : Table (Table String) := wiring.handed.map wiring.contents

end Wiring

end ServiceWiring.Dump
