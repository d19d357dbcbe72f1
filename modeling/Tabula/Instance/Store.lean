import Tabula.Registry
/-!
# Storing instances

A save inserts the row of a new instance and updates that of a stored one, writing only what changed.  Unless it
is forced, it fills in the automatic values, and a version counter guards the update: the row must still have the
version that was observed when the instance was last loaded or written.  A save that fails leaves the instance as
it was.

Every operation gives its outcome together with the instance as it is afterwards.
-/

namespace Tabula

/-- how a save is made -/
structure SaveOptions where
  /-- fields that are written whether they changed or not -/
  fields : List String := []
  /-- without automatic values and without a check of the version -/
  force : Bool := false

namespace Instance

/-- the positions that a save writes: those that changed, then those asked for -/
def positionsToWrite (i : Instance) (names : List String) : Outcome (List Nat) :=
  names.foldlM (fun ps name => do
    let p ← i.model.position name
    return if ps.contains p then ps else ps ++ [p]) i.changedPositions

/-- the version that an update expects to find: that of the snapshot -/
def observedVersion (i : Instance) : List (Nat × Value) :=
  match i.model.versionPosition? with
  | none => []
  | some p => [(p, (i.snapshot.getD i.values).getD p .null)]

/-- the conditions of an update -/
def updateConditions (i : Instance) (options : SaveOptions) : List (Nat × Value) :=
  if options.force then [] else i.observedVersion

/-- the positions with those added whose automatic value differs from the one before, ascending -/
def withAutomatic (before filled : Instance) (positions : List Nat) : List Nat :=
  let changed := before.model.automaticPositions.filter fun p =>
    !(filled.valueAt p).same (before.valueAt p)
  (List.range before.model.fields.length).filter fun p => positions.contains p || changed.contains p

/-- the refusal of an update that found no row -/
def stale (i : Instance) : Error :=
  ⟨.stale, i.model.name ++ " with pk " ++ i.key.text ++ " was modified or deleted since it was loaded"⟩

/-- inserts the row of an instance that is not stored -/
def insertRow (i : Instance) (m : Mapper) (active : Active) (now : Instant) :
    Talk ((Outcome Unit × Instance) × Mapper) :=
  match i.filledIn now with
  | .error e => return ((.error e, i), m)
  | .ok filled =>
    match filled.checkRequired with
    | .error e => return ((.error e, filled.withValues i.values), m)
    | .ok () => do
      let ((answer, j), m) ← m.insert active filled
      match answer with
      | .ok () => return ((.ok (), j.storedIn i.databaseName), m)
      | .error e => return ((.error e, j.withValues i.values), m)

/-- the instance as an update writes it -/
def prepared (i : Instance) (now : Instant) (options : SaveOptions) : Outcome Instance :=
  if options.force then .ok i else i.filledIn now

/-- the outcome of an update, and the instance afterwards -/
def concluded (before filled : Instance) : Outcome Nat → Outcome Unit × Instance
  | .ok 0 => (.error before.stale, filled.withValues before.values)
  | .ok (_ + 1) => (.ok (), filled.synchronized)
  | .error e => (.error e, filled.withValues before.values)

/-- updates the row of a stored instance -/
def updateRow (i : Instance) (m : Mapper) (active : Active) (now : Instant) (options : SaveOptions)
    (positions : List Nat) : Talk ((Outcome Unit × Instance) × Mapper) :=
  match i.prepared now options with
  | .error e => return ((.error e, i), m)
  | .ok filled => do
    let (answer, m) ← m.update active filled (withAutomatic i filled positions) (i.updateConditions options)
    return (concluded i filled answer, m)

/-- writes an instance; without changes nothing is done -/
def saveWith (i : Instance) (active : Active) (now : Instant) (options : SaveOptions) :
    Work (Outcome Unit × Instance) := fun r =>
  if i.changedPositions.isEmpty then return ((.ok (), i), r)
  else
    match i.positionsToWrite options.fields with
    | .error e => return ((.error e, i), r)
    | .ok positions =>
      match r.mapper i.entity i.databaseName with
      | .error e => return ((.error e, i), r)
      | .ok (m, r) => do
        let (result, m) ←
          if i.persisted then i.updateRow m active now options positions else i.insertRow m active now
        return (result, r.keep m)

/-- writes an instance with nothing special -/
def save (i : Instance) (active : Active) (now : Instant) : Work (Outcome Unit × Instance) :=
  i.saveWith active now {}

/-- deletes the row of a stored instance, which is not stored then; counts the rows -/
def delete (i : Instance) (active : Active) : Work (Outcome Nat × Instance) := fun r =>
  if !i.persisted then
    return ((failure .operational ("can't delete unpersisted record of '" ++ i.model.name ++ "'"), i), r)
  else do
    let (answer, r) ← Registry.withMapper i.entity i.databaseName (fun m => m.delete active i) r
    match answer with
    | .ok n => return ((.ok n, { i with persisted := false, snapshot := none }), r)
    | .error e => return ((.error e, i), r)

/-- the instance with the values of its row -/
def refreshedFrom (i fresh : Instance) : Instance :=
  ({ i with values := fresh.values, persisted := true }).synchronized

/-- loads every field again from the row with the instance's key -/
def refresh (i : Instance) (active : Active) : Work (Outcome Unit × Instance) := fun r => do
  let (answer, r) ← Registry.withMapper i.entity i.databaseName (fun m => m.load active i.keyValues) r
  match answer with
  | .error e => return ((.error e, i), r)
  | .ok none => return ((failure .doesNotExist (i.text ++ " no longer exists"), i), r)
  | .ok (some fresh) => return ((.ok (), i.refreshedFrom fresh), r)

end Instance

end Tabula
