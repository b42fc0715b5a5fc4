import X64dbgMcp.Collection.AssocMap
import X64dbgMcp.Text.Json

/-!
# The operation ledger

The ledger admits a mutation once per operation identifier and remembers its
outcome for a bounded time.  It is a map with at most one entry per identifier;
an entry in flight is never evicted.

Time points are nanoseconds of a clock that may be read before the lock is
taken, so they need not increase from step to step.
-/

namespace X64dbgMcp.Ipc

open Collection Text

/-- An identifier of 128 bits. -/
abbrev Uuid := BitVec 128

instance : LawfulBEq Uuid := inferInstance

/-- What the ledger knows about an admitted operation. -/
inductive Status where
  | inFlight
  | completed (value : Json)
  | unknown

/-- What the ledger remembers of an operation. -/
structure Entry where
  fingerprint : String
  status : Status
  touched : Nat

/-- The operation has no outcome yet. -/
def Status.isInFlight : Status → Bool
  | .inFlight => true
  | _ => false

/-- What `begin` answers. -/
inductive Admission where
  | started
  | inFlight
  | completed (value : Json)
  | unknown
  | conflict
  | capacity

/-- Why the ledger refuses a change. -/
inductive LedgerError where
  | notFound
  deriving DecidableEq

/-- What a known operation is answered, by the fingerprint of the request. -/
def Entry.admission (entry : Entry) (fingerprint : String) : Admission :=
  if entry.fingerprint ≠ fingerprint then .conflict
  else
    match entry.status with
    | .inFlight => .inFlight
    | .completed value => .completed value
    | .unknown => .unknown

/-- The ledger of mutations, bounded in size and age. -/
structure OperationLedger where
  maxEntries : Nat
  ttl : Nat
  entries : AssocMap Uuid Entry

namespace OperationLedger

/-- The entry of an operation. -/
def get (ledger : OperationLedger) (operation : Uuid) : Option Entry :=
  ledger.entries.get operation

/-- An entry outlives its time only while it is in flight.  The subtraction
saturates, as the clock difference of the source does. -/
def fresh (ledger : OperationLedger) (now : Nat) (entry : Entry) : Bool :=
  entry.status.isInFlight || decide (now - entry.touched < ledger.ttl)

/-- Evict what has expired. -/
def expire (ledger : OperationLedger) (now : Nat) : OperationLedger :=
  { ledger with entries := ledger.entries.retain fun _ entry => ledger.fresh now entry }

/-- An operation was asked for now. -/
def touch (ledger : OperationLedger) (now : Nat) (operation : Uuid) : OperationLedger :=
  { ledger with
    entries := ledger.entries.modify operation fun entry => { entry with touched := now } }

/-- Admit a mutation once or return its previously observed state. -/
def begin (ledger : OperationLedger) (now : Nat) (operation : Uuid) (fingerprint : String) :
    Admission × OperationLedger :=
  let kept := ledger.expire now
  match found : kept.entries.get operation with
  | some entry => (entry.admission fingerprint, kept.touch now operation)
  | none =>
      if ledger.maxEntries ≤ kept.entries.size then (.capacity, kept)
      else
        (.started,
          { kept with
            entries := kept.entries.insert operation ⟨fingerprint, .inFlight, now⟩ found })

/-- Change the status of a known operation. -/
def setStatus (ledger : OperationLedger) (now : Nat) (operation : Uuid) (status : Status) :
    Except LedgerError OperationLedger :=
  match ledger.get operation with
  | none => .error .notFound
  | some _ =>
      .ok { ledger with
        entries := ledger.entries.modify operation fun entry =>
          { entry with status := status, touched := now } }

/-- Record the confirmed result of an admitted mutation. -/
def complete (ledger : OperationLedger) (now : Nat) (operation : Uuid) (result : Json) :
    Except LedgerError OperationLedger :=
  ledger.setStatus now operation (.completed result)

/-- The outcome of an operation will not be known. -/
def markUnknown (ledger : OperationLedger) (now : Nat) (operation : Uuid) :
    Except LedgerError OperationLedger :=
  ledger.setStatus now operation .unknown

/-- Remove an admission that did not cross the transport boundary. -/
def abandonUnstarted (ledger : OperationLedger) (operation : Uuid) (fingerprint : String) :
    Except LedgerError OperationLedger :=
  match ledger.get operation with
  | none => .error .notFound
  | some entry =>
      if entry.fingerprint = fingerprint ∧ entry.status.isInFlight = true then
        .ok { ledger with entries := ledger.entries.retain fun other _ => other != operation }
      else .error .notFound

/-! ## What the operations do to one entry -/

variable {ledger : OperationLedger} {operation other : Uuid} {fingerprint : String} {now : Nat}

theorem get_expire (ledger : OperationLedger) (now : Nat) (other : Uuid) :
    (ledger.expire now).get other = (ledger.get other).filter (ledger.fresh now) :=
  AssocMap.get_retain ledger.entries _ other

/-- No entry in flight is ever evicted. -/
theorem get_expire_of_inFlight {entry : Entry} (found : ledger.get other = some entry)
    (inFlight : entry.status.isInFlight = true) :
    (ledger.expire now).get other = some entry := by
  rw [get_expire, found]
  simp [Option.filter, fresh, inFlight]

theorem get_of_get_expire {entry : Entry} (found : (ledger.expire now).get other = some entry) :
    ledger.get other = some entry := by
  rw [get_expire] at found
  exact Option.filter_eq_some_iff.mp found |>.1

theorem get_touch (ledger : OperationLedger) (now : Nat) (operation other : Uuid) :
    (ledger.touch now operation).get other =
      if other = operation then (ledger.get other).map fun entry => { entry with touched := now }
      else ledger.get other :=
  AssocMap.get_modify ledger.entries operation _ other

/-- `begin` for an operation that is still known. -/
theorem begin_of_known {entry : Entry} (found : (ledger.expire now).get operation = some entry) :
    ledger.begin now operation fingerprint =
      (entry.admission fingerprint, (ledger.expire now).touch now operation) := by
  have foundEntries : (ledger.expire now).entries.get operation = some entry := found
  simp only [begin]
  split
  · rename_i other otherFound
    cases otherFound.symm.trans foundEntries
    rfl
  · rename_i absent
    rw [absent] at foundEntries
    contradiction

/-- `begin` for an operation that is not known, or no longer. -/
theorem begin_of_unknown (absent : (ledger.expire now).get operation = none) :
    (ledger.begin now operation fingerprint = (.capacity, ledger.expire now)) ∨
      ((ledger.begin now operation fingerprint).1 = .started ∧
        ∀ other, (ledger.begin now operation fingerprint).2.get other =
          if other = operation then some ⟨fingerprint, .inFlight, now⟩
          else (ledger.expire now).get other) := by
  have absentEntries : (ledger.expire now).entries.get operation = none := absent
  simp only [begin]
  split
  · rename_i entry found
    rw [found] at absentEntries
    contradiction
  · split
    · exact .inl rfl
    · exact .inr ⟨rfl, AssocMap.get_insert _ _ absentEntries⟩

theorem setStatus_of_known {entry : Entry} (now : Nat) (status : Status)
    (found : ledger.get operation = some entry) :
    ∃ updated, ledger.setStatus now operation status = .ok updated ∧
      ∀ other, updated.get other =
        if other = operation then some { entry with status := status, touched := now }
        else ledger.get other := by
  refine ⟨_, by simp only [setStatus, found]; rfl, ?_⟩
  intro other
  rw [get, AssocMap.get_modify]
  by_cases equal : other = operation
  · simp only [equal, if_true]
    have foundEntries : ledger.entries.get operation = some entry := found
    simp [foundEntries]
  · simp [equal, get]

theorem abandonUnstarted_of_inFlight {entry : Entry}
    (found : ledger.get operation = some entry) (inFlight : entry.status.isInFlight = true)
    (same : entry.fingerprint = fingerprint) :
    ∃ updated, ledger.abandonUnstarted operation fingerprint = .ok updated ∧
      ∀ other, updated.get other = if other = operation then none else ledger.get other := by
  refine ⟨_, by simp only [abandonUnstarted, found, same, inFlight, and_self, if_true]; rfl, ?_⟩
  intro other
  rw [get, AssocMap.get_retain]
  by_cases equal : other = operation
  · simp only [equal, if_true]
    have foundEntries : ledger.entries.get operation = some entry := found
    simp [foundEntries, Option.filter]
  · have kept : (other != operation) = true := by simp [equal]
    rw [if_neg equal]
    cases entryEq : ledger.entries.get other <;> simp [Option.filter, kept, get, entryEq]

end OperationLedger

end X64dbgMcp.Ipc
