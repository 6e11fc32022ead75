import ObswPus.Commanding.IdentifierLists
import ObswPus.Ground.Agreement

/-! # The mission database

The telecommand arguments that the test ground segment builds by name
(`tests/integration/gsw/obc_db.py`), and what the flight software reads from the packets that
carry them: exactly what was named, or the failure code that refuses it.
-/
namespace ObswPus.Ground
open Flight Codec Commanding Library

abbrev svcHousekeeping : ℕ := 3
abbrev svcEvent : ℕ := 5
abbrev svcFunction : ℕ := 8
abbrev svcTest : ℕ := 17

abbrev stHkEnable : ℕ := 5
abbrev stHkDisable : ℕ := 6
abbrev stHkOneShot : ℕ := 27
abbrev stEvtDisable : ℕ := 5
abbrev stEvtEnable : ℕ := 6
abbrev stFnPerform : ℕ := 1

abbrev fidSetMode : ℕ := 1
abbrev fidSetHeater : ℕ := 2
abbrev fidInjectTemp : ℕ := 3
abbrev fidResetCounters : ℕ := 4
abbrev fidSetTime : ℕ := 5

/-- `bytes(values)`, which raises an exception where a value does not fit an octet. -/
def toOctets (values : List ℕ) : Option (List UInt8) :=
  values.mapM fun v => if v < 256 then some (UInt8.ofNat v) else none

/-- `struct.pack(">h", v)`. -/
def packSigned2 (v : ℤ) : Option (List UInt8) :=
  if -32768 ≤ v ∧ v < 32768 then some (bigEndian2 (v % 65536).toNat) else none

/-- `struct.pack(">I", v)`. -/
def pack4 (v : ℕ) : Option (List UInt8) :=
  if v < 4294967296 then some (bigEndian2 (v / 65536) ++ bigEndian2 (v % 65536)) else none

/-- Application data of a (3,5), (3,6) or (3,27) telecommand. -/
def hkList (sids : List ℕ) : Option (List UInt8) := do
  let count ← toOctets [sids.length]
  let listed ← toOctets sids
  return count ++ listed

/-- Application data of a (5,5) or (5,6) telecommand. -/
def eventList (ids : List ℕ) : Option (List UInt8) := do
  let count ← toOctets [ids.length]
  let listed ← ids.mapM toBytes2
  return count ++ listed.flatten

/-- Application data of an (8,1) telecommand. -/
def perform (functionId : ℕ) (args : List UInt8 := []) : Option (List UInt8) := do
  let fid ← toOctets [functionId]
  return fid ++ args

def setMode (mode : ℕ) : Option (List UInt8) := do
  let args ← toOctets [mode]
  perform fidSetMode args

def setHeater (on : Bool) : Option (List UInt8) := do
  let args ← toOctets [if on then 1 else 0]
  perform fidSetHeater args

def injectTemperature (deciCelsius : ℤ) : Option (List UInt8) := do
  let args ← packSigned2 deciCelsius
  perform fidInjectTemp args

def setTime (coarse : ℕ) (fine : ℕ := 0) : Option (List UInt8) := do
  let seconds ← pack4 coarse
  let subSeconds ← toBytes2 fine
  perform fidSetTime (seconds ++ subSeconds)

/-- The telecommands that the database has names for, with their arguments. -/
inductive Command where
  | switchHk (sids : List ℕ) (on : Bool)
  | oneShotHk (sids : List ℕ)
  | switchEvents (ids : List ℕ) (on : Bool)
  | setMode (mode : ℕ)
  | setHeater (on : Bool)
  | injectTemperature (deciCelsius : ℤ)
  | setTime (coarse fine : ℕ)
  | resetCounters
  | areYouAlive

namespace Command

/-- Service, subtype and application data. -/
def fields : Command → Option (ℕ × ℕ × List UInt8)
  | switchHk sids on =>
    (hkList sids).map (svcHousekeeping, if on then stHkEnable else stHkDisable, ·)
  | oneShotHk sids => (hkList sids).map (svcHousekeeping, stHkOneShot, ·)
  | switchEvents ids on =>
    (eventList ids).map (svcEvent, if on then stEvtEnable else stEvtDisable, ·)
  | setMode mode => (Ground.setMode mode).map (svcFunction, stFnPerform, ·)
  | setHeater on => (Ground.setHeater on).map (svcFunction, stFnPerform, ·)
  | injectTemperature dc => (Ground.injectTemperature dc).map (svcFunction, stFnPerform, ·)
  | setTime coarse fine => (Ground.setTime coarse fine).map (svcFunction, stFnPerform, ·)
  | resetCounters => (perform fidResetCounters).map (svcFunction, stFnPerform, ·)
  | areYouAlive => some (svcTest, 1, [])

/-- The packet that `send_tc` puts on the uplink for these fields. -/
def packet (c : Command) (ack seqCount : ℕ) : Option (List UInt8) := do
  let (service, subtype, data) ← c.fields
  buildTc { service := service, subtype := subtype, data := data, ack := ack, seqCount := seqCount }

/-- A list of identifiers asks for something if it has any, all of them in the range. -/
def asksList (f : ListFormat) (ids : List ℕ) (request : Request) : Except PusStatus Request :=
  if ids = [] then .error .badParameter
  else if ∃ id ∈ ids, ¬(1 ≤ id ∧ id ≤ f.maxId) then .error f.unknown
  else .ok request

/-- What the unit is asked for, or why it refuses. -/
def asks : Command → Except PusStatus Request
  | switchHk sids on => asksList hkFormat sids (.switchHk (sids.map UInt8.ofNat) on)
  | oneShotHk sids => asksList hkFormat sids (.oneShotHk (sids.map UInt8.ofNat))
  | switchEvents ids on => asksList eventFormat ids (.switchEvents (ids.map UInt16.ofNat) on)
  | setMode mode =>
    if mode = 0 then .ok (.setMode .safe)
    else if mode = 1 then .ok (.setMode .nominal)
    else .error .badParameter
  | setHeater on => .ok (.setHeater on)
  | injectTemperature dc => .ok (.injectTemperature (Int16.ofInt dc))
  | setTime coarse fine => .ok (.setTime (UInt32.ofNat coarse) (UInt16.ofNat fine))
  | resetCounters => .ok .resetCounters
  | areYouAlive => .ok .areYouAlive

end Command

theorem mapM_ite {α : Type} {p : ℕ → Prop} [DecidablePred p] (f : ℕ → α) (values : List ℕ) :
    (values.mapM fun v => if p v then some (f v) else none) =
      if ∀ v ∈ values, p v then some (values.map f) else none := by
  induction values with
  | nil => simp
  | cons v values ih =>
    rw [List.mapM_cons, ih]
    by_cases hv : p v
    · by_cases hrest : ∀ w ∈ values, p w
      · simp [hv, if_pos hrest]
      · simp [hv, if_neg hrest]
    · simp [hv]

/-- A count octet and the identifiers behind it, each written by `enc`. -/
def listOctets (enc : ℕ → List UInt8) (ids : List ℕ) : List UInt8 :=
  UInt8.ofNat ids.length :: (ids.map enc).flatten

theorem toOctets_eq (values : List ℕ) : toOctets values =
    if ∀ v ∈ values, v < 256 then some (values.map UInt8.ofNat) else none :=
  mapM_ite UInt8.ofNat values

theorem hkList_eq (sids : List ℕ) : hkList sids =
    if sids.length < 256 ∧ ∀ sid ∈ sids, sid < 256 then
      some (listOctets (fun sid => [UInt8.ofNat sid]) sids)
    else none := by
  have hflat : (sids.map fun sid => [UInt8.ofNat sid]).flatten = sids.map UInt8.ofNat := by
    induction sids with
    | nil => rfl
    | cons sid sids ih => rw [List.map_cons, List.flatten_cons, ih, List.map_cons]; rfl
  rw [hkList, toOctets_eq, toOctets_eq, listOctets, hflat]
  by_cases hcount : sids.length < 256
  · by_cases hsids : ∀ sid ∈ sids, sid < 256
    · simp [hcount, if_pos hsids]
    · simp [hcount, if_neg hsids]
  · simp [hcount]

theorem eventList_eq (ids : List ℕ) : eventList ids =
    if ids.length < 256 ∧ ∀ id ∈ ids, id < 65536 then some (listOctets bigEndian2 ids)
    else none := by
  have hlisted : ids.mapM toBytes2 =
      if ∀ id ∈ ids, id < 65536 then some (ids.map bigEndian2) else none :=
    mapM_ite bigEndian2 ids
  rw [eventList, toOctets_eq, hlisted, listOctets]
  by_cases hcount : ids.length < 256
  · by_cases hids : ∀ id ∈ ids, id < 65536
    · simp [hcount, if_pos hids]
    · simp [hcount, if_neg hids]
  · simp [hcount]

theorem setMode_eq (mode : ℕ) : setMode mode =
    if mode < 256 then some [1, UInt8.ofNat mode] else none := by
  rw [setMode, toOctets_eq]
  by_cases hmode : mode < 256
  · simp [hmode, perform, toOctets_eq]
  · simp [hmode]

theorem setHeater_eq (on : Bool) : setHeater on = some [2, on.toUInt8] := by
  cases on <;> rfl

theorem bigEndian2_eq {v : ℕ} (h : v < 65536) : bigEndian2 v = pusPutU16 (UInt16.ofNat v) := by
  rw [pusPutU16_eq, UInt16.toNat_ofNat', Nat.mod_eq_of_lt h]

theorem injectTemperature_eq (dc : ℤ) : injectTemperature dc =
    if -32768 ≤ dc ∧ dc < 32768 then some (3 :: pusPutI16 (Int16.ofInt dc)) else none := by
  have hword : (Int16.ofInt dc).toUInt16.toNat = (dc % 65536).toNat := BitVec.toNat_ofInt dc
  rw [injectTemperature, packSigned2, pusPutI16, pusPutU16_eq, hword]
  by_cases hrange : -32768 ≤ dc ∧ dc < 32768
  · rw [if_pos hrange, if_pos hrange]
    rfl
  · rw [if_neg hrange, if_neg hrange]
    rfl

theorem pack4_eq (v : ℕ) : pack4 v =
    if v < 4294967296 then some (pusPutU32 (UInt32.ofNat v)) else none := by
  rw [pack4]
  split
  · rename_i hv
    have hword : (UInt32.ofNat v).toNat = v := by
      rw [UInt32.toNat_ofNat']
      exact Nat.mod_eq_of_lt hv
    congr 1
    simp only [bigEndian2, pusPutU32, List.cons_append, List.nil_append, List.cons.injEq, and_true,
      ← UInt8.toNat_inj, BigEndian.toNat_octet32 _ 24 (by decide),
      BigEndian.toNat_octet32 _ 16 (by decide), BigEndian.toNat_octet32 _ 8 (by decide),
      BigEndian.toNat_low32, hword, UInt8.toNat_ofNat', UInt32.reduceToNat]
    omega
  · rfl

theorem setTime_eq (coarse fine : ℕ) : setTime coarse fine =
    if coarse < 4294967296 ∧ fine < 65536 then
      some (5 :: (pusPutU32 (UInt32.ofNat coarse) ++ pusPutU16 (UInt16.ofNat fine)))
    else none := by
  rw [setTime, pack4_eq, toBytes2]
  by_cases hcoarse : coarse < 4294967296
  · by_cases hfine : fine < 65536
    · rw [if_pos hcoarse, if_pos hfine, if_pos ⟨hcoarse, hfine⟩, bigEndian2_eq hfine]
      rfl
    · rw [if_pos hcoarse, if_neg hfine, if_neg fun h => hfine h.2]
      rfl
  · have hneither : ¬(coarse < 4294967296 ∧ fine < 65536) := fun h => hcoarse h.1
    rw [if_neg hcoarse, if_neg hneither]
    rfl

end ObswPus.Ground
