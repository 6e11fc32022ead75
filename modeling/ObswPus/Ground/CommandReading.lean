import ObswPus.Commanding.IdentifierLists
import ObswPus.Ground.Agreement
import ObswPus.Ground.Database

/-! # Commands as the flight software reads them

From the octets that the mission database builds back to what was named: identifier lists
of any length, function identifiers with their arguments, and the packets around them.
-/
namespace ObswPus.Ground
open Flight Codec Commanding Library

theorem take_drop_flatten {α : Type} {pieces : List (List α)} {width : ℕ}
    (hwidth : ∀ piece ∈ pieces, piece.length = width) {i : ℕ} (hi : i < pieces.length) :
    (pieces.flatten.drop (i * width)).take width = pieces[i] := by
  induction pieces generalizing i with
  | nil => exact absurd hi (Nat.not_lt_zero i)
  | cons piece pieces ih =>
    have hpiece := hwidth piece List.mem_cons_self
    rw [List.flatten_cons]
    cases i with
    | zero => rw [Nat.zero_mul, List.drop_zero, List.take_left' hpiece, List.getElem_cons_zero]
    | succ i =>
      have hlen : (i + 1) * width = piece.length + i * width := by
        rw [hpiece, Nat.add_mul, Nat.one_mul, Nat.add_comm]
      rw [hlen, List.drop_length_add_append, List.getElem_cons_succ]
      exact ih (fun p hp => hwidth p (List.mem_cons_of_mem _ hp)) (Nat.lt_of_succ_lt_succ hi)

section Listed
variable {f : ListFormat} {enc : ℕ → List UInt8} {ids : List ℕ} (hcount : ids.length < 256)
  (hwidth : ∀ id ∈ ids, (enc id).length = f.width)
  (hvalue : ∀ id ∈ ids, BigEndian.value (enc id) = id)

include hcount in
theorem announcedCount_listOctets : announcedCount (listOctets enc ids) = ids.length :=
  toNat_ofNat_octet hcount

include hwidth in
theorem length_listOctets : (listOctets enc ids).length = 1 + ids.length * f.width := by
  have hlengths : (ids.map enc).map List.length = List.replicate ids.length f.width := by
    rw [List.map_map, List.eq_replicate_iff]
    refine ⟨List.length_map _, fun n hn => ?_⟩
    obtain ⟨id, hid, rfl⟩ := List.mem_map.mp hn
    exact hwidth id hid
  rw [listOctets, List.length_cons, List.length_flatten, hlengths, List.sum_replicate, smul_eq_mul]
  exact Nat.add_comm _ _

include hcount hwidth hvalue

/-- What is listed is read back. -/
theorem identifiers_listOctets : f.identifiers (listOctets enc ids) = ids := by
  rw [ListFormat.identifiers, announcedCount_listOctets hcount]
  refine List.ext_getElem (by simp) fun i hi hi' => ?_
  have hpieces : ∀ piece ∈ ids.map enc, piece.length = f.width := by
    intro piece hpiece
    obtain ⟨id, hid, rfl⟩ := List.mem_map.mp hpiece
    exact hwidth id hid
  have hpiece := take_drop_flatten hpieces (i := i) (by rwa [List.length_map])
  rw [List.getElem_map] at hpiece
  rw [List.getElem_map, List.getElem_range, listOctets, Nat.add_comm 1, List.drop_succ_cons, hpiece]
  exact hvalue _ (List.getElem_mem hi')

theorem status_listOctets : f.status (listOctets enc ids) =
    if ids = [] then .badParameter
    else if ∃ id ∈ ids, ¬(1 ≤ id ∧ id ≤ f.maxId) then f.unknown
    else .ok := by
  have hlen := length_listOctets hwidth
  have hannounced : announcedCount (listOctets enc ids) = ids.length :=
    announcedCount_listOctets hcount
  have hsize : ¬(listOctets enc ids = [] ∨
      (listOctets enc ids).length ≠ 1 + announcedCount (listOctets enc ids) * f.width) := by
    rw [hannounced, hlen]
    exact fun h => h.elim (fun h => nomatch h) fun h => h rfl
  have hempty : ids.length = 0 ↔ ids = [] := List.length_eq_zero_iff
  rw [ListFormat.status, if_neg hsize, hannounced, identifiers_listOctets hcount hwidth hvalue]
  simp only [hempty]

end Listed

section Read
variable {tc : PusTc}

theorem readRequest_carries {d : List UInt8} (h : Carries tc d) :
    readRequest tc = readRequest { tc with appData := some d, appDataLen := d.length } := by
  refine readRequest_congr h.length ?_ rfl rfl
  rw [h.data, applicationData, Option.getD_some, List.take_length]

theorem map_of_status {α : Type} {f : ListFormat} (hunknown : f.unknown ≠ .ok) {ids : List ℕ}
    {st : PusStatus}
    (hstatus : st = if ids = [] then .badParameter
      else if ∃ id ∈ ids, ¬(1 ≤ id ∧ id ≤ f.maxId) then f.unknown
      else .ok) {listed : α} (request : α → Request) :
    (if st = .ok then .ok listed else .error st : Except PusStatus α).map request =
      Command.asksList f ids (request listed) := by
  rw [Command.asksList, hstatus]
  by_cases hempty : ids = []
  · rw [if_pos hempty, if_pos hempty]
    rfl
  · by_cases hbad : ∃ id ∈ ids, ¬(1 ≤ id ∧ id ≤ f.maxId)
    · rw [if_neg hempty, if_neg hempty, if_pos hbad, if_pos hbad, if_neg hunknown]
      rfl
    · rw [if_neg hempty, if_neg hempty, if_neg hbad, if_neg hbad]
      rfl

theorem checkSids_listed {sids : List ℕ} (hcount : sids.length < 256)
    (hsids : ∀ sid ∈ sids, sid < 256)
    (h : Carries tc (listOctets (fun sid => [UInt8.ofNat sid]) sids))
    (request : List UInt8 → Request) :
    (checkSids tc).map request =
      Command.asksList hkFormat sids (request (sids.map UInt8.ofNat)) := by
  have hwidth : ∀ sid ∈ sids, [UInt8.ofNat sid].length = hkFormat.width := fun _ _ => rfl
  have hvalue : ∀ sid ∈ sids, BigEndian.value [UInt8.ofNat sid] = sid := fun sid hsid => by
    rw [BigEndian.value_singleton, toNat_ofNat_octet (hsids sid hsid)]
  have hlisted := h.map_listedSids (by
    rw [announcedCount_listOctets hcount]
    exact length_listOctets hwidth)
  rw [identifiers_listOctets hcount hwidth hvalue] at hlisted
  have hids : listedSids tc = sids.map UInt8.ofNat := by
    rw [← hlisted, List.map_map]
    exact (List.map_id'' (fun sid => UInt8.ofNat_toNat) _).symm
  rw [h.checkSids, hids]
  exact map_of_status (by decide) (status_listOctets hcount hwidth hvalue) request

theorem checkEvents_listed {ids : List ℕ} (hcount : ids.length < 256)
    (hids : ∀ id ∈ ids, id < 65536) (h : Carries tc (listOctets bigEndian2 ids))
    (request : List UInt16 → Request) :
    (checkEvents tc).map request =
      Command.asksList eventFormat ids (request (ids.map UInt16.ofNat)) := by
  have hwidth : ∀ id ∈ ids, (bigEndian2 id).length = eventFormat.width := fun _ _ => rfl
  have hvalue : ∀ id ∈ ids, BigEndian.value (bigEndian2 id) = id := fun id hid => by
    have hlt := hids id hid
    rw [bigEndian2, BigEndian.value_pair, toNat_ofNat_octet (by omega),
      toNat_ofNat_octet (by omega)]
    omega
  have hlisted := h.map_listedEvents (by
    rw [announcedCount_listOctets hcount]
    exact length_listOctets hwidth)
  rw [identifiers_listOctets hcount hwidth hvalue] at hlisted
  have hevents : listedEvents tc = ids.map UInt16.ofNat := by
    rw [← hlisted, List.map_map]
    exact (List.map_id'' (fun id => UInt16.ofNat_toNat) _).symm
  rw [h.checkEvents, hevents]
  exact map_of_status (by decide) (status_listOctets hcount hwidth hvalue) request

/-- The function that the first octet names is read from the octets behind it. -/
theorem readRequest_perform {fid : UInt8} {args : List UInt8} (h : Carries tc (fid :: args))
    (hservice : tc.serviceType = pusServiceFunction)
    (hsubtype : tc.serviceSubtype = pusSt08Perform) :
    readRequest tc =
      let carried := { tc with appData := some (fid :: args), appDataLen := args.length + 1 }
      if fid = obcFidSetMode then readArguments carried 1 (readSetMode carried)
      else if fid = obcFidSetHeater then readArguments carried 1 (readSetHeater carried)
      else if fid = obcFidInjectTemp then
        readArguments carried 2 (.ok (.injectTemperature (pusGetI16 args)))
      else if fid = obcFidSetTime then
        readArguments carried 6 (.ok (.setTime (pusGetU32 args) (pusGetU16 (args.drop 4))))
      else if fid = obcFidResetCounters then readArguments carried 0 (.ok .resetCounters)
      else .error .unknownFunction := by
  have hother : pusServiceFunction ≠ pusServiceHousekeeping ∧
      pusServiceFunction ≠ pusServiceEvent := by decide
  rw [readRequest_carries h]
  simp only [readRequest, hservice, if_neg hother.1, if_neg hother.2, if_true, readFunction,
    hsubtype]
  rfl

theorem readSetMode_eq (tc : PusTc) : readSetMode tc =
    (ObcMode.ofCode (pusGetU8 (tc.appDataAt 1)).toUInt32).elim (.error .badParameter)
      fun target => .ok (.setMode target) := by
  unfold readSetMode
  cases ObcMode.ofCode (pusGetU8 (tc.appDataAt 1)).toUInt32 <;> rfl

theorem fields_inv {fits : Prop} [Decidable fits] {built : Option (List UInt8)}
    {octets d : List UInt8} {sv st service subtype : ℕ}
    (hbuilt : built = if fits then some octets else none)
    (hfields : built.map (sv, st, ·) = some (service, subtype, d)) :
    fits ∧ sv = service ∧ st = subtype ∧ octets = d := by
  by_cases hfits : fits
  · rw [hbuilt, if_pos hfits] at hfields
    cases hfields
    exact ⟨hfits, rfl, rfl, rfl⟩
  · rw [hbuilt, if_neg hfits] at hfields
    cases hfields

theorem readRequest_hkList {sids : List ℕ}
    (hfits : sids.length < 256 ∧ ∀ sid ∈ sids, sid < 256)
    (h : Carries tc (listOctets (fun sid => [UInt8.ofNat sid]) sids))
    (hservice : tc.serviceType = pusServiceHousekeeping) (request : List UInt8 → Request)
    (hread : readHousekeeping tc = (checkSids tc).map request) :
    readRequest tc = Command.asksList hkFormat sids (request (sids.map UInt8.ofNat)) := by
  rw [readRequest, if_pos hservice, hread]
  exact checkSids_listed hfits.1 hfits.2 h request

theorem readRequest_eventList {ids : List ℕ}
    (hfits : ids.length < 256 ∧ ∀ id ∈ ids, id < 65536)
    (h : Carries tc (listOctets bigEndian2 ids))
    (hservice : tc.serviceType = pusServiceEvent) (request : List UInt16 → Request)
    (hread : readEvent tc = (checkEvents tc).map request) :
    readRequest tc = Command.asksList eventFormat ids (request (ids.map UInt16.ofNat)) := by
  have hother : tc.serviceType ≠ pusServiceHousekeeping := by
    rw [hservice]
    decide
  rw [readRequest, if_neg hother, if_pos hservice, hread]
  exact checkEvents_listed hfits.1 hfits.2 h request

section Perform
variable (hservice : tc.serviceType = pusServiceFunction)
  (hsubtype : tc.serviceSubtype = pusSt08Perform)
include hservice hsubtype

theorem readRequest_setMode {mode : ℕ} (hmode : mode < 256)
    (h : Carries tc [1, UInt8.ofNat mode]) : readRequest tc = (Command.setMode mode).asks := by
  have hcode : (UInt8.ofNat mode).toUInt32.toNat = mode := by
    rw [UInt8.toNat_toUInt32, toNat_ofNat_octet hmode]
  have hsafe : (UInt8.ofNat mode).toUInt32 = 0 ↔ mode = 0 := by
    rw [← UInt32.toNat_inj, hcode]
    rfl
  have hnominal : (UInt8.ofNat mode).toUInt32 = 1 ↔ mode = 1 := by
    rw [← UInt32.toNat_inj, hcode]
    rfl
  have hread : readRequest tc =
      (ObcMode.ofCode (UInt8.ofNat mode).toUInt32).elim (.error .badParameter)
        fun target => .ok (.setMode target) :=
    (readRequest_perform h hservice hsubtype).trans (readSetMode_eq _)
  simp only [hread, ObcMode.ofCode, hsafe, hnominal, Command.asks]
  split_ifs <;> rfl

theorem readRequest_injectTemperature {dc : ℤ} (h : Carries tc (3 :: pusPutI16 (Int16.ofInt dc))) :
    readRequest tc = (Command.injectTemperature dc).asks := by
  have hword := pusGetU16_pusPutU16 (Int16.ofInt dc).toUInt16 []
  rw [List.append_nil] at hword
  have hvalue : pusGetI16 (pusPutI16 (Int16.ofInt dc)) = Int16.ofInt dc := by
    rw [pusGetI16, pusPutI16, hword]
    rfl
  have hread : readRequest tc =
      .ok (.injectTemperature (pusGetI16 (pusPutI16 (Int16.ofInt dc)))) :=
    readRequest_perform h hservice hsubtype
  rw [hread, hvalue, Command.asks]

theorem readRequest_setTime {coarse fine : ℕ}
    (h : Carries tc (5 :: (pusPutU32 (UInt32.ofNat coarse) ++ pusPutU16 (UInt16.ofNat fine)))) :
    readRequest tc = (Command.setTime coarse fine).asks := by
  have hfine := pusGetU16_pusPutU16 (UInt16.ofNat fine) []
  rw [List.append_nil] at hfine
  rw [readRequest_perform h hservice hsubtype, pusGetU32_pusPutU32,
    List.drop_left' (length_pusPutU32 _), hfine]
  rfl

end Perform

theorem readRequest_fields {c : Command} {service subtype : ℕ} {d : List UInt8}
    (hfields : c.fields = some (service, subtype, d)) (h : Carries tc d)
    (hservice : tc.serviceType = UInt8.ofNat service)
    (hsubtype : tc.serviceSubtype = UInt8.ofNat subtype) : readRequest tc = c.asks := by
  cases c with
  | switchHk sids on =>
    obtain ⟨hfits, rfl, rfl, rfl⟩ := fields_inv (hkList_eq sids) hfields
    refine readRequest_hkList hfits h hservice (.switchHk · on) ?_
    rw [readHousekeeping, hsubtype]
    cases on <;> rfl
  | oneShotHk sids =>
    obtain ⟨hfits, rfl, rfl, rfl⟩ := fields_inv (hkList_eq sids) hfields
    refine readRequest_hkList hfits h hservice .oneShotHk ?_
    rw [readHousekeeping, hsubtype]
    rfl
  | switchEvents ids on =>
    obtain ⟨hfits, rfl, rfl, rfl⟩ := fields_inv (eventList_eq ids) hfields
    refine readRequest_eventList hfits h hservice (.switchEvents · on) ?_
    rw [readEvent, hsubtype]
    cases on <;> rfl
  | setMode mode =>
    obtain ⟨hmode, rfl, rfl, rfl⟩ := fields_inv (setMode_eq mode) hfields
    exact readRequest_setMode hservice hsubtype hmode h
  | setHeater on =>
    rw [Command.fields, setHeater_eq] at hfields
    cases hfields
    rw [readRequest_perform h hservice hsubtype]
    cases on <;> rfl
  | injectTemperature dc =>
    obtain ⟨-, rfl, rfl, rfl⟩ := fields_inv (injectTemperature_eq dc) hfields
    exact readRequest_injectTemperature hservice hsubtype h
  | setTime coarse fine =>
    obtain ⟨-, rfl, rfl, rfl⟩ := fields_inv (setTime_eq coarse fine) hfields
    exact readRequest_setTime hservice hsubtype h
  | resetCounters =>
    cases hfields
    exact readRequest_perform h hservice hsubtype
  | areYouAlive =>
    cases hfields
    rw [readRequest, hservice, readTest, hsubtype, h.length]
    rfl

end Read

/-- The arguments are those that the builders raise no exception for. -/
def Command.Fits : Command → Prop
  | switchHk sids _ | oneShotHk sids => sids.length < 256 ∧ ∀ sid ∈ sids, sid < 256
  | switchEvents ids _ => ids.length < 256 ∧ ∀ id ∈ ids, id < 65536
  | setMode mode => mode < 256
  | injectTemperature dc => -32768 ≤ dc ∧ dc < 32768
  | setTime coarse fine => coarse < 4294967296 ∧ fine < 65536
  | setHeater _ | resetCounters | areYouAlive => True

theorem fields_of_not_fits {c : Command} (h : ¬c.Fits) : c.fields = none := by
  cases c with
  | switchHk sids on => exact congrArg (Option.map _) ((hkList_eq sids).trans (if_neg h))
  | oneShotHk sids => exact congrArg (Option.map _) ((hkList_eq sids).trans (if_neg h))
  | switchEvents ids on => exact congrArg (Option.map _) ((eventList_eq ids).trans (if_neg h))
  | setMode mode => exact congrArg (Option.map _) ((setMode_eq mode).trans (if_neg h))
  | injectTemperature dc =>
    exact congrArg (Option.map _) ((injectTemperature_eq dc).trans (if_neg h))
  | setTime coarse fine => exact congrArg (Option.map _) ((setTime_eq coarse fine).trans (if_neg h))
  | setHeater | resetCounters | areYouAlive => exact absurd trivial h

/-- The fields fit their places in the packet. -/
structure Placed (service subtype : ℕ) (data : List UInt8) : Prop where
  service : service < 256
  subtype : subtype < 256
  data : data.length ≤ 511

theorem placed_hkList {sids : List ℕ} (hcount : sids.length < 256) {subtype : ℕ}
    (hsubtype : subtype < 256) :
    Placed svcHousekeeping subtype (listOctets (fun sid => [UInt8.ofNat sid]) sids) := by
  have hlen : (listOctets (fun sid => [UInt8.ofNat sid]) sids).length = 1 + sids.length * 1 :=
    length_listOctets (f := hkFormat) fun _ _ => rfl
  exact ⟨by decide, hsubtype, by omega⟩

theorem placed_eventList {ids : List ℕ} (hcount : ids.length < 256) {subtype : ℕ}
    (hsubtype : subtype < 256) : Placed svcEvent subtype (listOctets bigEndian2 ids) := by
  have hlen : (listOctets bigEndian2 ids).length = 1 + ids.length * 2 :=
    length_listOctets (f := eventFormat) fun _ _ => rfl
  exact ⟨by decide, hsubtype, by omega⟩

theorem placed_perform {data : List UInt8} (hdata : data.length ≤ 7) :
    Placed svcFunction stFnPerform data := ⟨by decide, by decide, by omega⟩

theorem fields_of_fits {c : Command} (h : c.Fits) : ∃ service subtype data,
    c.fields = some (service, subtype, data) ∧ Placed service subtype data := by
  cases c with
  | switchHk sids on =>
    exact ⟨_, _, _, congrArg (Option.map _) ((hkList_eq sids).trans (if_pos h)),
      placed_hkList h.1 (by cases on <;> decide)⟩
  | oneShotHk sids =>
    exact ⟨_, _, _, congrArg (Option.map _) ((hkList_eq sids).trans (if_pos h)),
      placed_hkList h.1 (by decide)⟩
  | switchEvents ids on =>
    exact ⟨_, _, _, congrArg (Option.map _) ((eventList_eq ids).trans (if_pos h)),
      placed_eventList h.1 (by cases on <;> decide)⟩
  | setMode mode =>
    exact ⟨_, _, _, congrArg (Option.map _) ((setMode_eq mode).trans (if_pos h)),
      placed_perform (Nat.le_add_left 2 5)⟩
  | setHeater on =>
    exact ⟨_, _, _, congrArg (Option.map _) (setHeater_eq on),
      placed_perform (Nat.le_add_left 2 5)⟩
  | injectTemperature dc =>
    exact ⟨_, _, _, congrArg (Option.map _) ((injectTemperature_eq dc).trans (if_pos h)),
      placed_perform (Nat.le_add_left 3 4)⟩
  | setTime coarse fine =>
    exact ⟨_, _, _, congrArg (Option.map _) ((setTime_eq coarse fine).trans (if_pos h)),
      placed_perform le_rfl⟩
  | resetCounters => exact ⟨_, _, _, rfl, placed_perform (Nat.le_add_left 1 6)⟩
  | areYouAlive => exact ⟨_, _, _, rfl, by decide, by decide, Nat.zero_le _⟩

/-- What the flight software makes of the packet of a command. -/
structure Understood (c : Command) (ack seqCount : ℕ) (octets : List UInt8) (tc : PusTc) :
    Prop where
  accepted : pusTcParse (some octets) octets.length = .ok tc
  reads : readRequest tc = c.asks
  ack : tc.ackFlags.toNat = ack
  seqCount : tc.prim.seqCount.toNat = seqCount

section Packet
variable {c : Command} {ack seqCount : ℕ} (hack : ack < 16) (hseq : seqCount < 16384)
include hack hseq

theorem understood_of_fits (h : c.Fits) :
    ∃ a, c.packet ack seqCount = some (builtPacket a) ∧ a.data.length ≤ 511 ∧
      lengthField a = a.data.length + 6 ∧
      Understood c ack seqCount (builtPacket a) (decodedTc (builtPacket a)) := by
  obtain ⟨service, subtype, data, hfields, hplaced⟩ := fields_of_fits h
  let a : TcArguments :=
    { service := service, subtype := subtype, data := data, ack := ack, seqCount := seqCount }
  have hdata := hplaced.data
  have hsource : a.sourceId < 65536 := show 0x0101 < 65536 by decide
  have hlength : lengthField a = a.data.length + 6 := Nat.mod_eq_of_lt (by
    change data.length + 6 < 65536
    omega)
  have hpass : firstFailing (builtPacket a) = .ok := by
    rw [firstFailing_builtPacket, if_neg (not_not.mpr hlength)]
    rfl
  have hdecodes : Decodes a (decodedTc (builtPacket a)) :=
    decodes_builtPacket ⟨hplaced.service, hplaced.subtype, hack, hseq⟩ hsource
  refine ⟨a, ?_, hdata, hlength, ?_, ?_, hdecodes.ack, hdecodes.seqCount⟩
  · rw [Command.packet, hfields]
    exact buildTc_eq a hsource
  · rw [pusTcParse_eq, if_pos hpass]
  · refine readRequest_fields hfields ⟨hdecodes.dataLen, hdecodes.data⟩ ?_ ?_
    · rw [← UInt8.toNat_inj, hdecodes.service, toNat_ofNat_octet hplaced.service]
    · rw [← UInt8.toNat_inj, hdecodes.subtype, toNat_ofNat_octet hplaced.subtype]

omit hack hseq in
theorem packet_of_not_fits (h : ¬c.Fits) : c.packet ack seqCount = none := by
  rw [Command.packet, fields_of_not_fits h]
  rfl

/-- The builders raise no exception exactly for arguments that fit; the packet is then accepted,
and the flight software reads from it the request that was named, or the failure code that refuses
it, with the acknowledgement flags and the sequence count that were given. -/
theorem command_understood :
    (c.Fits → ∃ octets tc, c.packet ack seqCount = some octets ∧
      Understood c ack seqCount octets tc) ∧
    (¬c.Fits → c.packet ack seqCount = none) := by
  refine ⟨fun h => ?_, packet_of_not_fits⟩
  obtain ⟨a, hpacket, -, -, hunderstood⟩ := understood_of_fits hack hseq h
  exact ⟨_, _, hpacket, hunderstood⟩

end Packet

theorem command_understood_nominal :
    ∃ octets tc, (Command.setMode 1).packet 9 0 = some octets ∧
      Understood (.setMode 1) 9 0 octets tc :=
  (command_understood (c := .setMode 1) (by decide) (by decide)).1 (show 1 < 256 by decide)

end ObswPus.Ground
