import ObswPus.Commanding.Effect

/-! # A telecommand in a larger buffer

The runner hands over its whole buffer with the length of the telecommand. What an earlier
telecommand has left behind that length is never looked at.
-/
namespace ObswPus.Commanding
open Flight Downlink Codec

section Front
variable {octets : List UInt8} (rest : List UInt8) {i : ℕ}

theorem getD_append_front (hi : i < octets.length) :
    (octets ++ rest).getD i 0 = octets.getD i 0 := by
  rw [List.getD_eq_getElem?_getD, List.getD_eq_getElem?_getD, List.getElem?_append_left hi]

theorem pusGetU16_append_front (hi : i + 1 < octets.length) :
    pusGetU16 ((octets ++ rest).drop i) = pusGetU16 (octets.drop i) := by
  have hdrop : (octets ++ rest).drop i = octets.drop i ++ rest :=
    List.drop_append_of_le_length (by omega)
  have hlen : 1 < (octets.drop i).length := by
    rw [List.length_drop]
    omega
  rw [hdrop, pusGetU16, getD_append_front rest (by omega), getD_append_front rest hlen, pusGetU16]

theorem pusGetU32_append_front (hlen : 3 < octets.length) :
    pusGetU32 (octets ++ rest) = pusGetU32 octets := by
  rw [pusGetU32, getD_append_front rest (by omega), getD_append_front rest (by omega),
    getD_append_front rest (by omega), getD_append_front rest hlen, pusGetU32]

theorem crc16Ccitt_append_front {n : ℕ} (hn : n ≤ octets.length) :
    crc16Ccitt (some (octets ++ rest)) n = crc16Ccitt (some octets) n := by
  simp only [crc16Ccitt, List.take_append_of_le_length hn]

/-- The application data pointer reaches into the rest of the buffer; the declared length does
not. -/
def inBuffer (tc : PusTc) (rest : List UInt8) : PusTc :=
  { tc with appData := tc.appData.map (· ++ rest) }

theorem unpackedHeader_append_front (hlen : 6 ≤ octets.length) :
    unpackedHeader (octets ++ rest) = unpackedHeader octets := by
  have hword0 : pusGetU16 (octets ++ rest) = pusGetU16 octets :=
    pusGetU16_append_front rest (i := 0) (by omega)
  have hword1 : pusGetU16 ((octets ++ rest).drop 2) = pusGetU16 (octets.drop 2) :=
    pusGetU16_append_front rest (by omega)
  have hword2 : pusGetU16 ((octets ++ rest).drop 4) = pusGetU16 (octets.drop 4) :=
    pusGetU16_append_front rest (by omega)
  simp only [unpackedHeader, hword0, hword1, hword2]

theorem pusTcParse_append (octets rest : List UInt8) :
    pusTcParse (some (octets ++ rest)) octets.length =
      (pusTcParse (some octets) octets.length).map (inBuffer · rest) := by
  have hsix : ccsdsPrimaryHeaderLen = 6 := rfl
  have hmin : pusTcMinLen = 13 := rfl
  unfold pusTcParse
  by_cases hshort : octets.length < pusTcMinLen
  · simp only [if_pos hshort]
    rfl
  simp only [if_neg hshort]
  have hlen : ccsdsPrimaryHeaderLen ≤ octets.length := by omega
  rw [ccsdsUnpackPrimary_eq (octets ++ rest) hlen, ccsdsUnpackPrimary_eq octets hlen,
    unpackedHeader_append_front rest hlen]
  dsimp only
  by_cases htotal : ccsdsTotalLength (some (unpackedHeader octets)) ≠ octets.length
  · simp only [if_pos htotal]
    rfl
  simp only [if_neg htotal]
  rw [not_not] at htotal
  rw [htotal, crc16Ccitt_append_front rest (Nat.sub_le _ _),
    pusGetU16_append_front rest (i := octets.length - ccsdsCrcLen) (by
      have hcrc : ccsdsCrcLen = 2 := rfl
      omega),
    getD_append_front rest (i := ccsdsPrimaryHeaderLen) (by omega),
    getD_append_front rest (i := ccsdsPrimaryHeaderLen + 1) (by omega),
    getD_append_front rest (i := ccsdsPrimaryHeaderLen + 2) (by omega),
    pusGetU16_append_front rest (i := ccsdsPrimaryHeaderLen + 3) (by omega),
    pusGetU32_append_front rest (by omega)]
  have hdata : (octets ++ rest).drop (ccsdsPrimaryHeaderLen + pusTcSecHeaderLen) =
      octets.drop (ccsdsPrimaryHeaderLen + pusTcSecHeaderLen) ++ rest :=
    List.drop_append_of_le_length (by
      have hfive : pusTcSecHeaderLen = 5 := rfl
      omega)
  rw [hdata]
  split_ifs <;> rfl

end Front

section Services
variable (s : Obsw) {tc tc' : PusTc} (hsubtype : tc.serviceSubtype = tc'.serviceSubtype)
  (hlen : tc.appDataLen = tc'.appDataLen) (hdata : applicationData tc = applicationData tc')

theorem svc03ApplyFrom_congr (enable oneShot : Bool) {indices : List ℕ}
    (h : ∀ i ∈ indices, sidAt tc i = sidAt tc' i) :
    svc03ApplyFrom tc enable oneShot s indices = svc03ApplyFrom tc' enable oneShot s indices := by
  induction indices generalizing s with
  | nil => rfl
  | cons i indices ih =>
    have hsid : pusGetU8 (tc.appDataAt (1 + i)) = pusGetU8 (tc'.appDataAt (1 + i)) :=
      h i List.mem_cons_self
    have hrest (m : Obsw) := ih m fun j hj => h j (List.mem_cons_of_mem i hj)
    simp only [svc03ApplyFrom, hsid, hrest]

include hlen hdata

theorem svc03ApplyList_congr (enable oneShot : Bool) :
    svc03ApplyList s tc enable oneShot = svc03ApplyList s tc' enable oneShot := by
  rw [svc03ApplyList_eq, svc03ApplyList_eq, checkSids_congr hlen hdata]
  rcases hcheck : checkSids tc' with st | sids
  · rfl
  have hsize : tc'.appDataLen = 1 + listCount tc' * 1 := by
    unfold checkSids checkList at hcheck
    split_ifs at hcheck with hbad
    omega
  rw [listCount_congr hlen hdata (by omega)]
  refine svc03ApplyFrom_congr s enable oneShot fun i hi => octet_congr hlen hdata ?_
  have hi' := List.mem_range.mp hi
  omega

theorem svc05SetEnabled_congr (value : Bool) :
    svc05SetEnabled s tc value = svc05SetEnabled s tc' value := by
  rw [svc05SetEnabled_eq, svc05SetEnabled_eq, checkEvents_congr hlen hdata]

include hsubtype

theorem svc08Handle_congr : svc08Handle s (some tc) = svc08Handle s (some tc') := by
  simp only [svc08Handle, hsubtype]
  refine ite_congr rfl (fun _ => rfl) fun _ => ?_
  refine ite_congr (by rw [hlen]) (fun _ => rfl) fun hfid => ?_
  have harg : tc.appDataLen - 1 = tc'.appDataLen - 1 := by rw [hlen]
  have hshort : ¬tc.appDataLen < 1 := by rwa [hlen]
  rw [octet_congr hlen hdata (i := 0) (by omega), harg]
  refine ite_congr rfl (fun _ => ite_congr rfl (fun _ => rfl) fun hone => ?_) fun _ => ?_
  · rw [octet_congr hlen hdata (i := 1) (by omega)]
  refine ite_congr rfl (fun _ => ite_congr rfl (fun _ => rfl) fun hone => ?_) fun _ => ?_
  · rw [octet_congr hlen hdata (i := 1) (by omega)]
  refine ite_congr rfl (fun _ => ite_congr rfl (fun _ => rfl) fun htwo => ?_) fun _ => ?_
  · rw [pusGetI16, word16_congr hlen hdata (i := 1) (by omega), pusGetI16]
  refine ite_congr rfl (fun _ => ite_congr rfl (fun _ => rfl) fun hsix => ?_) fun _ => rfl
  rw [word32_congr hlen hdata (i := 1) (by omega), word16_congr hlen hdata (i := 5) (by omega)]

theorem obcRoute_congr (hservice : tc.serviceType = tc'.serviceType) :
    obcRoute s tc = obcRoute s tc' := by
  simp only [obcRoute, hservice]
  refine ite_congr rfl (fun _ => ?_) fun _ => ?_
  · simp only [svc03Handle, hsubtype, svc03ApplyList_congr s hlen hdata]
  refine ite_congr rfl (fun _ => ?_) fun _ => ?_
  · simp only [svc05Handle, hsubtype, svc05SetEnabled_congr s hlen hdata]
  refine ite_congr rfl (fun _ => svc08Handle_congr s hsubtype hlen hdata) fun _ => ?_
  simp only [svc17Handle, hsubtype, hlen]

end Services

theorem applicationData_inBuffer {octets : List UInt8} {tc : PusTc}
    (hparse : pusTcParse (some octets) octets.length = .ok tc) (rest : List UInt8) :
    applicationData (inBuffer tc rest) = applicationData tc := by
  have hlen := length_applicationData hparse
  unfold applicationData at hlen ⊢
  cases hdata : tc.appData with
  | none => simp only [inBuffer, hdata, Option.map_none]
  | some data =>
    rw [hdata, Option.getD_some, List.length_take] at hlen
    simp only [inBuffer, hdata, Option.map_some, Option.getD_some]
    exact List.take_append_of_le_length (by omega)

theorem svc01RejectRaw_append (s : Obsw) (octets rest : List UInt8) (st : PusStatus) :
    svc01RejectRaw s (some (octets ++ rest)) octets.length st =
      svc01RejectRaw s (some octets) octets.length st := by
  simp only [svc01RejectRaw]
  split
  · rename_i hfour
    rw [pusGetU32_append_front rest (by omega)]
  · rfl

/-- Of the buffer it is given, `obc_process_tc` sees the telecommand alone: whatever follows it,
status and state are those of a buffer that ends with the telecommand. -/
theorem obcProcessTc_append (s : Obsw) (octets rest : List UInt8) :
    obcProcessTc s (some (octets ++ rest)) octets.length =
      obcProcessTc s (some octets) octets.length := by
  have happend := pusTcParse_append octets rest
  rcases hparse : pusTcParse (some octets) octets.length with st | tc
  · have hbuffer : pusTcParse (some (octets ++ rest)) octets.length = .error st := by
      rw [happend, hparse]
      rfl
    simp only [obcProcessTc, hparse, hbuffer, svc01RejectRaw_append]
  · have hbuffer : pusTcParse (some (octets ++ rest)) octets.length = .ok (inBuffer tc rest) := by
      rw [happend, hparse]
      rfl
    have hroute (m : Obsw) : obcRoute m (inBuffer tc rest) = obcRoute m tc :=
      obcRoute_congr m rfl rfl (applicationData_inBuffer hparse rest) rfl
    simp only [obcProcessTc, hparse, hbuffer, hroute]
    rfl

theorem obcProcessTc_take (s : Obsw) {buf : List UInt8} {len : ℕ} (hlen : len ≤ buf.length) :
    obcProcessTc s (some buf) len =
      obcProcessTc s (some (buf.take len)) (buf.take len).length := by
  have happend := obcProcessTc_append s (buf.take len) (buf.drop len)
  rw [List.take_append_drop] at happend
  rw [← happend, List.length_take_of_le hlen]

/-- What an earlier telecommand has left in the receive buffer never matters: two buffers that begin
with the same octets give the same status and the same state, report by report. -/
theorem stale_octets_never_matter (s : Obsw) {buf buf' : List UInt8} {len : ℕ}
    (hlen : len ≤ buf.length) (hlen' : len ≤ buf'.length) (hsame : buf.take len = buf'.take len) :
    obcProcessTc s (some buf) len = obcProcessTc s (some buf') len := by
  rw [obcProcessTc_take s hlen, obcProcessTc_take s hlen', hsame]

/-- The telecommand for NOMINAL mode, behind it what a longer one has left. -/
theorem stale_octets_never_matter_nominal :
    obcProcessTc default (some (nominalTelecommand ++ [9, 9, 9])) 15 =
      obcProcessTc default (some (nominalTelecommand ++ [0])) 15 :=
  stale_octets_never_matter default (by decide) (by decide) (by decide)

end ObswPus.Commanding
