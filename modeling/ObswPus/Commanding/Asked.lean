import ObswPus.Commanding.Request

/-! # What a request says about its telecommand

The inversion of `readRequest`: for each request the service, the subtype and, for the
functions, the identifier and the length of the telecommand that asks for it.
-/
namespace ObswPus.Commanding
open Flight

/-- A function management telecommand for one function with its number of argument octets. -/
structure AsksFunction (tc : PusTc) (fid : UInt8) (argLen : ℕ) : Prop where
  service : tc.serviceType = pusServiceFunction
  subtype : tc.serviceSubtype = pusSt08Perform
  fid : pusGetU8 (tc.appDataAt 0) = fid
  length : tc.appDataLen = 1 + argLen

inductive Asked (tc : PusTc) : Request → Prop where
  | switchHk {sids : List UInt8} (on : Bool) (hservice : tc.serviceType = pusServiceHousekeeping)
      (hsubtype : tc.serviceSubtype = if on then pusSt03Enable else pusSt03Disable)
      (hsids : checkSids tc = .ok sids) : Asked tc (.switchHk sids on)
  | oneShotHk {sids : List UInt8} (hservice : tc.serviceType = pusServiceHousekeeping)
      (hsubtype : tc.serviceSubtype = pusSt03OneShot) (hsids : checkSids tc = .ok sids) :
      Asked tc (.oneShotHk sids)
  | switchEvents {ids : List UInt16} (on : Bool) (hservice : tc.serviceType = pusServiceEvent)
      (hsubtype : tc.serviceSubtype = if on then pusSt05Enable else pusSt05Disable)
      (hids : checkEvents tc = .ok ids) : Asked tc (.switchEvents ids on)
  | setMode {target : ObcMode} (h : AsksFunction tc obcFidSetMode 1) : Asked tc (.setMode target)
  | setHeater {on : Bool} (h : AsksFunction tc obcFidSetHeater 1) : Asked tc (.setHeater on)
  | injectTemperature {valueDc : Int16} (h : AsksFunction tc obcFidInjectTemp 2) :
      Asked tc (.injectTemperature valueDc)
  | setTime {coarse : UInt32} {fine : UInt16} (h : AsksFunction tc obcFidSetTime 6) :
      Asked tc (.setTime coarse fine)
  | resetCounters (h : AsksFunction tc obcFidResetCounters 0) : Asked tc .resetCounters
  | areYouAlive (hservice : tc.serviceType = pusServiceTest)
      (hsubtype : tc.serviceSubtype = pusSt17AreYouAlive) (hlen : tc.appDataLen = 0) :
      Asked tc .areYouAlive

section Read
variable {tc : PusTc} {request : Request}

theorem map_eq_ok {α : Type} {checked : Except PusStatus α} {f : α → Request}
    (h : checked.map f = .ok request) : ∃ a, checked = .ok a ∧ f a = request := by
  rcases checked with st | a
  · cases h
  · exact ⟨a, rfl, Except.ok.inj h⟩

theorem asked_of_readHousekeeping (hservice : tc.serviceType = pusServiceHousekeeping)
    (h : readHousekeeping tc = .ok request) : Asked tc request := by
  unfold readHousekeeping at h
  split_ifs at h with henable hdisable honeShot <;> obtain ⟨sids, hsids, rfl⟩ := map_eq_ok h
  · exact Asked.switchHk true hservice henable hsids
  · exact Asked.switchHk false hservice hdisable hsids
  · exact Asked.oneShotHk hservice honeShot hsids

theorem asked_of_readEvent (hservice : tc.serviceType = pusServiceEvent)
    (h : readEvent tc = .ok request) : Asked tc request := by
  unfold readEvent at h
  split_ifs at h with hdisable henable <;> obtain ⟨ids, hids, rfl⟩ := map_eq_ok h
  · exact Asked.switchEvents false hservice hdisable hids
  · exact Asked.switchEvents true hservice henable hids

theorem asksFunction_of_readArguments {fid : UInt8} {argLen : ℕ}
    {read : Except PusStatus Request} (hservice : tc.serviceType = pusServiceFunction)
    (hsubtype : ¬tc.serviceSubtype ≠ pusSt08Perform) (hlen : ¬tc.appDataLen < 1)
    (hfid : pusGetU8 (tc.appDataAt 0) = fid) (h : readArguments tc argLen read = .ok request) :
    AsksFunction tc fid argLen ∧ read = .ok request := by
  unfold readArguments at h
  split_ifs at h with harg
  exact ⟨⟨hservice, not_not.mp hsubtype, hfid, by omega⟩, h⟩

theorem asked_of_readFunction (hservice : tc.serviceType = pusServiceFunction)
    (h : readFunction tc = .ok request) : Asked tc request := by
  unfold readFunction at h
  simp only at h
  split_ifs at h with hsubtype hlen hmode hheater hinject htime hreset
  · obtain ⟨hasks, hread⟩ := asksFunction_of_readArguments hservice hsubtype hlen hmode h
    unfold readSetMode at hread
    split at hread <;> cases hread
    exact Asked.setMode hasks
  · obtain ⟨hasks, hread⟩ := asksFunction_of_readArguments hservice hsubtype hlen hheater h
    unfold readSetHeater at hread
    split at hread <;> cases hread
    exact Asked.setHeater hasks
  · obtain ⟨hasks, hread⟩ := asksFunction_of_readArguments hservice hsubtype hlen hinject h
    cases hread
    exact Asked.injectTemperature hasks
  · obtain ⟨hasks, hread⟩ := asksFunction_of_readArguments hservice hsubtype hlen htime h
    cases hread
    exact Asked.setTime hasks
  · obtain ⟨hasks, hread⟩ := asksFunction_of_readArguments hservice hsubtype hlen hreset h
    cases hread
    exact Asked.resetCounters hasks

theorem asked_of_readTest (hservice : tc.serviceType = pusServiceTest)
    (h : readTest tc = .ok request) : Asked tc request := by
  unfold readTest at h
  split_ifs at h with hsubtype hlen
  cases h
  exact Asked.areYouAlive hservice (not_not.mp hsubtype) (not_not.mp hlen)

/-- A request is read from the one service that knows it. -/
theorem asked_of_readRequest (h : readRequest tc = .ok request) : Asked tc request := by
  unfold readRequest at h
  split_ifs at h with hhousekeeping hevent hfunction htest
  · exact asked_of_readHousekeeping hhousekeeping h
  · exact asked_of_readEvent hevent h
  · exact asked_of_readFunction hfunction h
  · exact asked_of_readTest htest h

end Read

end ObswPus.Commanding
