import X360Gadget.Legacy.Interfaces
import X360Gadget.Std.Stopping

/-!
# The endpoint survey of the C gadget

On a CONNECT event `process_eps_info` asserts, for each endpoint the kernel
lists, that both endpoints of the interface with the same index have a non-zero
number. The sixteenth interface has endpoint number zero. `assign_ep_address`
can still repair its IN endpoint, and nothing repairs its OUT endpoint, so the
survey returns exactly for listings of at most fifteen endpoints.
-/

namespace X360Gadget.Legacy

open X360Gadget.Kernel X360Gadget.Std

/-! ## The listing of the kernel -/

abbrev usbRawEpsNumMax : Nat := 30
abbrev usbRawEpAddrAny : UInt32 := 0xFF
abbrev usbEndpointXferBulk : UInt8 := 0x02

/-- The capabilities that the survey reads. -/
structure UsbRawEpCaps where
  typeBulk : Bool
  typeInt : Bool
  dirIn : Bool
  dirOut : Bool
deriving DecidableEq, Repr

/-- The limit that the survey reads. -/
structure UsbRawEpLimits where
  maxpacketLimit : UInt16
deriving DecidableEq, Repr

/-- One endpoint of the controller. -/
structure UsbRawEpInfo where
  addr : UInt32
  caps : UsbRawEpCaps
  limits : UsbRawEpLimits
deriving DecidableEq, Repr

/-- What `EPS_INFO` fills in: the entries up to the returned count. -/
structure UsbRawEpsInfo where
  eps : List UsbRawEpInfo
  bounded : eps.length ≤ usbRawEpsNumMax
deriving DecidableEq, Repr

/-! ## Descriptor accessors -/

/-- Whether an endpoint is one that the host reads. -/
def usbEndpointDirIn (ep : UsbEndpointDescriptor) : Bool := ep.bEndpointAddress &&& 0x80 = usbDirIn

/-- Whether an endpoint is one that the host writes. -/
def usbEndpointDirOut (ep : UsbEndpointDescriptor) : Bool :=
  ep.bEndpointAddress &&& 0x80 = usbDirOut

/-- The largest packet of an endpoint. -/
def usbEndpointMaxp (ep : UsbEndpointDescriptor) : UInt16 := ep.wMaxPacketSize &&& 0x07FF

/-- The transfer type of an endpoint. -/
def usbEndpointType (ep : UsbEndpointDescriptor) : UInt8 := ep.bmAttributes &&& 0x03

/-! ## The survey -/

/-- The assertions on the way. -/
inductive Assertion where
  /-- `assert(false)` in the default case of `assign_ep_address`. -/
  | endpointType
  /-- `assert(in_addr != 0)`. -/
  | inAddr
  /-- `assert(out_addr != 0)`. -/
  | outAddr
deriving DecidableEq, Repr

/-- The `switch` over the transfer type. -/
def supportsType (info : UsbRawEpInfo) (ep : UsbEndpointDescriptor) : Except Assertion Bool :=
  if usbEndpointType ep = usbEndpointXferBulk then .ok info.caps.typeBulk
  else if usbEndpointType ep = usbEndpointXferInt then .ok info.caps.typeInt
  else .error .endpointType

/-- Fill in an address whose number is still zero; `addr` is the static counter
for controllers that accept any address. -/
def assignEpAddress (info : UsbRawEpInfo) (ep : UsbEndpointDescriptor) (addr : Nat) :
    Except Assertion (Bool × UsbEndpointDescriptor × Nat) :=
  if usbEndpointNum ep ≠ 0 then .ok (false, ep, addr) -- Already assigned.
  else if usbEndpointDirIn ep ∧ ¬info.caps.dirIn then .ok (false, ep, addr)
  else if usbEndpointDirOut ep ∧ ¬info.caps.dirOut then .ok (false, ep, addr)
  else if usbEndpointMaxp ep > info.limits.maxpacketLimit then .ok (false, ep, addr)
  else do
    let supported ← supportsType info ep
    if ¬supported then
      .ok (false, ep, addr)
    else if info.addr = usbRawEpAddrAny then
      let bEndpointAddress := ep.bEndpointAddress ||| UInt8.ofNat addr
      .ok (true, { ep with bEndpointAddress }, addr + 1)
    else
      let bEndpointAddress := ep.bEndpointAddress ||| info.addr.toUInt8
      .ok (true, { ep with bEndpointAddress }, addr)

/-- One round of the second loop of `process_eps_info`. -/
def surveyEndpoint (info : UsbRawEpInfo) (i addr : Nat) : Except Assertion Nat := do
  let currentIf := getIfX i
  let (_, epIn, addr) ← assignEpAddress info currentIf.epIn addr
  if usbEndpointNum epIn = 0 then .error .inAddr
  else if usbEndpointNum currentIf.epOut = 0 then .error .outAddr
  else .ok addr

/-- The rounds from index `i` on. -/
def surveyLoop : List UsbRawEpInfo → Nat → Nat → Except Assertion Nat
  | [], _, addr => .ok addr
  | info :: rest, i, addr => do
      let addr ← surveyEndpoint info i addr
      surveyLoop rest (i + 1) addr

/-- The survey on a listing; it returns the static counter. -/
def processEpsInfo (info : UsbRawEpsInfo) (addr : Nat) : Except Assertion Nat :=
  surveyLoop info.eps 0 addr

/-! ## One round -/

section Round

variable {info : UsbRawEpInfo} {ep : UsbEndpointDescriptor} {i addr : Nat}

/-- An address that is assigned is left alone. -/
theorem assignEpAddress_assigned (assigned : usbEndpointNum ep ≠ 0) :
    assignEpAddress info ep addr = .ok (false, ep, addr) :=
  if_pos assigned

/-- The default case of the `switch` is not reached by an interrupt endpoint. -/
theorem supportsType_interrupt (interrupt : usbEndpointType ep = usbEndpointXferInt) :
    supportsType info ep = .ok info.caps.typeInt := by
  have notBulk : usbEndpointType ep ≠ usbEndpointXferBulk := by
    rw [interrupt]
    decide
  rw [supportsType, if_neg notBulk, if_pos interrupt]

/-- On an interrupt endpoint `assign_ep_address` returns. -/
theorem assignEpAddress_interrupt (info : UsbRawEpInfo) (addr : Nat)
    (interrupt : usbEndpointType ep = usbEndpointXferInt) :
    Ends (fun _ => False) (fun _ => True) (assignEpAddress info ep addr) := by
  have switched : Ends (fun _ => False) (fun _ => True) (supportsType info ep) := by
    rw [supportsType_interrupt interrupt]
    exact trivial
  refine Ends.ite ?_ (Ends.ite ?_ (Ends.ite ?_ (Ends.ite ?_ (Ends.bind switched ?_))))
  · exact trivial
  · exact trivial
  · exact trivial
  · exact trivial
  · intro supported _
    refine Ends.ite ?_ (Ends.ite ?_ ?_)
    · exact trivial
    · exact trivial
    · exact trivial

/-- Among the first thirty interfaces only the sixteenth has endpoint number zero. -/
theorem usbEndpointNum_eq_zero_iff (inRange : i < 30) :
    usbEndpointNum (getIfX i).epIn = 0 ↔ i = 15 := by
  rw [← UInt8.toNat_inj, toNat_usbEndpointNum_epIn]
  change (i + 1) % 16 = 0 ↔ i = 15
  omega

/-- A round at an interface with a number passes and changes nothing. -/
theorem surveyEndpoint_ok (number : usbEndpointNum (getIfX i).epIn ≠ 0) :
    surveyEndpoint info i addr = .ok addr := by
  have outNumber : usbEndpointNum (getIfX i).epOut ≠ 0 := by
    rw [usbEndpointNum_epOut]
    exact number
  simp only [surveyEndpoint, assignEpAddress_assigned number]
  change (if _ then _ else _) = _
  rw [if_neg number, if_neg outNumber]

/-- A round at an interface without a number fails one of its two assertions. -/
theorem surveyEndpoint_stops (info : UsbRawEpInfo) (addr : Nat)
    (none : usbEndpointNum (getIfX i).epIn = 0) :
    Ends (· ≠ .endpointType) (fun _ => False) (surveyEndpoint info i addr) := by
  have outNone : usbEndpointNum (getIfX i).epOut = 0 := by
    rw [usbEndpointNum_epOut]
    exact none
  have interrupt : usbEndpointType (getIfX i).epIn = usbEndpointXferInt :=
    show usbEndpointXferInt &&& 0x03 = usbEndpointXferInt by decide
  have assigns : Ends (· ≠ .endpointType) (fun _ => True)
      (assignEpAddress info (getIfX i).epIn addr) :=
    Ends.weaken (assignEpAddress_interrupt info addr interrupt) (fun _ => False.elim) fun _ => id
  refine Ends.bind assigns ?_
  rintro ⟨assigned, epIn, next⟩ -
  refine Ends.ite ?_ ?_
  · exact Assertion.noConfusion
  · rw [if_pos outNone]
    exact Assertion.noConfusion

end Round

/-! ## All rounds -/

/-- The rounds pass as long as they stay below the sixteenth interface. -/
theorem surveyLoop_ok {eps : List UsbRawEpInfo} {i : Nat} (few : i + eps.length ≤ 15)
    (addr : Nat) : surveyLoop eps i addr = .ok addr := by
  induction eps generalizing i with
  | nil => rfl
  | cons info rest ih =>
      rw [List.length_cons] at few
      have number : usbEndpointNum (getIfX i).epIn ≠ 0 := by
        rw [ne_eq, usbEndpointNum_eq_zero_iff (by omega)]
        omega
      have later : i + 1 + rest.length ≤ 15 := by omega
      rw [surveyLoop, surveyEndpoint_ok number]
      exact ih later

/-- Rounds that reach the sixteenth interface stop there. -/
theorem surveyLoop_stops {eps : List UsbRawEpInfo} {i : Nat} (before : i ≤ 15)
    (reached : 15 < i + eps.length) (addr : Nat) :
    Ends (· ≠ .endpointType) (fun _ => False) (surveyLoop eps i addr) := by
  induction eps generalizing i with
  | nil =>
      rw [List.length_nil] at reached
      omega
  | cons info rest ih =>
      rw [List.length_cons] at reached
      by_cases here : i = 15
      · have none := (usbEndpointNum_eq_zero_iff (by omega)).mpr here
        exact Ends.bind (surveyEndpoint_stops info addr none) fun _ => False.elim
      · have number : usbEndpointNum (getIfX i).epIn ≠ 0 := by
          rw [ne_eq, usbEndpointNum_eq_zero_iff (by omega)]
          exact here
        rw [surveyLoop, surveyEndpoint_ok number]
        exact ih (by omega) (by omega)

/-- The survey returns, so that none of its assertions failed. -/
def SurveyPasses (info : UsbRawEpsInfo) (addr : Nat) : Prop :=
  ∃ next, processEpsInfo info addr = .ok next

/-- The default case of `assign_ep_address` is never reached. -/
theorem processEpsInfo_ends (info : UsbRawEpsInfo) (addr : Nat) :
    Ends (· ≠ .endpointType) (fun _ => True) (processEpsInfo info addr) := by
  by_cases few : info.eps.length ≤ 15
  · rw [processEpsInfo, surveyLoop_ok (by omega)]
    exact trivial
  · exact Ends.weaken (surveyLoop_stops (Nat.zero_le 15) (by omega) addr) (fun _ => id)
      fun _ => False.elim

/-- The survey passes its assertions exactly when at most fifteen endpoints are
listed, whatever they can do and wherever the static counter stands. -/
theorem surveyPasses_iff (info : UsbRawEpsInfo) (addr : Nat) :
    SurveyPasses info addr ↔ info.eps.length ≤ 15 := by
  constructor
  · rintro ⟨next, returned⟩
    apply Nat.le_of_not_lt
    intro many
    have stops := surveyLoop_stops (Nat.zero_le 15) (by omega : 15 < 0 + info.eps.length) addr
    rw [processEpsInfo] at returned
    rw [returned] at stops
    exact stops
  · intro few
    exact ⟨addr, surveyLoop_ok (by omega) addr⟩

/-- A controller with sixteen endpoints that can do everything at any address. -/
def sixteenEndpoints : UsbRawEpsInfo where
  eps := List.replicate 16
    { addr := usbRawEpAddrAny
      caps := { typeBulk := true, typeInt := true, dirIn := true, dirOut := true }
      limits := { maxpacketLimit := 1024 } }
  bounded := by decide

/-- There the IN endpoint of the sixteenth interface is repaired and the OUT
endpoint is not. -/
theorem not_surveyPasses_sixteen : ¬SurveyPasses sixteenEndpoints 1 := by
  have failed : processEpsInfo sixteenEndpoints 1 = .error .outAddr := by decide
  rintro ⟨next, returned⟩
  cases failed.symm.trans returned

end X360Gadget.Legacy
