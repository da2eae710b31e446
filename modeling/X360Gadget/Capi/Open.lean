import X360Gadget.Capi.Calls
import X360Gadget.Session.Hardware
import X360Gadget.Udc

/-!
# Opening and closing a receiver

`x360_open` reads its arguments and then makes a transport. `OpenOutcome` lists
what it can leave: the descriptors as they were, a receiver that owns the
descriptor it added, or a descriptor that nothing owns.
-/

namespace X360Gadget.Capi

open X360Gadget.Descriptors X360Gadget.Kernel X360Gadget.Session X360Gadget.Std

variable {K : Type}

/-- A C string, without its terminator. -/
structure CString where
  bytes : List UInt8
  terminated : 0 ∉ bytes
deriving DecidableEq

/-- The text of a C string that holds valid UTF-8. -/
def CString.toStr (c : CString) : Option String := String.fromUTF8? ⟨c.bytes.toArray⟩

/-- What one `x360_open` meets: the result of `detect_udc`, the replies to its
calls, and the kernel its threads start on. -/
structure OpenEnvironment (K : Type) where
  udc : Option String
  replies : OpenReplies
  kernel : K

/-! ## The arguments -/

section Arguments

variable (udc : Option String) (numSlots : Int32) (driver device : Option CString)

/-- NULL selects the first controller of the system. -/
def driverStr : Option String :=
  match driver with
  | none => udc
  | some name => name.toStr

/-- NULL repeats the driver's name. -/
def deviceStr (driverStr : String) : Option String :=
  match device with
  | none => some driverStr
  | some name => name.toStr

/-- What `x360_open` passes to the transport, if its arguments allow it. -/
def openArguments : Option (ConfigDescriptorSet × String × String) :=
  match ConfigDescriptorSet.new (asU8 numSlots) with
  | .error _ => none
  | .ok config =>
      match driverStr udc driver with
      | none => none
      | some driver =>
          match deviceStr device driver with
          | none => none
          | some device => some (config, driver, device)

end Arguments

section Calls

variable (env : OpenEnvironment K) (numSlots : Int32) (driver device : Option CString)

/-- Open a receiver; NULL on any failure. -/
def x360Open : Method (Finset Int32) Empty (Option (WirelessReceiver (RawGadgetTransport K))) :=
  fun fds =>
    match openArguments env.udc numSlots driver device with
    | none => .ok (.ok none, fds)
    | some (config, driver, device) =>
        match RawGadgetTransport.new env.replies config driver device env.kernel fds with
        | .ok (.ok transport, fds) => .ok (.ok (some (.new config transport)), fds)
        | .ok (.error _, fds) => .ok (.ok none, fds)
        | .error panic => .error panic

/-- Close a receiver. -/
def x360Close (handle : Option (WirelessReceiver (RawGadgetTransport K))) (fds : Finset Int32) :
    Finset Int32 :=
  match handle with
  | none => fds
  | some receiver => receiver.transport.drop fds

/-! ## What an opening leaves -/

/-- `INIT`, `RUN` and the start of the ep0 thread succeed. -/
def Starts (replies : OpenReplies) (fd : Int32) (driver device : String) : Prop :=
  ¬(replies (.init fd (.new driver device usbSpeedHigh))).rv < 0 ∧
    ¬(replies (.run fd)).rv < 0 ∧ ¬(replies (.spawnEp0 fd)).rv < 0

/-- Once the arguments are read and the descriptor is obtained, the rest succeeds. -/
def OpensCleanly : Prop :=
  ∀ config driverName deviceName,
    openArguments env.udc numSlots driver device = some (config, driverName, deviceName) →
      ObtainsFd env.replies → Starts env.replies (env.replies .device).rv driverName deviceName

/-- What `x360_open` returns and the descriptors it leaves. -/
inductive OpenOutcome (fds : Finset Int32) :
    Option (WirelessReceiver (RawGadgetTransport K)) → Finset Int32 → Prop where
  | refused (after : Finset Int32) (clean : OpensCleanly env numSlots driver device)
      (kept : FreshFd env.replies fds → after = fds) : OpenOutcome fds none after
  | abandoned (unclean : ¬OpensCleanly env numSlots driver device)
      (opened : ¬(env.replies .device).rv < 0) :
      OpenOutcome fds none (insert (env.replies .device).rv fds)
  | opened (config : ConfigDescriptorSet)
      (accepted : ConfigDescriptorSet.new (asU8 numSlots) = .ok config)
      (clean : OpensCleanly env numSlots driver device)
      (opened : ¬(env.replies .device).rv < 0) :
      OpenOutcome fds (some (.new config (.start config (env.replies .device).rv env.kernel)))
        (insert (env.replies .device).rv fds)

end Calls

/-- The arguments of a transport hold the configuration for the slot count. -/
theorem accepted_of_openArguments {udc : Option String} {numSlots : Int32}
    {driver device : Option CString} {config : ConfigDescriptorSet} {driverName deviceName : String}
    (arguments : openArguments udc numSlots driver device = some (config, driverName, deviceName)) :
    ConfigDescriptorSet.new (asU8 numSlots) = .ok config := by
  unfold openArguments at arguments
  cases accepted : ConfigDescriptorSet.new (asU8 numSlots) with
  | error error =>
      rw [accepted] at arguments
      cases arguments
  | ok built =>
      rw [accepted] at arguments
      dsimp only at arguments
      split at arguments
      · cases arguments
      · split at arguments
        · cases arguments
        · cases arguments
          rfl

section New

variable {replies : OpenReplies} {driverName deviceName : String} (config : ConfigDescriptorSet)
  (kernel : K) (fds : Finset Int32)

/-- Once started, the transport is returned with its descriptor. -/
theorem new_of_starts (obtains : ObtainsFd replies)
    (starts : Starts replies (replies .device).rv driverName deviceName) :
    RawGadgetTransport.new replies config driverName deviceName kernel fds =
      .ok (.ok (.start config (replies .device).rv kernel), insert (replies .device).rv fds) := by
  obtain ⟨bound, ran, spawned⟩ := starts
  simp only [RawGadgetTransport.new, rawGadgetInit, rawGadgetRun, spawnEp0]
  rw [Method.andThen_of_ok (rawGadgetOpenNonblock_of_obtains obtains),
    Method.andThen_of_ok (checked_of_nonneg bound), Method.andThen_of_ok (checked_of_nonneg ran),
    Method.andThen_of_ok (checked_of_nonneg spawned)]
  rfl

/-- A failure after that returns early and leaves the descriptor. -/
theorem new_of_not_starts (obtains : ObtainsFd replies)
    (failed : ¬Starts replies (replies .device).rv driverName deviceName) : ∃ errno,
    RawGadgetTransport.new replies config driverName deviceName kernel fds =
      .ok (.error errno, insert (replies .device).rv fds) := by
  simp only [RawGadgetTransport.new, rawGadgetInit, rawGadgetRun, spawnEp0]
  rw [Method.andThen_of_ok (rawGadgetOpenNonblock_of_obtains obtains)]
  by_cases bound : (replies (.init (replies .device).rv
      (.new driverName deviceName usbSpeedHigh))).rv < 0
  · exact ⟨_, Method.andThen_of_error (checked_of_neg bound)⟩
  · rw [Method.andThen_of_ok (checked_of_nonneg bound)]
    by_cases ran : (replies (.run (replies .device).rv)).rv < 0
    · exact ⟨_, Method.andThen_of_error (checked_of_neg ran)⟩
    · rw [Method.andThen_of_ok (checked_of_nonneg ran)]
      by_cases spawned : (replies (.spawnEp0 (replies .device).rv)).rv < 0
      · exact ⟨_, Method.andThen_of_error (checked_of_neg spawned)⟩
      · exact absurd ⟨bound, ran, spawned⟩ failed

end New

/-- Whatever happens, `x360_open` returns, with one of the listed outcomes. -/
theorem x360Open_outcome (env : OpenEnvironment K) (numSlots : Int32)
    (driver device : Option CString) (fds : Finset Int32) : ∃ handle after,
    x360Open env numSlots driver device fds = .ok (.ok handle, after) ∧
      OpenOutcome env numSlots driver device fds handle after := by
  rw [x360Open]
  cases arguments : openArguments env.udc numSlots driver device with
  | none =>
      refine ⟨none, fds, rfl, .refused fds ?_ fun _ => rfl⟩
      intro config driverName deviceName same
      cases arguments.symm.trans same
  | some found =>
      obtain ⟨config, driverName, deviceName⟩ := found
      dsimp only
      by_cases obtains : ObtainsFd env.replies
      · have opened := obtains.1
        by_cases starts : Starts env.replies (env.replies .device).rv driverName deviceName
        · rw [new_of_starts config env.kernel fds obtains starts]
          refine ⟨_, _, rfl, .opened config (accepted_of_openArguments arguments) ?_ opened⟩
          intro config driverName deviceName same obtains
          cases arguments.symm.trans same
          exact starts
        · obtain ⟨errno, failed⟩ := new_of_not_starts config env.kernel fds obtains starts
          rw [failed]
          refine ⟨_, _, rfl, .abandoned ?_ opened⟩
          intro clean
          exact starts (clean config driverName deviceName arguments obtains)
      · obtain ⟨errno, after, failed, kept⟩ := rawGadgetOpenNonblock_of_not_obtains obtains fds
        rw [RawGadgetTransport.new, Method.andThen_of_error failed]
        refine ⟨none, after, rfl, .refused after ?_ kept⟩
        intro config driverName deviceName same obtained
        exact absurd obtained obtains

/-- Where the class directory has only links, no receiver opens without a name. -/
theorem x360Open_of_no_directory {entries : List Entry} (links : directories entries = [])
    (replies : OpenReplies) (kernel : K) (numSlots : Int32) (device : Option CString)
    (fds : Finset Int32) :
    x360Open ⟨(detectUdcIn (readable entries)).toOption, replies, kernel⟩ numSlots none device fds =
      .ok (.ok none, fds) := by
  have undetected : (detectUdcIn (readable entries)).toOption = none := by
    rw [detectUdcIn_eq_notFound_iff.mpr links]
    rfl
  have refused : openArguments none numSlots none device = none := by
    unfold openArguments driverStr
    cases ConfigDescriptorSet.new (asU8 numSlots) <;> rfl
  simp only [x360Open, undetected, refused]

/-! ## The names on their way to the kernel -/

/-- The text of a C string has its bytes. -/
theorem CString.bytes_of_toStr {c : CString} {name : String} (text : c.toStr = some name) :
    name.toUTF8.data.toList = c.bytes := by
  unfold CString.toStr String.fromUTF8? at text
  split at text
  · cases text
    rfl
  · cases text

/-- The bytes of a name that was passed, or of the one that NULL stands for. -/
def bytesFor (passed : Option CString) (default : String) : List UInt8 :=
  match passed with
  | some name => name.bytes
  | none => default.toUTF8.data.toList

/-- The names go into the fixed fields of `INIT` and are read there as C strings. The
kernel reads what the caller passed, or the detected name for a missing driver and the
driver's for a missing device, exactly when each has at most 127 bytes and the detected
one, which comes from no C string, holds no zero. -/
theorem names_told_iff {udc : Option String} {numSlots : Int32} {driver device : Option CString}
    {config : ConfigDescriptorSet} {driverName deviceName : String}
    (arguments : openArguments udc numSlots driver device =
      some (config, driverName, deviceName)) :
    (UsbRawInit.new driverName deviceName usbSpeedHigh).driverName.cString =
          bytesFor driver driverName ∧
        (UsbRawInit.new driverName deviceName usbSpeedHigh).deviceName.cString =
          bytesFor device driverName ↔
      (bytesFor driver driverName).length ≤ 127 ∧ (bytesFor device driverName).length ≤ 127 ∧
        (driver = none → 0 ∉ driverName.toUTF8.data.toList) := by
  have told : ∀ {c : CString} {name : String}, c.toStr = some name →
      ((udcName name).cString = c.bytes ↔ c.bytes.length ≤ 127) := by
    intro c name text
    have bytes := CString.bytes_of_toStr text
    rw [← bytes, cString_udcName_eq_iff, bytes]
    exact and_iff_left c.terminated
  unfold openArguments at arguments
  split at arguments
  · cases arguments
  · split at arguments
    · cases arguments
    · next name driverText =>
        split at arguments
        · cases arguments
        · next other deviceText =>
            cases arguments
            have first : (udcName driverName).cString = bytesFor driver driverName ↔
                (bytesFor driver driverName).length ≤ 127 ∧
                  (driver = none → 0 ∉ driverName.toUTF8.data.toList) := by
              cases driver with
              | none =>
                  rw [forall_prop_of_true rfl]
                  exact cString_udcName_eq_iff
              | some driver => exact (told driverText).trans (and_iff_left nofun).symm
            have second : (udcName deviceName).cString = bytesFor device driverName ↔
                (bytesFor device driverName).length ≤ 127 ∧
                  (device = none → 0 ∉ driverName.toUTF8.data.toList) := by
              cases device with
              | none =>
                  cases deviceText
                  rw [forall_prop_of_true rfl]
                  exact cString_udcName_eq_iff
              | some device => exact (told deviceText).trans (and_iff_left nofun).symm
            -- A name that was passed ends at its zero.
            have passed : driver ≠ none → 0 ∉ driverName.toUTF8.data.toList := by
              intro named
              cases driver with
              | none => exact absurd rfl named
              | some driver =>
                  rw [CString.bytes_of_toStr driverText]
                  exact driver.terminated
            refine (and_congr first second).trans ⟨?_, ?_⟩
            · rintro ⟨⟨fits, detected⟩, also, -⟩
              exact ⟨fits, also, detected⟩
            · rintro ⟨fits, also, detected⟩
              exact ⟨⟨fits, detected⟩, also, fun _ => (em (driver = none)).elim detected passed⟩

/-- The driver is detected, and the name of the device has 130 bytes and is cut short. -/
theorem names_told_iff_long : ∃ (device : CString) (config : ConfigDescriptorSet)
    (deviceName : String), openArguments (some "20980000.usb") 4 none (some device) =
        some (config, "20980000.usb", deviceName) ∧
      ¬((UsbRawInit.new "20980000.usb" deviceName usbSpeedHigh).driverName.cString =
          "20980000.usb".toUTF8.data.toList ∧
        (UsbRawInit.new "20980000.usb" deviceName usbSpeedHigh).deviceName.cString =
          device.bytes) := by
  have text : CString.toStr ⟨List.replicate 130 97, by decide⟩ =
      some (String.ofList (List.replicate 130 'a')) := by
    decide +kernel
  obtain ⟨config, accepted⟩ : ∃ config, ConfigDescriptorSet.new (asU8 4) = .ok config := ⟨_, rfl⟩
  have arguments : openArguments (some "20980000.usb") 4 none
      (some ⟨List.replicate 130 97, by decide⟩) =
        some (config, "20980000.usb", String.ofList (List.replicate 130 'a')) := by
    simp only [openArguments, accepted, driverStr, deviceStr, text]
  refine ⟨_, _, _, arguments, fun told => ?_⟩
  have fits : (List.replicate 130 (97 : UInt8)).length ≤ 127 :=
    ((names_told_iff arguments).mp told).2.1
  rw [List.length_replicate] at fits
  exact absurd fits (by decide)

end X360Gadget.Capi
