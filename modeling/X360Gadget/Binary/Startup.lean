import X360Gadget.Binary.Demo
import X360Gadget.Capi.Open
import X360Gadget.Std.Decimal

/-!
# From the command line to the loop

`main` reads its arguments, finds a controller if none is named, and opens the
transport; what fails on the way ends it with a panic. `startup_eq_ok_iff` says
exactly which command lines reach the loop and with what. A count that is no `u8` is
no error: the binary takes four slots.
-/

namespace X360Gadget.Binary

open X360Gadget.Capi X360Gadget.Descriptors X360Gadget.Kernel X360Gadget.Std

variable {K : Type}

/-! ## The arguments -/

/-- `str::parse` to a `u8`: one sign is allowed, a digit is needed. -/
def parseU8 (s : String) : Option UInt8 :=
  match s.toList with
  | [] => none
  | ['+'] => none
  | '+' :: digits => (Decimal.read 255 0 digits).map UInt8.ofNat
  | digits => (Decimal.read 255 0 digits).map UInt8.ofNat

/-- `starts_with('-')`. -/
def isOption (arg : String) : Bool := arg.toList.head? == some '-'

/-- The arguments after the program's name that are no options. -/
def positional (args : List String) : List String := args.tail.filter fun arg => !isOption arg

/-- What ends `main` before its loop. -/
inductive Refusal where
  /-- `args[1..]` of an empty list. -/
  | noProgram
  /-- "failed to detect UDC from /sys/class/udc". -/
  | noUdc
  /-- "invalid interface count (must be 1-4)". -/
  | interfaceCount (why : DescriptorError)
  /-- "failed to open /dev/raw-gadget (run as root?)". -/
  | transport (errno : Errno)
  /-- A panic while opening. -/
  | opening

/-- What the loop starts with. -/
structure Start (K : Type) where
  demoMode : Bool
  config : ConfigDescriptorSet
  main : Main K

/-- `main` up to its loop, given what it would read in `/sys/class/udc`, the replies to
the calls of the opening and the kernel that the threads meet. -/
def startup (args : List String) (sysClassUdc : Except Errno (List (Except Errno DirEntry)))
    (replies : OpenReplies) (kernel : K) (fds : Finset Int32) : Except Refusal (Start K) :=
  if args = [] then
    .error .noProgram
  else
    let positional := positional args
    let numInterfaces := (positional[0]?.bind parseU8).getD 4
    match positional[1]?.or (detectUdcIn sysClassUdc).toOption with
    | none => .error .noUdc
    | some driver =>
        let device := positional[2]?.getD driver
        match ConfigDescriptorSet.new numInterfaces with
        | .error why => .error (.interfaceCount why)
        | .ok config =>
            match (Session.RawGadgetTransport.new replies config driver device
              kernel).result fds with
            | some (.ok transport) => .ok {
                demoMode := args.any (· == "--demo")
                config
                main := .new config transport.fd kernel }
            | some (.error errno) => .error (.transport errno)
            | none => .error .opening

/-! ## What they ask for -/

/-- The text is a decimal of the number. -/
def Writes (text : String) (n : UInt8) : Prop :=
  ∃ digits, (text.toList = digits ∨ text.toList = '+' :: digits) ∧ digits ≠ [] ∧
    (∀ c ∈ digits, c.isDigit) ∧ Nat.ofDigitChars 10 digits 0 = n.toNat

/-- The command line asks for a number of slots and for the controller, or leaves it to
the first one listed. -/
structure Asks (args : List String) (sysClassUdc : Except Errno (List (Except Errno DirEntry)))
    (count : UInt8) (driver device : String) : Prop where
  program : args ≠ []
  slots : (∃ text, (positional args)[0]? = some text ∧ Writes text count) ∨
    (∀ text n, (positional args)[0]? = some text → ¬Writes text n) ∧ count = 4
  driverNamed : (positional args)[1]? = some driver ∨
    (positional args)[1]? = none ∧ detectUdcIn sysClassUdc = .ok driver
  deviceNamed : (positional args)[2]? = some device ∨
    (positional args)[2]? = none ∧ device = driver

/-- The digits are read as a byte when all of them are digits and write its value. -/
theorem map_read_eq_some_iff {digits : List Char} {n : UInt8} :
    (Decimal.read 255 0 digits).map UInt8.ofNat = some n ↔
      (∀ c ∈ digits, c.isDigit) ∧ Nat.ofDigitChars 10 digits 0 = n.toNat := by
  rw [Option.map_eq_some_iff]
  constructor
  · rintro ⟨value, read, rfl⟩
    obtain ⟨allDigits, rfl, within⟩ := (Decimal.read_eq_some_iff (Nat.zero_le 255)).mp read
    refine ⟨allDigits, ?_⟩
    rw [UInt8.toNat_ofNat']
    omega
  · rintro ⟨allDigits, value⟩
    have within := n.toNat_lt
    refine ⟨n.toNat, (Decimal.read_eq_some_iff (Nat.zero_le 255)).mpr ⟨allDigits, value, ?_⟩,
      UInt8.ofNat_toNat⟩
    omega

/-- `parseU8` accepts a text exactly when the text writes the byte it returns. -/
theorem parseU8_eq_some_iff {s : String} {n : UInt8} : parseU8 s = some n ↔ Writes s n := by
  unfold parseU8 Writes
  generalize s.toList = chars
  -- A sign is no digit, so what follows it is all that can be read.
  have sign : ∀ digits : List Char, (∀ c ∈ '+' :: digits, c.isDigit) → False := fun digits all =>
    absurd (all '+' List.mem_cons_self) (by decide)
  split
  · refine iff_of_false nofun ?_
    rintro ⟨digits, rfl | empty, some, -⟩
    · exact some rfl
    · cases empty
  · refine iff_of_false nofun ?_
    rintro ⟨digits, rfl | same, some, all, -⟩
    · exact sign [] all
    · obtain rfl : [] = digits := List.tail_eq_of_cons_eq same
      exact some rfl
  · next digits more =>
      rw [map_read_eq_some_iff]
      constructor
      · rintro ⟨all, value⟩
        refine ⟨digits, .inr rfl, ?_, all, value⟩
        rintro rfl
        exact more rfl
      · rintro ⟨digits', rfl | same, some, all, value⟩
        · exact absurd all (sign digits)
        · obtain rfl := List.tail_eq_of_cons_eq same
          exact ⟨all, value⟩
  · next chars' none single more =>
      rw [map_read_eq_some_iff]
      constructor
      · rintro ⟨all, value⟩
        exact ⟨_, .inl rfl, none, all, value⟩
      · rintro ⟨digits, rfl | signed, some, all, value⟩
        · exact ⟨all, value⟩
        · exact absurd signed (more digits)

/-- The number of slots is the one that the argument writes, and 4 when it writes none. -/
theorem slots_iff {arg : Option String} {count : UInt8} : (arg.bind parseU8).getD 4 = count ↔
    (∃ text, arg = some text ∧ Writes text count) ∨
      (∀ text n, arg = some text → ¬Writes text n) ∧ count = 4 := by
  cases arg with
  | none =>
      rw [Option.bind_none, Option.getD_none]
      constructor
      · rintro rfl
        exact .inr ⟨nofun, rfl⟩
      · rintro (⟨text, none, -⟩ | ⟨-, rfl⟩)
        · cases none
        · rfl
  | some text =>
      rw [Option.bind_some]
      cases parsed : parseU8 text with
      | none =>
          have nothing : ∀ n, ¬Writes text n := by
            intro n writes
            cases parsed.symm.trans (parseU8_eq_some_iff.mpr writes)
          rw [Option.getD_none]
          constructor
          · rintro rfl
            refine .inr ⟨?_, rfl⟩
            rintro _ n ⟨⟩
            exact nothing n
          · rintro (⟨_, ⟨⟩, writes⟩ | ⟨-, rfl⟩)
            · exact absurd writes (nothing count)
            · rfl
      | some n =>
          have writes := parseU8_eq_some_iff.mp parsed
          rw [Option.getD_some]
          constructor
          · rintro rfl
            exact .inl ⟨text, rfl, writes⟩
          · rintro (⟨_, ⟨⟩, also⟩ | ⟨none, -⟩)
            · exact Option.some.inj (parsed.symm.trans (parseU8_eq_some_iff.mpr also))
            · exact absurd writes (none text n rfl)

/-- The first of two sources that has a name. -/
theorem or_eq_some_iff {named found : Option String} {name : String} :
    named.or found = some name ↔ named = some name ∨ named = none ∧ found = some name := by
  cases named <;> simp

/-- A name with a default is the one given, or the default where none is given. -/
theorem getD_eq_iff {named : Option String} {default name : String} :
    named.getD default = name ↔ named = some name ∨ named = none ∧ name = default := by
  cases named <;> simp [eq_comm]

/-- Detection yields a name exactly when it succeeds with it. -/
theorem toOption_eq_some_iff {Error : Type} {found : Except Error String} {name : String} :
    found.toOption = some name ↔ found = .ok name := by
  cases found <;> simp [Except.toOption]

/-- What the arguments ask for, as `main` computes it. -/
theorem asks_iff {args : List String} {sysClassUdc : Except Errno (List (Except Errno DirEntry))}
    {count : UInt8} {driver device : String} : Asks args sysClassUdc count driver device ↔
      args ≠ [] ∧ ((positional args)[0]?.bind parseU8).getD 4 = count ∧
      (positional args)[1]?.or (detectUdcIn sysClassUdc).toOption = some driver ∧
      (positional args)[2]?.getD driver = device := by
  rw [slots_iff, or_eq_some_iff, getD_eq_iff, toOption_eq_some_iff]
  constructor
  · rintro ⟨program, slots, driverNamed, deviceNamed⟩
    exact ⟨program, slots, driverNamed, deviceNamed⟩
  · rintro ⟨program, slots, driverNamed, deviceNamed⟩
    exact ⟨program, slots, driverNamed, deviceNamed⟩

/-- The transport opens exactly when the kernel plays along. -/
theorem result_new_eq_ok_iff {replies : OpenReplies} {config : ConfigDescriptorSet}
    {driver device : String} {kernel : K} {fds : Finset Int32}
    {transport : Session.RawGadgetTransport K} :
    (Session.RawGadgetTransport.new replies config driver device kernel).result fds =
        some (.ok transport) ↔
      ObtainsFd replies ∧ Starts replies (replies .device).rv driver device ∧
        transport = .start config (replies .device).rv kernel := by
  by_cases obtains : ObtainsFd replies
  · by_cases starts : Starts replies (replies .device).rv driver device
    · rw [Method.result_of_eq_ok (new_of_starts config kernel fds obtains starts),
        and_iff_right obtains, and_iff_right starts, Option.some.injEq, Except.ok.injEq]
      exact eq_comm
    · obtain ⟨errno, failed⟩ := new_of_not_starts config kernel fds obtains starts
      rw [Method.result_of_eq_ok failed]
      refine iff_of_false ?_ fun both => starts both.2.1
      rintro ⟨⟩
  · obtain ⟨errno, after, failed, -⟩ := rawGadgetOpenNonblock_of_not_obtains obtains fds
    rw [Session.RawGadgetTransport.new,
      Method.result_of_eq_ok (Method.andThen_of_error failed)]
    refine iff_of_false ?_ fun both => obtains both.1
    rintro ⟨⟩

/-- The configuration of so many slots with the identity of a real receiver. -/
def defaultConfig (count : UInt8) : ConfigDescriptorSet where
  identity := .default
  numInterfaces := count
  strings := ((StringDescriptorMap.new.insert 0x01 ReceiverIdentity.default.manufacturer).insert
    0x02 ReceiverIdentity.default.productName).insert 0x03 ReceiverIdentity.default.serial

/-- The binary reaches its loop exactly when it is asked for one to four slots of a
controller that is named or the first one listed, and the kernel opens the device for it.
An argument that starts with a hyphen may stand anywhere. -/
theorem startup_eq_ok_iff {args : List String}
    {sysClassUdc : Except Errno (List (Except Errno DirEntry))} {replies : OpenReplies} {kernel : K}
    {fds : Finset Int32} {start : Start K} :
    startup args sysClassUdc replies kernel fds = .ok start ↔ ∃ count driver device,
      Asks args sysClassUdc count driver device ∧ (1 ≤ count ∧ count ≤ 4) ∧
        ObtainsFd replies ∧ Starts replies (replies .device).rv driver device ∧
          (start.demoMode = true ↔ "--demo" ∈ args) ∧ start.config = defaultConfig count ∧
            start.main = .new (defaultConfig count) (replies .device).rv kernel := by
  have demo : args.any (· == "--demo") = true ↔ "--demo" ∈ args := by
    rw [List.any_beq']
    exact List.contains_iff_mem
  constructor
  · intro started
    unfold startup at started
    split at started
    · cases started
    · next program =>
        dsimp only at started
        split at started
        · cases started
        · next driver named =>
            split at started
            · cases started
            · next config accepted =>
                obtain ⟨inRange, rfl⟩ := ConfigDescriptorSet.new_eq_ok_iff.mp accepted
                split at started
                · next transport opened =>
                    cases started
                    obtain ⟨obtains, starts, rfl⟩ := result_new_eq_ok_iff.mp opened
                    exact ⟨_, driver, _, asks_iff.mpr ⟨program, rfl, named, rfl⟩, inRange,
                      obtains, starts, demo, rfl, rfl⟩
                · cases started
                · cases started
  · rintro ⟨count, driver, device, asks, inRange, obtains, starts, demoMode, config, main⟩
    obtain ⟨program, rfl, named, rfl⟩ := asks_iff.mp asks
    obtain ⟨mode, startConfig, loop⟩ := start
    dsimp only at main config demoMode
    subst main config
    obtain rfl : mode = args.any (· == "--demo") :=
      Bool.eq_iff_iff.mpr (demoMode.trans demo.symm)
    have accepted : ConfigDescriptorSet.new (((positional args)[0]?.bind parseU8).getD 4) =
        .ok (defaultConfig (((positional args)[0]?.bind parseU8).getD 4)) :=
      ConfigDescriptorSet.new_eq_ok_iff.mpr ⟨inRange, rfl⟩
    have opened : (Session.RawGadgetTransport.new replies
        (defaultConfig (((positional args)[0]?.bind parseU8).getD 4)) driver _ kernel).result fds =
          some (.ok (.start (defaultConfig (((positional args)[0]?.bind parseU8).getD 4))
            (replies .device).rv kernel)) :=
      result_new_eq_ok_iff.mpr ⟨obtains, starts, rfl⟩
    unfold startup
    rw [if_neg program]
    dsimp only
    rw [named]
    dsimp only
    rw [accepted]
    dsimp only
    rw [opened]
    rfl

/-- A count that no `u8` holds stands for four slots. -/
example : ((startup ["x360-w-gadget", "--demo", "300", "3f980000.usb"] (readable [])
    (.succeeding 3) 0 ∅).toOption.map fun (start : Start Int32) =>
      (start.demoMode, start.config.numInterfaces)) = some (true, 4) := by
  decide +kernel

end X360Gadget.Binary
