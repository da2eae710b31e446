import Mathlib.Data.List.Sort
import Mathlib.Data.String.Basic
import Mathlib.Order.Bounds.Basic
import X360Gadget.Kernel.RawGadget

/-!
# Finding a controller

`detect_udc` lists `/sys/class/udc` and picks the first name in sorted order
among the directories. It asks each entry for its own type, so a symbolic link
to a directory is no directory, and sysfs fills its class directories with
symbolic links.
-/

namespace X360Gadget

open X360Gadget.Kernel

/-! ## Listings -/

/-- What an entry is. -/
inductive EntryKind where
  | directory
  | linkToDirectory
  | other
deriving DecidableEq, Repr

/-- `FileType::is_dir` of the entry itself, which follows no link. -/
def EntryKind.isDir : EntryKind → Bool
  | .directory => true
  | .linkToDirectory => false
  | .other => false

/-- An entry of a listing; asking for its type may fail. -/
structure DirEntry where
  fileName : String
  fileType : Except Errno EntryKind

/-- Why no controller was found. -/
inductive UdcError where
  | os (errno : Errno)
  /-- `ErrorKind::NotFound` with the text "no UDC found". -/
  | notFound
deriving DecidableEq, Repr

/-- The names of the directories in a listing, in its order. -/
def directoryNames : List (Except Errno DirEntry) → Except UdcError (List String)
  | [] => .ok []
  | .error errno :: _ => .error (.os errno)
  | .ok entry :: rest =>
      match entry.fileType with
      | .error errno => .error (.os errno)
      | .ok kind =>
          match directoryNames rest with
          | .ok names => .ok (if kind.isDir then entry.fileName :: names else names)
          | .error why => .error why

/-- The first name of a listing's directories. Strings compare by code points,
which is the byte order of their UTF-8. -/
def detectUdcIn (readDir : Except Errno (List (Except Errno DirEntry))) :
    Except UdcError String :=
  match readDir with
  | .error errno => .error (.os errno)
  | .ok entries =>
      match directoryNames entries with
      | .error why => .error why
      | .ok names =>
          match (names.insertionSort (· ≤ ·)).head? with
          | some name => .ok name
          | none => .error .notFound

/-! ## Readable directories -/

/-- A name and what it names. -/
structure Entry where
  name : String
  kind : EntryKind
deriving DecidableEq, Repr

/-- The listing of a directory in which everything can be read. -/
def readable (entries : List Entry) : Except Errno (List (Except Errno DirEntry)) :=
  .ok (entries.map fun entry => .ok ⟨entry.name, .ok entry.kind⟩)

/-- The names of the plain directories. -/
def directories (entries : List Entry) : List String :=
  (entries.filter (·.kind.isDir)).map (·.name)

/-- A directory or a link to one. -/
def Entry.LeadsToDirectory (entry : Entry) : Prop :=
  entry.kind = .directory ∨ entry.kind = .linkToDirectory

/-- The names under which the directory exposes directories. -/
def exposed (entries : List Entry) : Set String :=
  { name | ∃ entry ∈ entries, entry.name = name ∧ entry.LeadsToDirectory }

/-- Reading a readable listing finds its plain directories. -/
theorem directoryNames_readable (entries : List Entry) :
    directoryNames (entries.map fun entry => .ok ⟨entry.name, .ok entry.kind⟩) =
      .ok (directories entries) := by
  induction entries with
  | nil => rfl
  | cons entry rest ih =>
      simp only [List.map_cons, directoryNames, ih, directories]
      by_cases isDir : entry.kind.isDir <;> simp [isDir]

/-- The names listed are those of the entries that are directories. -/
theorem mem_directories {entries : List Entry} {name : String} :
    name ∈ directories entries ↔
      ∃ entry ∈ entries, entry.name = name ∧ entry.kind = .directory := by
  simp only [directories, List.mem_map, List.mem_filter]
  constructor
  · rintro ⟨entry, ⟨member, isDir⟩, named⟩
    refine ⟨entry, member, named, ?_⟩
    cases kind : entry.kind with
    | directory => rfl
    | linkToDirectory => simp [kind, EntryKind.isDir] at isDir
    | other => simp [kind, EntryKind.isDir] at isDir
  · rintro ⟨entry, member, named, kind⟩
    exact ⟨entry, ⟨member, by rw [kind]; rfl⟩, named⟩

/-- Sorting first puts a least element at the head. -/
theorem head?_insertionSort_eq_some_iff {α : Type} [LinearOrder α] {values : List α} {least : α} :
    (values.insertionSort (· ≤ ·)).head? = some least ↔
      IsLeast { value | value ∈ values } least := by
  have sorted := List.pairwise_insertionSort (· ≤ ·) values
  have members := fun value => (List.mem_insertionSort (· ≤ ·) (l := values) (x := value))
  generalize values.insertionSort (· ≤ ·) = ordered at sorted members
  cases ordered with
  | nil =>
      simp only [List.head?_nil, reduceCtorEq, false_iff]
      rintro ⟨member, -⟩
      exact List.not_mem_nil ((members least).mpr member)
  | cons head tail =>
      have below : head ∈ lowerBounds { value | value ∈ values } := by
        intro value member
        rcases List.mem_cons.mp ((members value).mpr member) with same | later
        · exact le_of_eq same.symm
        · exact List.rel_of_pairwise_cons sorted later
      have isLeast : IsLeast { value | value ∈ values } head :=
        ⟨(members head).mp List.mem_cons_self, below⟩
      rw [List.head?_cons, Option.some.injEq]
      exact ⟨fun same => same ▸ isLeast, fun other => isLeast.unique other⟩

/-- On a readable directory the result is the least name of a plain directory. -/
theorem detectUdcIn_eq_ok_iff {entries : List Entry} {name : String} :
    detectUdcIn (readable entries) = .ok name ↔
      IsLeast { name | name ∈ directories entries } name := by
  rw [← head?_insertionSort_eq_some_iff]
  simp only [detectUdcIn, readable, directoryNames_readable]
  cases (directories entries).insertionSort (· ≤ ·) |>.head? <;> simp

/-- Nothing is found exactly without a plain directory. -/
theorem detectUdcIn_eq_notFound_iff {entries : List Entry} :
    detectUdcIn (readable entries) = .error .notFound ↔ directories entries = [] := by
  simp only [detectUdcIn, readable, directoryNames_readable]
  cases sorted : (directories entries).insertionSort (· ≤ ·) with
  | nil =>
      have empty := (List.perm_insertionSort (· ≤ ·) (directories entries)).symm
      rw [sorted] at empty
      simp [empty.eq_nil]
  | cons head tail =>
      have member : head ∈ directories entries := by
        rw [← List.mem_insertionSort (· ≤ ·), sorted]
        exact List.mem_cons_self
      simp only [List.head?_cons, reduceCtorEq, false_iff]
      exact List.ne_nil_of_mem member

/-- The order of a listing does not matter. -/
theorem detectUdcIn_perm {entries order : List Entry} (permuted : order.Perm entries) :
    detectUdcIn (readable order) = detectUdcIn (readable entries) := by
  have names : (directories order).Perm (directories entries) :=
    (permuted.filter _).map _
  have sorted : (directories order).insertionSort (· ≤ ·) =
      (directories entries).insertionSort (· ≤ ·) := by
    refine List.Perm.eq_of_pairwise' (r := (· ≤ ·)) (List.pairwise_insertionSort _ _)
      (List.pairwise_insertionSort _ _) ?_
    exact (List.perm_insertionSort _ _).trans (names.trans (List.perm_insertionSort _ _).symm)
  simp only [detectUdcIn, readable, directoryNames_readable, sorted]

/-! ## The controllers a directory exposes -/

/-- In every order of the listing the least exposed name is found, and nothing
exactly when no name is exposed. -/
def FindsController (entries : List Entry) : Prop :=
  ∀ order : List Entry, order.Perm entries →
    (∀ name, detectUdcIn (readable order) = .ok name ↔ IsLeast (exposed entries) name) ∧
      (detectUdcIn (readable order) = .error .notFound ↔ exposed entries = ∅)

/-- No link to a directory comes before every plain directory. -/
def PlainFirst (entries : List Entry) : Prop :=
  ∀ link ∈ entries, link.kind = .linkToDirectory →
    ∃ entry ∈ entries, entry.kind = .directory ∧ entry.name ≤ link.name

section Exposed

variable {entries : List Entry}

/-- Plain directories are exposed. -/
theorem exposed_of_mem_directories {name : String} (member : name ∈ directories entries) :
    name ∈ exposed entries := by
  obtain ⟨entry, found, named, kind⟩ := mem_directories.mp member
  exact ⟨entry, found, named, .inl kind⟩

/-- With a plain directory at or before each link, the least plain directory is
the least exposed name. -/
theorem PlainFirst.isLeast_iff (plainFirst : PlainFirst entries) {name : String} :
    IsLeast { name | name ∈ directories entries } name ↔ IsLeast (exposed entries) name := by
  have below : ∀ found ∈ exposed entries, ∃ plain ∈ directories entries, plain ≤ found := by
    rintro found ⟨entry, member, rfl, directory | link⟩
    · exact ⟨entry.name, mem_directories.mpr ⟨entry, member, rfl, directory⟩, le_refl _⟩
    · obtain ⟨plain, plainMember, directory, ordered⟩ := plainFirst entry member link
      exact ⟨plain.name, mem_directories.mpr ⟨plain, plainMember, rfl, directory⟩, ordered⟩
  constructor
  · rintro ⟨member, least⟩
    refine ⟨exposed_of_mem_directories member, ?_⟩
    intro found isExposed
    obtain ⟨plain, plainMember, ordered⟩ := below found isExposed
    exact le_trans (least plainMember) ordered
  · rintro ⟨isExposed, least⟩
    obtain ⟨plain, plainMember, ordered⟩ := below name isExposed
    have same : plain = name :=
      le_antisymm ordered (least (exposed_of_mem_directories plainMember))
    refine ⟨same ▸ plainMember, ?_⟩
    intro other otherMember
    exact least (exposed_of_mem_directories otherMember)

end Exposed

/-- The controller is found exactly when no link to a directory comes before
every plain directory. -/
theorem findsController_iff (entries : List Entry) :
    FindsController entries ↔ PlainFirst entries := by
  constructor
  · intro finds link member kind
    obtain ⟨found, missing⟩ := finds entries (List.Perm.refl entries)
    have isExposed : link.name ∈ exposed entries := ⟨link, member, rfl, .inr kind⟩
    have plainExists : directories entries ≠ [] := by
      intro empty
      rw [missing.mp (detectUdcIn_eq_notFound_iff.mpr empty)] at isExposed
      exact isExposed
    obtain ⟨least, isLeast⟩ : ∃ least, IsLeast { name | name ∈ directories entries } least := by
      refine ⟨_, head?_insertionSort_eq_some_iff.mp (List.head?_eq_some_head ?_)⟩
      intro empty
      have permuted := (List.perm_insertionSort (· ≤ ·) (directories entries)).symm
      rw [empty] at permuted
      exact plainExists permuted.eq_nil
    obtain ⟨plain, plainMember, named, directory⟩ := mem_directories.mp isLeast.1
    have exposedLeast := (found least).mp (detectUdcIn_eq_ok_iff.mpr isLeast)
    exact ⟨plain, plainMember, directory, named ▸ exposedLeast.2 isExposed⟩
  · intro plainFirst order permuted
    rw [detectUdcIn_perm permuted]
    refine ⟨fun name => detectUdcIn_eq_ok_iff.trans plainFirst.isLeast_iff, ?_⟩
    rw [detectUdcIn_eq_notFound_iff, List.eq_nil_iff_forall_not_mem, Set.eq_empty_iff_forall_notMem]
    constructor
    · rintro noPlain name ⟨entry, member, rfl, directory | link⟩
      · exact noPlain _ (mem_directories.mpr ⟨entry, member, rfl, directory⟩)
      · obtain ⟨plain, plainMember, directory, -⟩ := plainFirst entry member link
        exact noPlain _ (mem_directories.mpr ⟨plain, plainMember, rfl, directory⟩)
    · intro nothing name member
      exact nothing name (exposed_of_mem_directories member)

/-- The entry of a Raspberry Pi's class directory is a link, and it is not found. -/
theorem not_findsController_link : ¬FindsController [⟨"20980000.usb", .linkToDirectory⟩] := by
  intro finds
  have missing : detectUdcIn (readable [⟨"20980000.usb", .linkToDirectory⟩]) =
      .error .notFound := rfl
  have isExposed : "20980000.usb" ∈ exposed [⟨"20980000.usb", .linkToDirectory⟩] :=
    ⟨_, List.mem_singleton_self _, rfl, .inr rfl⟩
  rw [(finds _ (List.Perm.refl _)).2.mp missing] at isExposed
  exact isExposed

example : detectUdcIn (readable [⟨"3f980000.usb", .directory⟩, ⟨"20980000.usb", .directory⟩]) =
    .ok "20980000.usb" := by
  decide

end X360Gadget
