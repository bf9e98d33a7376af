import ContentNode.Proofs.Address.Refusals
import ContentNode.Proofs.Store.File.Cleaned
import Mathlib.Data.Finset.Card
import Mathlib.Data.Finset.Image

/-!
# The inventory of a store

The path of an object spells the address: behind the directory of all objects it has two names,
which are the digits of the address, and no file of an object has a temporary name.  So a store
whose files are those of some addresses has just these objects and counts each of them once, as
long as no symbolic link stands in the place of one of their directories.
-/

namespace ContentNode.FileStore

open FileSystem

variable {store : FileStore} {actor : Actor} {now : Instant} {address other : Address}
  {hall place : Location} {tree : FileTree} {parent directory : FilePath} {name folder : FileName}
  {entries : List (FileName × FileType)} {stats : StoreStats} {S : Finset Address}

/-! ### Names that spell addresses -/

/-- The two names behind the directory of all objects spell an address. -/
structure Spells (store : FileStore) (address : Address) (directory file : String) : Prop where
  path : (store.objectPath address).components =
    store.objects.components ++ [.name (.text directory), .name (.text file)]
  length_directory : directory.length = 2
  length_file : file.length = 62
  digits : ∀ c ∈ (directory ++ file).toList, Address.LowerHex c
  read : Address.parse ("0x" ++ directory ++ file) = .ok address
  lasting : isTemporary (.text file) = false

theorem exists_spells (store : FileStore) (address : Address) :
    ∃ directory file, store.Spells address directory file := by
  have whole : (String.ofList (address.hexDigits.take 2) ++
      String.ofList (address.hexDigits.drop 2)).toList = address.hexDigits := by simp
  refine ⟨String.ofList (address.hexDigits.take 2), String.ofList (address.hexDigits.drop 2), ?_⟩
  constructor
  · exact components_objectPath store address
  · rw [String.length_ofList, List.length_take, Address.length_hexDigits]
    rfl
  · rw [String.length_ofList, List.length_drop, Address.length_hexDigits]
  · intro c member
    rw [whole] at member
    exact Address.isDigit_iff.mp (Address.isDigit_of_mem_hexDigits member)
  · rw [Address.parse_eq_ok_iff]
    exact String.toList_inj.mp (by simp [Address.toList_encode])
  · exact isTemporary_fileName address

/-! ### Counting without a failure -/

/-- Whether something in a directory is counted. -/
def counts (shown : FileName × FileType) : Bool := shown.2 = .file ∧ isTemporary shown.1 = false

/-- The files that are counted in the directories of a listing, with the names of these. -/
def counted (tree : FileTree) (hall : Location) (entries : List (FileName × FileType)) :
    List (FileName × FileName) :=
  (entries.filter fun shown => shown.2 = .directory).flatMap fun folder =>
    (((tree.contents (hall ++ [folder.1])).filter counts).map Prod.fst).map (Prod.mk folder.1)

theorem length_counted_cons (tree : FileTree) (hall : Location) (folder : FileName)
    (rest : List (FileName × FileType)) :
    (counted tree hall ((folder, .directory) :: rest)).length =
      ((tree.contents (hall ++ [folder])).filter counts).length +
        (counted tree hall rest).length := by
  simp [counted]

/-- A program leaves a tree as it is and gives totals with so many more objects. -/
def Adds (actor : Actor) (now : Instant) (tree : FileTree)
    (program : FileProgram (Except StoreError StoreStats)) (stats : StoreStats) (number : Nat) :
    Prop :=
  ∃ total, program.run (FileTree.perform actor now) tree = (.ok total, tree) ∧
    total.objects = stats.objects + number

theorem adds_count {path : FilePath}
    (fine : unfailing actor now (count stats path name).run tree = true) :
    Adds actor now tree (count stats path name).run stats (if isTemporary name then 0 else 1) ∧
      (isTemporary name = false → ∃ info, tree.metadata actor now path = .ok info) := by
  cases temporary : isTemporary name with
  | true =>
      rw [run_count_of_temporary stats path temporary]
      exact ⟨⟨stats, rfl, rfl⟩, nofun⟩
  | false =>
      rw [run_count stats path temporary] at fine ⊢
      rw [unfailing, FileTree.perform, Bool.and_eq_true] at fine
      rw [Adds, Program.run_step, FileTree.perform]
      cases told : tree.metadata actor now path with
      | error e =>
          rw [told] at fine
          cases fine.1
      | ok info => exact ⟨⟨_, rfl, rfl⟩, fun _ => ⟨info, rfl⟩⟩

/-- What follows on a program that adds goes on from its totals, without a failure too. -/
theorem Adds.onward {program : FileProgram (Except StoreError StoreStats)}
    {next : StoreStats → Step StoreStats} {number : Nat}
    (fine : unfailing actor now (program.bind (onward next)) tree = true)
    (adds : unfailing actor now program tree = true → Adds actor now tree program stats number) :
    ∃ total, total.objects = stats.objects + number ∧
      unfailing actor now (next total).run tree = true ∧
      (program.bind (onward next)).run (FileTree.perform actor now) tree =
        (next total).run.run (FileTree.perform actor now) tree := by
  rw [unfailing_bind, Bool.and_eq_true] at fine
  obtain ⟨total, ran, objects⟩ := adds fine.1
  have rest := fine.2
  rw [ran] at rest
  exact ⟨total, objects, rest, by rw [Program.run_bind, ran]; rfl⟩

/-- The files of a directory are counted. -/
theorem adds_visitFiles
    (fine : unfailing actor now (visitFiles count directory entries stats).run tree = true) :
    Adds actor now tree (visitFiles count directory entries stats).run stats
      (entries.filter counts).length := by
  induction entries generalizing stats with
  | nil => exact ⟨stats, rfl, rfl⟩
  | cons first rest ih =>
      obtain ⟨name, kind⟩ := first
      cases kind with
      | directory | link =>
          rw [List.filter_cons_of_neg (by simp [counts])]
          exact ih fine
      | file =>
          rw [run_visitFiles_file] at fine ⊢
          obtain ⟨middle, one, fine', ran⟩ := Adds.onward fine fun fine => (adds_count fine).1
          obtain ⟨total, ran', others⟩ := ih fine'
          refine ⟨total, ran.trans ran', ?_⟩
          rw [others, one]
          cases temporary : isTemporary name with
          | true =>
              rw [List.filter_cons_of_neg (by simp [counts, temporary]), if_pos rfl]
              omega
          | false =>
              rw [List.filter_cons_of_pos (by simp [counts, temporary]), List.length_cons,
                if_neg Bool.false_ne_true]
              omega

/-- Each of them is looked at. -/
theorem told_of_visitFiles
    (fine : unfailing actor now (visitFiles count directory entries stats).run tree = true)
    (listed : (name, .file) ∈ entries) (lasting : isTemporary name = false) :
    ∃ info, tree.metadata actor now (directory.child name) = .ok info := by
  induction entries generalizing stats with
  | nil => cases listed
  | cons first rest ih =>
      obtain ⟨shown, kind⟩ := first
      cases kind with
      | directory | link => exact ih fine (by simpa using listed)
      | file =>
          rw [run_visitFiles_file] at fine
          obtain ⟨middle, -, fine', -⟩ := Adds.onward fine fun fine => (adds_count fine).1
          rcases List.mem_cons.mp listed with same | inRest
          · cases same
            rw [unfailing_bind, Bool.and_eq_true] at fine
            exact (adds_count fine.1).2 lasting
          · exact ih fine' inRest

/-- The directories of a listing are where the listing was made, and all files in them are looked
at that are not temporary. -/
def Looked (actor : Actor) (now : Instant) (tree : FileTree) (parent : FilePath) (hall : Location)
    (entries : List (FileName × FileType)) : Prop :=
  ∀ folder, (folder, .directory) ∈ entries →
    FileTree.Leads tree actor FileTree.maxLinks [] (parent.child folder).components
        (hall ++ [folder]) ∧
      ∀ name, (name, .file) ∈ tree.contents (hall ++ [folder]) → isTemporary name = false →
        ∃ info, tree.metadata actor now ((parent.child folder).child name) = .ok info

/-- The files in the directories of a listing are counted. -/
theorem adds_visitDirectories
    (leads : FileTree.Leads tree actor FileTree.maxLinks [] parent.components hall)
    (listed : ∀ folder, (folder, .directory) ∈ entries →
      ∃ mode, tree.get? (hall ++ [folder]) = some (.directory mode))
    (fine : unfailing actor now (visitDirectories count parent entries stats).run tree = true) :
    Adds actor now tree (visitDirectories count parent entries stats).run stats
        (counted tree hall entries).length ∧ Looked actor now tree parent hall entries := by
  induction entries generalizing stats with
  | nil => exact ⟨⟨stats, rfl, rfl⟩, nofun⟩
  | cons first rest ih =>
      obtain ⟨folder, kind⟩ := first
      have below := fun other member => listed other (List.mem_cons_of_mem _ member)
      cases kind with
      | file | link =>
          obtain ⟨adds, told⟩ := ih below fine
          exact ⟨adds, fun other member => told other (by simpa using member)⟩
      | directory =>
          obtain ⟨mode, there⟩ := listed folder List.mem_cons_self
          have straight (target : String) : tree.get? (hall ++ [folder]) ≠ some (.link target) := by
            simp [there]
          rw [run_visitDirectories_directory] at fine ⊢
          rw [unfailing, FileTree.perform, Bool.and_eq_true] at fine
          obtain ⟨answered, fine⟩ := fine
          rw [Adds, Program.run_step, FileTree.perform]
          cases shows : tree.listDirectory actor (parent.child folder) with
          | error e =>
              rw [shows] at answered
              cases answered
          | ok shown =>
              rw [shows] at fine
              obtain ⟨leads', rfl⟩ := FileTree.listDirectory_child_eq_ok leads straight shows
              dsimp only at fine ⊢
              obtain ⟨middle, here, fine', ran⟩ := Adds.onward fine adds_visitFiles
              obtain ⟨⟨total, ran', others⟩, told⟩ := ih below fine'
              rw [unfailing_bind, Bool.and_eq_true] at fine
              refine ⟨⟨total, ran.trans ran', ?_⟩, fun other member => ?_⟩
              · rw [others, here, length_counted_cons, Nat.add_assoc]
              · rcases List.mem_cons.mp member with same | inRest
                · cases same
                  exact ⟨leads', fun name => told_of_visitFiles fine.1⟩
                · exact told other inRest

/-! ### The files of a set of addresses -/

theorem mem_counted_iff :
    (folder, name) ∈ counted tree hall entries ↔ (folder, .directory) ∈ entries ∧
      (name, .file) ∈ tree.contents (hall ++ [folder]) ∧ isTemporary name = false := by
  simp [counted, counts]

/-- No file is counted twice. -/
theorem nodup_counted (distinct : tree.Distinct) (hall : Location)
    (names : (entries.map Prod.fst).Nodup) : (counted tree hall entries).Nodup := by
  have folders : ((entries.filter fun shown => shown.2 = .directory).map Prod.fst).Nodup :=
    names.sublist (List.filter_sublist.map _)
  rw [counted, List.nodup_flatMap]
  constructor
  · intro folder _
    have files : (((tree.contents (hall ++ [folder.1])).filter counts).map Prod.fst).Nodup :=
      (nodup_listed distinct _).sublist (List.filter_sublist.map _)
    exact files.map (Prod.mk_right_injective _)
  · apply (List.pairwise_map.mp folders).imp
    intro folder folder' different pair here there
    obtain ⟨name, -, rfl⟩ := List.mem_map.mp here
    obtain ⟨name', -, same⟩ := List.mem_map.mp there
    exact different (Prod.ext_iff.mp same).1.symm

/-- The files two levels below a directory are those of a set of addresses, and temporary
ones. -/
structure Stocked (hall : Location) (tree : FileTree) (S : Finset Address) : Prop where
  files : ∀ folder name entry, tree.get? (hall ++ [folder] ++ [name]) = some entry →
    ∃ content modified mode, entry = .file content modified mode
  known : ∀ folder name entry, tree.get? (hall ++ [folder] ++ [name]) = some entry →
    isTemporary name = true ∨
      ∃ address ∈ S, directoryName address = folder ∧ fileName address = name
  held : ∀ address ∈ S, ∃ entry,
    tree.get? (hall ++ [directoryName address] ++ [fileName address]) = some entry

namespace Stocked

variable (stocked : Stocked hall tree S)

include stocked

/-- The file of each address is listed in its directory. -/
theorem listed (distinct : tree.Distinct) (rooted : tree.Rooted) (member : address ∈ S) :
    (directoryName address, .directory) ∈ tree.contents hall ∧
      (fileName address, .file) ∈ tree.contents (hall ++ [directoryName address]) := by
  obtain ⟨entry, there⟩ := stocked.held address member
  obtain ⟨content, modified, mode, rfl⟩ := stocked.files _ _ _ there
  obtain ⟨above, standing⟩ := rooted _ _ _ there
  exact ⟨List.mem_map.mpr ⟨_, distinct.mem_children_iff.mpr standing, rfl⟩,
    List.mem_map.mpr ⟨_, distinct.mem_children_iff.mpr there, rfl⟩⟩

theorem mem_counted_iff (distinct : tree.Distinct) (rooted : tree.Rooted) :
    (folder, name) ∈ counted tree hall (tree.contents hall) ↔
      ∃ address ∈ S, (directoryName address, fileName address) = (folder, name) := by
  rw [FileStore.mem_counted_iff]
  constructor
  · rintro ⟨-, listed, lasting⟩
    obtain ⟨content, modified, mode, there⟩ := distinct.file_of_contents listed
    rcases stocked.known _ _ _ there with temporary | ⟨address, member, rfl, rfl⟩
    · cases lasting.symm.trans temporary
    · exact ⟨address, member, rfl⟩
  · rintro ⟨address, member, same⟩
    cases same
    obtain ⟨above, listed⟩ := stocked.listed distinct rooted member
    exact ⟨above, listed, isTemporary_fileName address⟩

/-- As many files are counted as there are addresses. -/
theorem length_counted (distinct : tree.Distinct) (rooted : tree.Rooted) :
    (counted tree hall (tree.contents hall)).length = S.card := by
  have names : Function.Injective fun address => (directoryName address, fileName address) :=
    fun address other same => address_injective (Prod.ext_iff.mp same).1 (Prod.ext_iff.mp same).2
  have members : (counted tree hall (tree.contents hall)).toFinset =
      S.image fun address => (directoryName address, fileName address) := by
    ext ⟨folder, name⟩
    rw [List.mem_toFinset, stocked.mem_counted_iff distinct rooted, Finset.mem_image]
  rw [← List.toFinset_card_of_nodup (nodup_counted distinct hall (nodup_listed distinct hall)),
    members, Finset.card_image_of_injective S names]

/-- Where the path of an object leads to something, the address is one of the set. -/
theorem mem_of_stat {entry : Entry}
    (leads : FileTree.Leads tree actor FileTree.maxLinks [] store.objects.components hall)
    (straight : ∀ target, tree.get? (hall ++ [directoryName address]) ≠ some (.link target))
    (found : tree.stat actor true (store.objectPath address) = .ok (place, entry)) :
    address ∈ S := by
  have straight' (target : String) :
      tree.get? (hall ++ [directoryName address] ++ [fileName address]) ≠ some (.link target) := by
    intro there
    obtain ⟨_, _, _, same⟩ := stocked.files _ _ _ there
    cases same
  obtain ⟨left, further⟩ := leads.follow_append true
    [.name (directoryName address), .name (fileName address)] (.inl (List.cons_ne_nil _ _))
  have walk := FileTree.follow_of_stat found
  rw [components_objectPath, further] at walk
  obtain ⟨-, there⟩ := FileTree.found_of_follow_nil
    (FileTree.follow_of_name_found straight' (FileTree.follow_of_name_found straight walk))
  rcases stocked.known _ _ _ there with temporary | ⟨other, member, sameDirectory, sameFile⟩
  · cases (isTemporary_fileName address).symm.trans temporary
  · rwa [← address_injective sameDirectory sameFile]

end Stocked

/-! ### How much there is -/

/-- What stands where a path leads to a directory is a directory. -/
theorem eq_directory_of_kindOf {path : FilePath} {kind : FileType}
    (leads : FileTree.Leads tree actor FileTree.maxLinks [] path.components place)
    (told : tree.kindOf actor path = .ok kind) : kind = .directory := by
  obtain ⟨mode, there⟩ := leads.directory
  obtain ⟨left, further⟩ := leads.follow_append true [] (.inr rfl)
  unfold FileTree.kindOf at told
  cases found : tree.stat actor true path with
  | error e =>
      rw [found] at told
      cases told
  | ok pair =>
      obtain ⟨other, entry⟩ := pair
      have walk := FileTree.follow_of_stat found
      rw [List.append_nil] at further
      rw [further] at walk
      obtain ⟨-, held⟩ := FileTree.found_of_follow_nil walk
      cases there.symm.trans held
      rw [found] at told
      cases told
      rfl

/-- All files two levels below the directory of all objects are counted. -/
theorem adds_stats (distinct : tree.Distinct)
    (leads : FileTree.Leads tree actor FileTree.maxLinks [] store.objects.components hall)
    (fine : unfailing actor now store.stats.run tree = true) :
    Adds actor now tree store.stats.run .empty (counted tree hall (tree.contents hall)).length ∧
      Looked actor now tree store.objects hall (tree.contents hall) := by
  rw [FileStore.stats, run_walk] at fine ⊢
  rw [unfailing, FileTree.perform, Bool.and_eq_true] at fine
  obtain ⟨answered, fine⟩ := fine
  rw [Adds, Program.run_step, FileTree.perform]
  cases told : tree.kindOf actor store.objects with
  | error e =>
      rw [told] at answered
      cases answered
  | ok kind =>
      obtain rfl := eq_directory_of_kindOf leads told
      rw [told] at fine
      dsimp only at fine ⊢
      rw [unfailing, FileTree.perform, Bool.and_eq_true] at fine
      obtain ⟨answered, fine⟩ := fine
      rw [Program.run_step, FileTree.perform]
      cases shows : tree.listDirectory actor store.objects with
      | error e =>
          rw [shows] at answered
          cases answered
      | ok shown =>
          rw [shows] at fine
          obtain ⟨hall', leads', rfl⟩ := FileTree.listDirectory_eq_ok shows
          obtain rfl := leads'.unique leads
          exact adds_visitDirectories leads (fun _ => distinct.directory_of_contents) fine

/-- An object exists where its path leads to something. -/
theorem perform_exists_iff :
    (store.perform actor now (.exists_ address) tree).1 = true ↔
      ∃ place entry, tree.stat actor true (store.objectPath address) = .ok (place, entry) := by
  rw [perform, program_exists_eq, Program.run_step, FileTree.perform, FileTree.exists_]
  rcases tree.stat actor true (store.objectPath address) with e | ⟨place, entry⟩
  · refine iff_of_false (fun present => ?_) (by rintro ⟨_, _, found⟩; cases found)
    rcases e with errno | _ | _ | _ | _
    · cases errno <;> cases present
    all_goals cases present
  · exact ⟨fun _ => ⟨place, entry, rfl⟩, fun _ => rfl⟩

/-- The path of an object spells its address, so that it is the path of no other object and its
name is not temporary.  In a tree whose files are those of a set of addresses, apart from temporary
ones, just these addresses exist, and they are as many as there are objects, if no symbolic link
stands in the place of a directory of objects and nothing fails. -/
theorem paths_name_objects (store : FileStore) :
    (∀ address, ∃ directory file, store.Spells address directory file) ∧
    (∀ address other, (store.objectPath address).components = (store.objectPath other).components →
      address = other) ∧
    ∀ (actor : Actor) (now : Instant) (hall : Location) (tree : FileTree) (S : Finset Address),
      tree.Distinct → tree.Rooted →
      FileTree.Leads tree actor FileTree.maxLinks [] store.objects.components hall →
      Stocked hall tree S →
      (∀ address target, tree.get? (hall ++ [directoryName address]) ≠ some (.link target)) →
      unfailing actor now store.stats.run tree = true →
      (∀ later address,
        (store.perform actor later (.exists_ address) tree).1 = true ↔ address ∈ S) ∧
      ∃ stats, store.perform actor now .stats tree = (.ok stats, tree) ∧
        stats.objects = S.card := by
  refine ⟨exists_spells store, fun _ _ => eq_of_components_eq, ?_⟩
  intro actor now hall tree S distinct rooted leads stocked straight fine
  obtain ⟨⟨stats, ran, objects⟩, told⟩ := adds_stats distinct leads fine
  refine ⟨fun later address => ?_, stats, ran, ?_⟩
  · rw [perform_exists_iff]
    constructor
    · rintro ⟨place, entry, found⟩
      exact stocked.mem_of_stat leads (straight address) found
    · intro member
      obtain ⟨above, listed⟩ := stocked.listed distinct rooted member
      obtain ⟨content, modified, mode, there⟩ := distinct.file_of_contents listed
      obtain ⟨leads', looked⟩ := told _ above
      obtain ⟨info, known⟩ := looked _ listed (isTemporary_fileName address)
      obtain ⟨found, -⟩ := FileTree.metadata_child_eq_ok leads' there known
      exact ⟨_, _, FileTree.stat_of_file (plain_fileName address).1 found⟩
  · rw [objects, stocked.length_counted distinct rooted]
    exact Nat.zero_add _

/-! ### Shelves with one object -/

/-- It can be told from the entries whether a tree has the files of a set of addresses. -/
theorem stocked_of_entries (distinct : tree.Distinct)
    (told : ∀ shown ∈ tree.entries, shown.1.dropLast.dropLast = hall →
      shown.1.length = hall.length + 2 → shown.2.type = .file ∧
        (shown.1.getLast?.any isTemporary = true ∨
          ∃ address ∈ S, shown.1 = hall ++ [directoryName address] ++ [fileName address]))
    (held : ∀ address ∈ S,
      (tree.get? (hall ++ [directoryName address] ++ [fileName address])).isSome = true) :
    Stocked hall tree S := by
  have known {folder name : FileName} {entry : Entry}
      (there : tree.get? (hall ++ [folder] ++ [name]) = some entry) :=
    told _ ((distinct.mem_entries_iff (by simp)).mpr there) (by simp) (by simp)
  constructor
  · intro folder name entry there
    have kind := (known there).1
    cases entry with
    | file content modified mode => exact ⟨content, modified, mode, rfl⟩
    | directory mode => cases kind
    | link target => cases kind
  · intro folder name entry there
    rcases (known there).2 with temporary | ⟨address, member, same⟩
    · exact .inl (by simpa using temporary)
    · exact .inr ⟨address, member, by simp_all⟩
  · exact fun address member => Option.isSome_iff_exists.mp (held address member)

/-- A store with one object, in a directory that may be used in some way, and other entries. -/
def shelf (mode : Nat) (others : List (Location × Entry)) : FileTree :=
  ⟨[([.text "s"], .directory Entry.directoryMode),
    (objectsPlace [.text "s"], .directory Entry.directoryMode),
    (directoryPlace [.text "s"] zeros, .directory mode),
    (objectPlace [.text "s"] zeros, .file ⟨#[67, 65, 83, 49]⟩ 0 Entry.fileMode)] ++ others, 0⟩

/-- A temporary file, and a file right below the directory of all objects. -/
def strays : List (Location × Entry) :=
  [(objectsPlace [.text "s"] ++ [.text "ab"], .directory Entry.directoryMode),
    (objectsPlace [.text "s"] ++ [.text "ab", .text ".tmp-000000"],
      .file .empty 0 Entry.temporaryMode),
    (objectsPlace [.text "s"] ++ [.text "notes"], .file .empty 0 Entry.fileMode)]

/-- A link in the place of a directory, to the directory of the object. -/
def passage : List (Location × Entry) :=
  [(objectsPlace [.text "s"] ++ [.text "11"], .link "00")]

/-- The address whose file is found through the link. -/
def behindPassage : Address := ⟨(Vector.replicate 32 0).set 0 0x11⟩

theorem leads_shelf (mode : Nat) (others : List (Location × Entry)) :
    FileTree.Leads (shelf mode others) .owner FileTree.maxLinks []
      (FileStore.mk "s").objects.components (objectsPlace [.text "s"]) := by
  rw [objects_eq, FilePath.components_child, components_s]
  exact .down ⟨_, rfl, rfl⟩ (by decide) rfl (.down ⟨_, rfl, rfl⟩ (by decide) rfl (.arrived rfl))

theorem paths_name_objects_of_strays :
    (shelf Entry.directoryMode strays).Distinct ∧ (shelf Entry.directoryMode strays).Rooted ∧
      Stocked (objectsPlace [.text "s"]) (shelf Entry.directoryMode strays) {zeros} ∧
      unfailing .owner 0 (FileStore.mk "s").stats.run (shelf Entry.directoryMode strays) = true ∧
      (∀ later address, ((FileStore.mk "s").perform .owner later (.exists_ address)
        (shelf Entry.directoryMode strays)).1 = true ↔ address ∈ ({zeros} : Finset Address)) ∧
      ∃ stats, (FileStore.mk "s").perform .owner 0 .stats (shelf Entry.directoryMode strays) =
        (.ok stats, shelf Entry.directoryMode strays) ∧ stats.objects = 1 := by
  have distinct : (shelf Entry.directoryMode strays).Distinct :=
    (by decide : (shelf Entry.directoryMode strays).places.Nodup)
  have rooted : (shelf Entry.directoryMode strays).Rooted :=
    FileTree.rooted_of_places (by decide)
  have stocked : Stocked (objectsPlace [.text "s"]) (shelf Entry.directoryMode strays) {zeros} :=
    stocked_of_entries distinct (by decide +kernel) (by decide +kernel)
  have fine : unfailing .owner 0 (FileStore.mk "s").stats.run (shelf Entry.directoryMode strays) =
      true := by decide +kernel
  have straight : ∀ shown ∈ (shelf Entry.directoryMode strays).entries, shown.2.type ≠ .link := by
    decide
  refine ⟨distinct, rooted, stocked, fine, ?_⟩
  exact (paths_name_objects ⟨"s"⟩).2.2 .owner 0 _ _ _ distinct rooted (leads_shelf _ _) stocked
    (fun address target there =>
      straight _ ((distinct.mem_entries_iff (by simp)).mpr there) rfl) fine

/-- Through a link in the place of a directory of objects, an object exists that is not counted.
If a directory may not be used, or there is none for all objects, it cannot be told how much there
is. -/
theorem objects_miscounted :
    (shelf Entry.directoryMode passage).Distinct ∧ (shelf Entry.directoryMode passage).Rooted ∧
      Stocked (objectsPlace [.text "s"]) (shelf Entry.directoryMode passage) {zeros} ∧
      unfailing .owner 0 (FileStore.mk "s").stats.run (shelf Entry.directoryMode passage) = true ∧
      (∀ S : Finset Address, ¬ ((∀ address, ((FileStore.mk "s").perform .owner 0
          (.exists_ address) (shelf Entry.directoryMode passage)).1 = true ↔ address ∈ S) ∧
        ∃ stats, ((FileStore.mk "s").perform .owner 0 .stats
          (shelf Entry.directoryMode passage)).1 = .ok stats ∧ stats.objects = S.card)) ∧
      Stocked (objectsPlace [.text "s"]) (shelf 0 []) {zeros} ∧
      ((FileStore.mk "s").perform .owner 0 (.exists_ zeros) (shelf 0 [])).1 = false ∧
      (error? ((FileStore.mk "s").perform .owner 0 .stats (shelf 0 [])).1).isSome = true ∧
      Stocked [objectsName] .empty ∅ ∧
      (error? ((FileStore.mk "/").perform .owner 0 .stats .empty).1).isSome = true := by
  have distinct : (shelf Entry.directoryMode passage).Distinct :=
    (by decide : (shelf Entry.directoryMode passage).places.Nodup)
  have distinct' : (shelf 0 []).Distinct := (by decide : (shelf 0 []).places.Nodup)
  refine ⟨distinct, FileTree.rooted_of_places (by decide),
    stocked_of_entries distinct (by decide +kernel) (by decide +kernel), by decide +kernel, ?_,
    stocked_of_entries distinct' (by decide +kernel) (by decide +kernel), by decide +kernel,
    by decide +kernel, stocked_of_entries List.nodup_nil nofun nofun, by decide +kernel⟩
  rintro S ⟨present, stats, told, objects⟩
  have here : zeros ∈ S := (present zeros).mp (by decide +kernel)
  have there : behindPassage ∈ S := (present behindPassage).mp (by decide +kernel)
  have several : 1 < S.card := Finset.one_lt_card.mpr ⟨zeros, here, behindPassage, there, by decide⟩
  have single : (((FileStore.mk "s").perform .owner 0 .stats
      (shelf Entry.directoryMode passage)).1.toOption).map StoreStats.objects = some 1 := by
    decide +kernel
  rw [told] at single
  have one : stats.objects = 1 := Option.some.inj single
  omega

end ContentNode.FileStore
